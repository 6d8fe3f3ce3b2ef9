import ScoutStack.Mapper.FineMap

/-!
# What the map cloud consists of

An entry of the fine map is emitted when the coarse voxel that it was claimed
for is live in the same generation and static; it is collected when it is empty
or that voxel is gone.  The cloud depends on nothing else, so neither building
it nor sweeping the coarse table changes what the next build returns.
-/

namespace ScoutStack

variable {K : Type*} [Field K] [LinearOrder K]

/-- The clouds that a scan puts out at once, as opposed to map clouds and answers. -/
def Output.isScan : Output K → Bool
  | .staticScan .. | .dynamicScan .. => true
  | .staticMap .. | .pcdFile .. | .saveResponse .. => false

/-- Two outputs agree when they differ at most in the order of the points of a map
cloud. -/
inductive Output.Same : Output K → Output K → Prop where
  | refl (output : Output K) : Same output output
  | staticMap (header : Header) {left right : Cloud K} : left.Perm right →
      Same (.staticMap header left) (.staticMap header right)
  | pcdFile (path : String) {left right : Cloud K} : left.Perm right →
      Same (.pcdFile path left) (.pcdFile path right)

omit [Field K] [LinearOrder K] in
/-- Agreeing outputs contain the same scans. -/
theorem filter_isScan_eq_of_same {left right : List (Output K)}
    (same : List.Forall₂ Output.Same left right) :
    left.filter Output.isScan = right.filter Output.isScan := by
  induction same with
  | nil => rfl
  | cons first _ ih =>
      cases first with
      | refl output => rw [List.filter_cons, List.filter_cons, ih]
      | staticMap header points => exact ih
      | pcdFile path points => exact ih

namespace PointcloudMapper

/-- The coarse voxel at the key is live in the given generation. -/
def Live (mapper : PointcloudMapper K) (key : VoxelKey) (generation : UInt64) : Prop :=
  ∃ state, mapper.temporalVoxels.lookup key = some state ∧ state.generation = generation

variable {cfg : Config K} {mapper : PointcloudMapper K}

variable (mapper) in
/-- With the dynamic filter on, an entry is empty, or its coarse voxel is not live in its
generation, or it is told by the coarse voxel whether it is static. -/
theorem visit_cases (enabled : cfg.dynamicFilterEnable = true) (entry : MapVoxelState K) :
    (entry.sampleCount = 0 ∧ mapper.visit cfg entry = .empty) ∨
      (entry.sampleCount ≠ 0 ∧ ¬mapper.Live entry.occupancyKey entry.occupancyGeneration ∧
        mapper.visit cfg entry = .stale) ∨
      ∃ occupancy, entry.sampleCount ≠ 0 ∧
        mapper.temporalVoxels.lookup entry.occupancyKey = some occupancy ∧
        occupancy.generation = entry.occupancyGeneration ∧
        mapper.visit cfg entry = if isStatic cfg occupancy then .emitted else .unconfirmed := by
  unfold visit Live
  by_cases empty : entry.sampleCount = 0
  · simp [empty]
  · cases found : mapper.temporalVoxels.lookup entry.occupancyKey with
    | none => simp [empty, enabled]
    | some occupancy =>
        by_cases sameLife : occupancy.generation = entry.occupancyGeneration
        · cases static : isStatic cfg occupancy with
          | true => simp [empty, enabled, sameLife, static]
          | false => simp [empty, enabled, sameLife, static]
        · simp [empty, enabled, sameLife]

/-- With the dynamic filter on, exactly the empty entries and the entries of a
generation that is not live are collected. -/
theorem collects_iff (enabled : cfg.dynamicFilterEnable = true) (entry : MapVoxelState K) :
    mapper.collects cfg entry = true ↔
      entry.sampleCount = 0 ∨ ¬mapper.Live entry.occupancyKey entry.occupancyGeneration := by
  unfold collects
  rcases mapper.visit_cases enabled entry with
    ⟨empty, visited⟩ | ⟨_, dead, visited⟩ | ⟨occupancy, holds, found, sameLife, visited⟩
  · simp [visited, empty]
  · simp [visited, dead]
  · have live : mapper.Live entry.occupancyKey entry.occupancyGeneration :=
      ⟨occupancy, found, sameLife⟩
    cases static : isStatic cfg occupancy with
    | true => simp [visited, static, holds, live]
    | false => simp [visited, static, holds, live]

/-- Without the dynamic filter only empty entries are collected. -/
theorem collects_iff_of_disabled (disabled : cfg.dynamicFilterEnable = false)
    (entry : MapVoxelState K) :
    mapper.collects cfg entry = true ↔ entry.sampleCount = 0 := by
  unfold collects visit
  by_cases empty : entry.sampleCount = 0
  · simp [empty]
  · simp [empty, disabled]

/-- Without the dynamic filter every entry that holds a sample is emitted. -/
theorem emits_of_disabled (disabled : cfg.dynamicFilterEnable = false)
    (entry : MapVoxelState K) :
    mapper.emits cfg entry = if entry.sampleCount = 0 then none else some entry.mean := by
  unfold emits visit
  by_cases empty : entry.sampleCount = 0
  · simp [empty]
  · simp [empty, disabled]

/-- With the dynamic filter on, an entry is emitted when it holds a sample and its
coarse voxel is live in its generation and static. -/
theorem emits_eq_some_iff (enabled : cfg.dynamicFilterEnable = true) {entry : MapVoxelState K}
    {point : Point K} :
    mapper.emits cfg entry = some point ↔
      entry.sampleCount ≠ 0 ∧ point = entry.mean ∧
        ∃ occupancy, mapper.temporalVoxels.lookup entry.occupancyKey = some occupancy ∧
          occupancy.generation = entry.occupancyGeneration ∧ isStatic cfg occupancy = true := by
  unfold emits
  rcases mapper.visit_cases enabled entry with
    ⟨empty, visited⟩ | ⟨_, dead, visited⟩ | ⟨occupancy, holds, found, sameLife, visited⟩
  · simp [visited, empty]
  · simp only [visited, reduceCtorEq, false_iff]
    rintro ⟨_, _, occupancy, found, sameLife, _⟩
    exact dead ⟨occupancy, found, sameLife⟩
  · cases static : isStatic cfg occupancy with
    | true =>
        simp [visited, static, holds, found, sameLife]
        exact eq_comm
    | false => simp [visited, static, holds, found, sameLife]

/-- A collected entry is not emitted. -/
theorem emits_of_collects {entry : MapVoxelState K} (collected : mapper.collects cfg entry = true) :
    mapper.emits cfg entry = none := by
  unfold collects at collected
  unfold emits
  cases branch : mapper.visit cfg entry with
  | empty | stale | unconfirmed => rfl
  | emitted => simp [branch] at collected

/-- A sweep erases no static voxel, so it changes nothing that is emitted. -/
theorem emits_maybeCleanup (now : Time) (entry : MapVoxelState K) :
    (mapper.maybeCleanup cfg now).emits cfg entry = mapper.emits cfg entry := by
  cases enabled : cfg.dynamicFilterEnable with
  | false => rw [emits_of_disabled enabled, emits_of_disabled enabled]
  | true =>
      apply Option.ext
      intro point
      rw [emits_eq_some_iff enabled, emits_eq_some_iff enabled, lookup_maybeCleanup]
      apply and_congr_right
      intro _
      apply and_congr_right
      intro _
      apply exists_congr
      intro occupancy
      rw [Option.filter_eq_some_iff, and_assoc]
      apply and_congr_right
      intro _
      apply and_iff_right_of_imp
      rintro ⟨_, static⟩
      simp [OccupancyVoxelState.expired, static]

/-- The points of the cloud are those that the entries emit. -/
theorem mem_buildMapCloud {point : Point K} :
    point ∈ (mapper.buildMapCloud cfg).2 ↔
      ∃ key entry, mapper.mapVoxels.lookup key = some entry ∧
        mapper.emits cfg entry = some point := by
  rw [buildMapCloud, Table.mem_collect]

/-- The cloud is determined, up to order, by what each fine key emits. -/
theorem buildMapCloud_perm {left right : PointcloudMapper K}
    (agree : ∀ key, (left.mapVoxels.lookup key).bind (left.emits cfg) =
      (right.mapVoxels.lookup key).bind (right.emits cfg)) :
    (left.buildMapCloud cfg).2.Perm (right.buildMapCloud cfg).2 :=
  Table.collect_perm agree

/-- While voxels only go, entries are only added to those that are collected. -/
theorem collects_mono {before after : PointcloudMapper K}
    (live : ∀ key generation, after.Live key generation → before.Live key generation)
    {entry : MapVoxelState K} (collected : before.collects cfg entry = true) :
    after.collects cfg entry = true := by
  cases enabled : cfg.dynamicFilterEnable with
  | false =>
      rw [collects_iff_of_disabled enabled] at collected ⊢
      exact collected
  | true =>
      rw [collects_iff enabled] at collected ⊢
      exact collected.imp_right fun dead isLive => dead (live _ _ isLive)

/-- The entry at a fine key, unless a build collects it. -/
def kept (cfg : Config K) (mapper : PointcloudMapper K) (key : VoxelKey) :
    Option (MapVoxelState K) :=
  (mapper.mapVoxels.lookup key).filter fun entry => !mapper.collects cfg entry

/-- A build leaves the kept entries. -/
theorem lookup_buildMapCloud (cfg : Config K) (mapper : PointcloudMapper K) (key : VoxelKey) :
    (mapper.buildMapCloud cfg).1.mapVoxels.lookup key = mapper.kept cfg key :=
  Table.lookup_eraseIf _ _ _

theorem lookup_of_kept {key : VoxelKey} {entry : MapVoxelState K}
    (found : mapper.kept cfg key = some entry) : mapper.mapVoxels.lookup key = some entry :=
  (Option.filter_eq_some_iff.mp found).1

/-- The kept entries emit everything. -/
theorem bind_kept (cfg : Config K) (mapper : PointcloudMapper K) (key : VoxelKey) :
    (mapper.kept cfg key).bind (mapper.emits cfg) =
      (mapper.mapVoxels.lookup key).bind (mapper.emits cfg) := by
  unfold kept
  cases found : mapper.mapVoxels.lookup key with
  | none => rfl
  | some entry =>
      cases gone : mapper.collects cfg entry with
      | true => simp [Option.filter_some, gone, emits_of_collects gone]
      | false => simp [Option.filter_some, gone]

/-- A second build returns the same points. -/
theorem buildMapCloud_built_perm (cfg : Config K) (mapper : PointcloudMapper K) (dirty : Bool) :
    (({ (mapper.buildMapCloud cfg).1 with dirty := dirty } :
        PointcloudMapper K).buildMapCloud cfg).2.Perm (mapper.buildMapCloud cfg).2 := by
  apply buildMapCloud_perm
  intro key
  change ((mapper.buildMapCloud cfg).1.mapVoxels.lookup key).bind (mapper.emits cfg) = _
  rw [lookup_buildMapCloud, bind_kept]

/-- A sweep changes no point of the map cloud. -/
theorem buildMapCloud_maybeCleanup_perm (cfg : Config K) (mapper : PointcloudMapper K)
    (now : Time) :
    ((mapper.maybeCleanup cfg now).buildMapCloud cfg).2.Perm (mapper.buildMapCloud cfg).2 := by
  apply buildMapCloud_perm
  intro key
  have sameFine : (mapper.maybeCleanup cfg now).mapVoxels = mapper.mapVoxels := by
    obtain ⟨_, _, frame⟩ := maybeCleanup_frame cfg mapper now
    rw [frame]
  rw [sameFine]
  congr 1
  funext entry
  exact emits_maybeCleanup now entry

/-- Two saves of the same map cloud go alike. -/
theorem saveMapToDisk_of_perm {left right : PointcloudMapper K}
    (points : (left.buildMapCloud cfg).2.Perm (right.buildMapCloud cfg).2) (disk : Disk) :
    (left.saveMapToDisk cfg disk).success = (right.saveMapToDisk cfg disk).success ∧
      (left.saveMapToDisk cfg disk).message = (right.saveMapToDisk cfg disk).message ∧
      List.Forall₂ Output.Same (SaveResult.files cfg (left.saveMapToDisk cfg disk))
        (SaveResult.files cfg (right.saveMapToDisk cfg disk)) ∧
      ((left.saveMapToDisk cfg disk).mapper = (left.buildMapCloud cfg).1 ∧
          (right.saveMapToDisk cfg disk).mapper = (right.buildMapCloud cfg).1 ∨
        (left.saveMapToDisk cfg disk).mapper =
            { (left.buildMapCloud cfg).1 with dirty := false } ∧
          (right.saveMapToDisk cfg disk).mapper =
            { (right.buildMapCloud cfg).1 with dirty := false }) := by
  have sameEmpty : (left.buildMapCloud cfg).2.isEmpty = (right.buildMapCloud cfg).2.isEmpty :=
    points.isEmpty_eq
  unfold saveMapToDisk
  dsimp only
  rw [sameEmpty]
  split
  next => exact ⟨rfl, rfl, .nil, .inl ⟨rfl, rfl⟩⟩
  next =>
    split
    next => exact ⟨rfl, rfl, .nil, .inl ⟨rfl, rfl⟩⟩
    next =>
      split
      next => exact ⟨rfl, rfl, .nil, .inl ⟨rfl, rfl⟩⟩
      next =>
        split
        next => exact ⟨rfl, rfl, .nil, .inl ⟨rfl, rfl⟩⟩
        next =>
          refine ⟨rfl, ?_, .cons (.pcdFile cfg.outputPath points) .nil, .inr ⟨rfl, rfl⟩⟩
          rw [points.length_eq]

end PointcloudMapper

end ScoutStack
