import ScoutStack.Mapper.Provenance
import ScoutStack.Mapper.Transparency

/-!
# One point per fine cell

The point that an entry emits is the mean of points of its cell, so it lies in the
cell, and no two entries emit points of the same one.  With the dynamic filter on it
also lies in the coarse voxel that vouches for it, because an entry only mixes points
of one generation; that takes distinct generations for distinct voxels.
-/

namespace ScoutStack

variable {K : Type*} [Field K] [LinearOrder K] {cfg : Config K}

/-- The half-open cell of a key contains a position. -/
structure VoxelKey.Contains (key : VoxelKey) (size : K) (position : Vector3 K) : Prop where
  x : key.x * size ≤ position.x ∧ position.x < (key.x + 1) * size
  y : key.y * size ≤ position.y ∧ position.y < (key.y + 1) * size
  z : key.z * size ≤ position.z ∧ position.z < (key.z + 1) * size

theorem voxelKey_eq_iff [FloorRing K] [IsStrictOrderedRing K] {size : K} (positive : 0 < size) {position : Vector3 K}
    {key : VoxelKey} : voxelKey position size = key ↔ key.Contains size position := by
  cases key with
  | mk x y z =>
      have axis : ∀ (value : K) (index : ℤ), ⌊value / size⌋ = index ↔
          index * size ≤ value ∧ value < (index + 1) * size :=
        fun value index => Cells.cell_eq_iff positive
      simp only [voxelKey, VoxelKey.mk.injEq, axis]
      constructor
      · rintro ⟨inX, inY, inZ⟩
        exact ⟨inX, inY, inZ⟩
      · intro inside
        exact ⟨inside.x, inside.y, inside.z⟩

/-- Whatever is emitted comes from an entry that holds a sample. -/
theorem sampleCount_ne_zero_of_emits {mapper : PointcloudMapper K} {entry : MapVoxelState K}
    {point : Point K} (emits : mapper.emits cfg entry = some point) :
    entry.sampleCount ≠ 0 ∧ point = entry.mean := by
  cases enabled : cfg.dynamicFilterEnable with
  | true =>
      obtain ⟨counted, mean, _⟩ := (PointcloudMapper.emits_eq_some_iff enabled).mp emits
      exact ⟨counted, mean⟩
  | false =>
      rw [PointcloudMapper.emits_of_disabled enabled] at emits
      split at emits
      next => cases emits
      next counted => exact ⟨counted, (Option.some.inj emits).symm⟩

variable [FloorRing K]

/-- The samples behind an emitted point. -/
theorem exists_samples_of_emits {callbacks : List (Callback K)} {fine : VoxelKey}
    {entry : MapVoxelState K} {point : Point K}
    (found : (run cfg callbacks).mapVoxels.lookup fine = some entry)
    (emits : (run cfg callbacks).emits cfg entry = some point) :
    ∃ samples, samples <:+
        (pointsFrom cfg {} callbacks).filter (fun point => fineKey cfg point = fine) ∧
      samples.length = entry.sampleCount.toNat ∧ samples ≠ [] ∧ point = meanOf samples := by
  obtain ⟨counted, rfl⟩ := sampleCount_ne_zero_of_emits emits
  obtain ⟨samples, last, accumulated⟩ := gathered_run cfg callbacks fine entry found
  exact ⟨samples, last, (accumulated.toNat_sampleCount counted).symm, accumulated.nonempty,
    accumulated.mean counted⟩

variable [IsStrictOrderedRing K]

/-- An emitted point lies in the cell of its entry. -/
theorem fineKey_of_emits {callbacks : List (Callback K)} {fine : VoxelKey}
    {entry : MapVoxelState K} {point : Point K}
    (found : (run cfg callbacks).mapVoxels.lookup fine = some entry)
    (emits : (run cfg callbacks).emits cfg entry = some point) : fineKey cfg point = fine := by
  obtain ⟨samples, last, _, nonempty, rfl⟩ := exists_samples_of_emits found emits
  apply voxelKey_meanOf cfg.mapVoxelSize_pos nonempty
  intro sample member
  have inCell := (List.mem_filter.mp (last.subset member)).2
  exact of_decide_eq_true inCell

/-- While generations are distinct, it also lies in the coarse voxel of the entry. -/
theorem coarseKey_of_emits (enabled : cfg.dynamicFilterEnable = true)
    {callbacks : List (Callback K)} (few : creations cfg callbacks ≤ 2 ^ 64) {fine : VoxelKey}
    {entry : MapVoxelState K} {point : Point K}
    (found : (run cfg callbacks).mapVoxels.lookup fine = some entry)
    (emits : (run cfg callbacks).emits cfg entry = some point) :
    coarseKey cfg point = entry.occupancyKey := by
  obtain ⟨counted, rfl, occupancy, present, sameGeneration, _⟩ :=
    (PointcloudMapper.emits_eq_some_iff enabled).mp emits
  obtain ⟨samples, _, _, _, _, _, sampled, _⟩ :=
    exists_samples_of_live enabled few found ⟨occupancy, present, sameGeneration⟩
  rw [sampled.accumulated.mean counted]
  apply voxelKey_meanOf cfg.temporalVoxelSize_pos sampled.nonempty
  intro sample member
  exact (sampled.keys sample member).2

/-- Every point of the map cloud comes from an entry that holds a sample and lies in the
cell of its key, so no two points share a cell; its intensity lies between those of two
of the samples, the last points of the cell.  With the dynamic filter on, and as long
as at most `2 ^ 64` coarse voxels have been created, it lies in the coarse voxel that
the entry was claimed for. -/
theorem one_point_per_cell (cfg : Config K) (callbacks : List (Callback K)) :
    (∀ point ∈ ((run cfg callbacks).buildMapCloud cfg).2, ∃ fine entry samples,
      (run cfg callbacks).mapVoxels.lookup fine = some entry ∧
      (run cfg callbacks).emits cfg entry = some point ∧ entry.sampleCount ≠ 0 ∧
      fineKey cfg point = fine ∧ fine.Contains cfg.mapVoxelSize point.position ∧
      (cfg.dynamicFilterEnable = true → creations cfg callbacks ≤ 2 ^ 64 →
        coarseKey cfg point = entry.occupancyKey ∧
          entry.occupancyKey.Contains cfg.temporalVoxelSize point.position) ∧
      samples <:+ (pointsFrom cfg {} callbacks).filter (fun point => fineKey cfg point = fine) ∧
      samples.length = entry.sampleCount.toNat ∧
      (∃ low ∈ samples, low.intensity ≤ point.intensity) ∧
      ∃ high ∈ samples, point.intensity ≤ high.intensity) ∧
    (((run cfg callbacks).buildMapCloud cfg).2.map (fineKey cfg)).Nodup := by
  constructor
  · intro point emitted
    obtain ⟨fine, entry, found, emits⟩ := PointcloudMapper.mem_buildMapCloud.mp emitted
    obtain ⟨samples, last, count, nonempty, mean⟩ := exists_samples_of_emits found emits
    have inCell := fineKey_of_emits found emits
    obtain ⟨low, high⟩ := intensity_meanOf nonempty
    rw [← mean] at low high
    refine ⟨fine, entry, samples, found, emits, (sampleCount_ne_zero_of_emits emits).1, inCell,
      (voxelKey_eq_iff cfg.mapVoxelSize_pos).mp inCell, ?_, last, count, low, high⟩
    intro enabled few
    have inVoxel := coarseKey_of_emits enabled few found emits
    exact ⟨inVoxel, (voxelKey_eq_iff cfg.temporalVoxelSize_pos).mp inVoxel⟩
  · change (((run cfg callbacks).mapVoxels.collect fun _ entry =>
      (run cfg callbacks).emits cfg entry).map (fineKey cfg)).Nodup
    apply Table.nodup_map_collect
    intro fine entry point found emits
    exact fineKey_of_emits found emits

theorem one_point_per_cell_cleared : ∃ fine entry,
    (run unitConfig clearedHistory).mapVoxels.lookup fine = some entry ∧
      fineKey unitConfig ⟨11 / 4, 1 / 2, 1 / 2, 1⟩ = fine ∧
      coarseKey unitConfig ⟨11 / 4, 1 / 2, 1 / 2, 1⟩ = entry.occupancyKey := by
  have emitted : (⟨11 / 4, 1 / 2, 1 / 2, 1⟩ : Point ℚ) ∈
      ((run unitConfig clearedHistory).buildMapCloud unitConfig).2 := by decide +kernel
  have few : creations unitConfig clearedHistory ≤ 2 ^ 64 := by decide +kernel
  obtain ⟨fine, entry, _, found, _, _, inCell, _, inVoxel, _⟩ :=
    (one_point_per_cell unitConfig clearedHistory).1 _ emitted
  exact ⟨fine, entry, found, inCell, (inVoxel rfl few).1⟩

/-! ## Going round -/

section Sliding

/-- A node that forgets, with fine cells that straddle the coarse voxels. -/
def slidingConfig : Config ℚ :=
  { churnConfig with
    mapVoxelSize := 3 / 4
    mapVoxelSize_ge := straddleConfig.mapVoxelSize_ge }

/-- The size of the fine cells does not matter for the coarse table. -/
theorem sameCoarse_processPoint {left right : PointLoop ℚ}
    (same : SameCoarse left.mapper right.mapper) (stamp : Time) (point : Point ℚ) :
    SameCoarse (processPoint slidingConfig stamp left point).mapper
      (processPoint churnConfig stamp right point).mapper := by
  have enabled : churnConfig.dynamicFilterEnable = true := rfl
  have enabled' : slidingConfig.dynamicFilterEnable = true := rfl
  obtain ⟨fine, dirty, hit⟩ := same.updateHit churnConfig (coarseKey churnConfig point) stamp
  rw [processPoint_mapper enabled', processPoint_mapper enabled, hit]
  exact ⟨_, true, rfl⟩

theorem sameCoarse_processScan (mapper : PointcloudMapper ℚ) (scan : Scan ℚ) :
    SameCoarse (processScan slidingConfig mapper scan) (processScan churnConfig mapper scan) := by
  have points : ∀ (points : Cloud ℚ) (left right : PointLoop ℚ),
      SameCoarse left.mapper right.mapper →
        SameCoarse (points.foldl (processPoint slidingConfig scan.header.stamp) left).mapper
          (points.foldl (processPoint churnConfig scan.header.stamp) right).mapper := by
    intro points
    induction points with
    | nil => exact fun _ _ same => same
    | cons point points ih =>
        intro left right same
        exact ih _ _ (sameCoarse_processPoint same scan.header.stamp point)
  have looped := points scan.filtered
    ⟨{ mapper with scanSequence := mapper.scanSequence + 1 }, [], []⟩
    ⟨{ mapper with scanSequence := mapper.scanSequence + 1 }, [], []⟩ (SameCoarse.refl _)
  have missed := looped.updateMisses churnConfig scan.header.stamp (missedKeys churnConfig scan)
  have absorbed : SameCoarse (absorbScan slidingConfig mapper scan)
      (absorbScan churnConfig mapper scan) := by
    rw [absorbScan, absorbScan, updateFreeSpace_eq, updateFreeSpace_eq]
    obtain ⟨fine, dirty, same⟩ := missed
    exact ⟨fine, dirty, congrArg (fun mapper => { mapper with
      frameId := scan.header.frameId, lastCloudStamp := scan.header.stamp }) same⟩
  exact absorbed.maybeCleanup churnConfig scan.header.stamp

/-- No voxel is live, and the fine cell that straddles two voxels has the given entry. -/
structure Round (count : ℕ) (entry : Option (MapVoxelState ℚ))
    (mapper : PointcloudMapper ℚ) : Prop where
  idle : Idle count mapper
  entry : mapper.mapVoxels.lookup ⟨1, 0, 0⟩ = entry

theorem Idle.of_sameCoarse {count : ℕ} {left right : PointcloudMapper ℚ}
    (same : SameCoarse left right) (idle : Idle count left) : Idle count right := by
  obtain ⟨_, _, rfl⟩ := same
  exact ⟨idle.latestOdom, idle.haveOdom, idle.voxels, idle.next, idle.sequence, idle.clock⟩

/-- What a scan of one point does to the fine map. -/
theorem mapVoxels_sliding (mapper : PointcloudMapper ℚ) (stamp : Time) (point : Vector3 ℚ)
    (key : VoxelKey) :
    (processScan slidingConfig mapper (pointScan stamp point)).mapVoxels.lookup key =
      if key = voxelKey point (3 / 4) then
        some (storePoint slidingConfig (mapper.entryFor (voxelKey point 1)).generation
          ⟨point.x, point.y, point.z, 1⟩ (mapper.mapVoxels.lookup key))
      else mapper.mapVoxels.lookup key := by
  have enabled : slidingConfig.dynamicFilterEnable = true := rfl
  rw [processScan_mapVoxels]
  change (processPoint slidingConfig stamp _ _).mapper.mapVoxels.lookup key = _
  rw [lookup_mapVoxels_processPoint, pointGeneration, if_pos enabled]
  rfl

section Round

variable {count : ℕ} {entry : Option (MapVoxelState ℚ)} {mapper : PointcloudMapper ℚ}

/-- One more scan, with the stamp of the last sweep. -/
theorem Round.processScan (round : Round count entry mapper) (point : Vector3 ℚ) :
    Round (count + 1)
      (if (⟨1, 0, 0⟩ : VoxelKey) = voxelKey point (3 / 4) then
        some (storePoint slidingConfig (UInt64.ofNat (count + 1))
          ⟨point.x, point.y, point.z, 1⟩ entry)
      else entry)
      (ScoutStack.processScan slidingConfig mapper (pointScan 2 point)) := by
  constructor
  · exact (round.idle.processScan point).of_sameCoarse (sameCoarse_processScan _ _).symm
  · rw [mapVoxels_sliding, round.idle.entryFor, round.entry]

theorem Round.step (round : Round count entry mapper) (point : Vector3 ℚ)
    (message : acceptScan churnConfig (run churnConfig churnStart)
      ⟨⟨2, "camera_init"⟩, [some ⟨point.x, point.y, point.z, 1⟩]⟩ = some (pointScan 2 point)) :
    Round (count + 1)
      (if (⟨1, 0, 0⟩ : VoxelKey) = voxelKey point (3 / 4) then
        some (storePoint slidingConfig (UInt64.ofNat (count + 1))
          ⟨point.x, point.y, point.z, 1⟩ entry)
      else entry)
      (ScoutStack.step slidingConfig mapper (cloudAt 2 [point])) := by
  have accepted : acceptScan slidingConfig mapper
      ⟨⟨2, "camera_init"⟩, [some ⟨point.x, point.y, point.z, 1⟩]⟩ = some (pointScan 2 point) :=
    round.idle.acceptScan message
  have stepped : ScoutStack.step slidingConfig mapper (cloudAt 2 [point]) = _ :=
    step_cloud_of_some accepted
  rw [stepped]
  exact round.processScan point

/-- The repeated cloud lies elsewhere. -/
theorem Round.churn (round : Round count entry mapper) (n : ℕ) :
    Round (count + n) entry (runFrom slidingConfig mapper (churn n)) := by
  induction n with
  | zero => exact round
  | succ n ih =>
      have elsewhere : (⟨1, 0, 0⟩ : VoxelKey) ≠ voxelKey insideVoxel (3 / 4) := by
        decide +kernel
      have next := ih.step insideVoxel (by decide +kernel)
      rw [if_neg elsewhere] at next
      rw [ScoutStack.churn, List.replicate_succ', runFrom_append]
      exact next

end Round

/-- A point of the straddling cell in the first voxel. -/
def nearPoint : Vector3 ℚ := ⟨7 / 8, 1 / 2, 1 / 2⟩

/-- A point of the straddling cell in the second voxel. -/
def farPoint : Vector3 ℚ := ⟨11 / 8, 1 / 2, 1 / 2⟩

/-- The generations go round between a visit of each voxel, and once more. -/
def roundTwice (n m : ℕ) : List (Callback ℚ) :=
  churnStart ++ [cloudAt 2 [nearPoint]] ++ churn n ++ [cloudAt 2 [farPoint]] ++ churn m

/-- What the straddling cell holds then, when both visits had the same generation. -/
def mixedEntry : MapVoxelState ℚ :=
  ⟨⟨9 / 4, 1, 1⟩, 2, 2, ⟨0, 0, 0⟩, 1⟩

/-- The first pose does not depend on the configuration. -/
theorem run_churnStart (cfg cfg' : Config ℚ) : run cfg churnStart = run cfg' churnStart := rfl

theorem round_roundTwice {n m : ℕ} (same : UInt64.ofNat (n + 2) = 1) :
    Round (n + m + 2) (some mixedEntry) (run slidingConfig (roundTwice n m)) := by
  have start : Round 0 none (run slidingConfig churnStart) := by
    rw [run_churnStart slidingConfig churnConfig]
    exact ⟨idle_start, rfl⟩
  have inCell : (⟨1, 0, 0⟩ : VoxelKey) = voxelKey nearPoint (3 / 4) ∧
      (⟨1, 0, 0⟩ : VoxelKey) = voxelKey farPoint (3 / 4) := by decide +kernel
  have near := start.step nearPoint (by decide +kernel)
  rw [if_pos inCell.1] at near
  have far := (near.churn n).step farPoint (by decide +kernel)
  have second : UInt64.ofNat (0 + 1 + n + 1) = 1 := by
    rw [← same]
    congr 1
    omega
  rw [if_pos inCell.2, second] at far
  have whole := far.churn m
  have entry : storePoint slidingConfig 1 ⟨farPoint.x, farPoint.y, farPoint.z, 1⟩
      (some (storePoint slidingConfig (UInt64.ofNat (0 + 1))
        ⟨nearPoint.x, nearPoint.y, nearPoint.z, 1⟩ none)) = mixedEntry := by decide +kernel
  have count : 0 + 1 + n + 1 + m = n + m + 2 := by omega
  rw [entry, count] at whole
  rw [roundTwice, run_append, run_append, run_append, run_append]
  exact whole

/-- Only the first voxel may be live, and no sweep is due for late clouds. -/
structure Late (occupancy : OccupancyVoxelState ℚ) (entry : MapVoxelState ℚ)
    (mapper : PointcloudMapper ℚ) : Prop where
  latestOdom : mapper.latestOdom = (run churnConfig churnStart).latestOdom
  haveOdom : mapper.haveOdom = (run churnConfig churnStart).haveOdom
  voxel : mapper.entryFor ⟨0, 0, 0⟩ = occupancy
  only : ∀ key, key ≠ ⟨0, 0, 0⟩ → mapper.temporalVoxels.lookup key = none
  clock : mapper.lastCleanup = 2
  entry : mapper.mapVoxels.lookup ⟨1, 0, 0⟩ = some entry

/-- A late cloud hits the voxel again. -/
theorem Late.visit {occupancy : OccupancyVoxelState ℚ} {entry : MapVoxelState ℚ}
    {mapper : PointcloudMapper ℚ} (late : Late occupancy entry mapper) :
    Late (occupancy.hit churnConfig (mapper.scanSequence + 1) 1)
        (storePoint slidingConfig occupancy.generation ⟨7 / 8, 1 / 2, 1 / 2, 1⟩ (some entry))
        (step slidingConfig mapper (cloudAt 1 [nearPoint])) ∧
      (step slidingConfig mapper (cloudAt 1 [nearPoint])).temporalVoxels.lookup ⟨0, 0, 0⟩ =
        some (occupancy.hit churnConfig (mapper.scanSequence + 1) 1) ∧
      (step slidingConfig mapper (cloudAt 1 [nearPoint])).scanSequence =
        mapper.scanSequence + 1 := by
  have accepted : acceptScan slidingConfig mapper
      ⟨⟨1, "camera_init"⟩, [some ⟨7 / 8, 1 / 2, 1 / 2, 1⟩]⟩ = some (pointScan 1 nearPoint) := by
    rw [acceptScan_congr slidingConfig late.latestOdom late.haveOdom]
    decide +kernel
  have stepped : step slidingConfig mapper (cloudAt 1 [nearPoint]) = _ :=
    step_cloud_of_some accepted
  have here : voxelKey nearPoint 1 = ⟨0, 0, 0⟩ := by decide +kernel
  have inCell : (⟨1, 0, 0⟩ : VoxelKey) = voxelKey nearPoint (3 / 4) := by decide +kernel
  obtain ⟨sameOdom, sameFlag⟩ := processScan_odometry slidingConfig mapper
    (pointScan 1 nearPoint)
  have only : ∀ key, key ≠ voxelKey nearPoint 1 → mapper.temporalVoxels.lookup key = none := by
    rw [here]
    exact late.only
  obtain ⟨clock, lookups⟩ := processScan_late only late.clock
  obtain ⟨fine, dirty, coarse⟩ := sameCoarse_processScan mapper (pointScan 1 nearPoint)
  rw [coarse, here] at lookups
  rw [coarse] at clock
  have found : (processScan slidingConfig mapper (pointScan 1 nearPoint)).temporalVoxels.lookup
      ⟨0, 0, 0⟩ = some (occupancy.hit churnConfig (mapper.scanSequence + 1) 1) := by
    have hit := lookups ⟨0, 0, 0⟩
    rw [if_pos rfl, late.voxel] at hit
    exact hit
  rw [stepped]
  refine ⟨⟨sameOdom.trans late.latestOdom, sameFlag.trans late.haveOdom, ?_, ?_, clock, ?_⟩,
    found, processScan_scanSequence _ _ _⟩
  · rw [PointcloudMapper.entryFor, found]
    rfl
  · intro key other
    have missing := lookups key
    rw [if_neg other] at missing
    exact missing
  · rw [mapVoxels_sliding, if_pos inCell, here, late.voxel, late.entry]
    rfl

/-- The voxel when it is confirmed. -/
def roundVoxel : OccupancyVoxelState ℚ := ⟨2, 2, 0, 2, unmarked, 1, 1, 1, 1⟩

/-- What the straddling cell holds when the first voxel is confirmed. -/
def roundEntry : MapVoxelState ℚ := ⟨⟨4, 2, 2⟩, 4, 4, ⟨0, 0, 0⟩, 1⟩

/-- Two late clouds confirm the voxel in the generation of both visits. -/
theorem lookup_roundTwice_late {n m : ℕ} (same : UInt64.ofNat (n + 2) = 1)
    (again : UInt64.ofNat (n + m + 3) = 1) (restart : UInt64.ofNat (n + m + 2) = 0) :
    (run slidingConfig (roundTwice n m ++
        [cloudAt 1 [nearPoint], cloudAt 1 [nearPoint]])).temporalVoxels.lookup ⟨0, 0, 0⟩ =
          some roundVoxel ∧
      (run slidingConfig (roundTwice n m ++
        [cloudAt 1 [nearPoint], cloudAt 1 [nearPoint]])).mapVoxels.lookup ⟨1, 0, 0⟩ =
          some roundEntry := by
  obtain ⟨idle, entry⟩ := round_roundTwice (m := m) same
  have fresh : (run slidingConfig (roundTwice n m)).entryFor ⟨0, 0, 0⟩ = { generation := 1 } := by
    rw [idle.entryFor, ← again]
  have clock : (run slidingConfig (roundTwice n m)).lastCleanup = 2 := by
    rw [idle.clock, if_neg (Nat.succ_ne_zero _)]
  have late : Late { generation := 1 } mixedEntry (run slidingConfig (roundTwice n m)) :=
    ⟨idle.latestOdom, idle.haveOdom, fresh, fun key _ => idle.voxels key, clock, entry⟩
  have number := idle.sequence.trans restart
  obtain ⟨once, _, next⟩ := late.visit
  obtain ⟨twice, confirmed, _⟩ := once.visit
  rw [next, number] at confirmed
  have cell := twice.entry
  rw [number] at cell
  rw [run_append, runFrom_cons, runFrom_cons, runFrom_nil, confirmed, cell]
  constructor
  · decide +kernel
  · decide +kernel

/-- After `2 ^ 65` voxels an entry holds points of two voxels, and what it emits lies in
the one that it was not claimed for. -/
theorem coarse_cell_lost :
    ∃ callbacks entry point, slidingConfig.dynamicFilterEnable = true ∧
      (run slidingConfig callbacks).mapVoxels.lookup ⟨1, 0, 0⟩ = some entry ∧
      (run slidingConfig callbacks).emits slidingConfig entry = some point ∧
      point ∈ ((run slidingConfig callbacks).buildMapCloud slidingConfig).2 ∧
      coarseKey slidingConfig point ≠ entry.occupancyKey := by
  have same : UInt64.ofNat (2 ^ 64 - 1 + 2) = 1 := by decide
  have again : UInt64.ofNat (2 ^ 64 - 1 + (2 ^ 64 - 1) + 3) = 1 := by decide
  have restart : UInt64.ofNat (2 ^ 64 - 1 + (2 ^ 64 - 1) + 2) = 0 := by decide
  obtain ⟨voxel, cell⟩ := lookup_roundTwice_late same again restart
  have emits : (run slidingConfig (roundTwice (2 ^ 64 - 1) (2 ^ 64 - 1) ++
      [cloudAt 1 [nearPoint], cloudAt 1 [nearPoint]])).emits slidingConfig roundEntry =
        some ⟨1, 1 / 2, 1 / 2, 1⟩ := by
    apply (PointcloudMapper.emits_eq_some_iff rfl).mpr
    exact ⟨by decide, by decide +kernel, roundVoxel, voxel, rfl, by decide +kernel⟩
  exact ⟨_, roundEntry, _, rfl, cell, emits,
    PointcloudMapper.mem_buildMapCloud.mpr ⟨_, roundEntry, cell, emits⟩, by decide +kernel⟩

end Sliding

end ScoutStack
