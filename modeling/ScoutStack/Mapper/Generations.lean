import ScoutStack.Mapper.MapCloud
import ScoutStack.Mapper.Rational

/-!
# Generations

Every creation of a coarse voxel takes the next value of a 64-bit counter that
no callback ever sets back.  As long as at most `2 ^ 64` voxels are created, the
generation of a voxel that is gone is never handed out again, so a fine entry
that has lost its coarse voxel stays stale.
-/

namespace ScoutStack

variable {K : Type*} [Field K]

/-! ## The counter -/

/-- A generation that one of the first `count` creations has taken. -/
def Issued (count : ℕ) (generation : UInt64) : Prop :=
  ∃ index, 1 ≤ index ∧ index ≤ count ∧ generation = UInt64.ofNat index

section Issued

variable {count : ℕ} {generation : UInt64}

theorem Issued.mono {more : ℕ} (issued : Issued count generation) (grown : count ≤ more) :
    Issued more generation := by
  obtain ⟨index, positive, bounded, same⟩ := issued
  exact ⟨index, positive, bounded.trans grown, same⟩

theorem issued_next (count : ℕ) : Issued (count + 1) (UInt64.ofNat (count + 1)) :=
  ⟨count + 1, Nat.le_add_left 1 count, le_rfl, rfl⟩

/-- The next generation is not in use while the counter has not gone round. -/
theorem Issued.ne_next (issued : Issued count generation) (room : count + 1 ≤ 2 ^ 64) :
    generation ≠ UInt64.ofNat (count + 1) := by
  obtain ⟨index, positive, bounded, rfl⟩ := issued
  intro same
  have values := congrArg UInt64.toNat same
  rw [UInt64.toNat_ofNat', UInt64.toNat_ofNat'] at values
  omega

end Issued

/-- What the counter guarantees of the generations in both tables. -/
structure Numbered (count : ℕ) (mapper : PointcloudMapper K) : Prop where
  next : mapper.nextOccupancyGeneration = UInt64.ofNat (count + 1)
  coarse : ∀ key generation, mapper.Live key generation → Issued count generation
  distinct : ∀ key other generation, mapper.Live key generation → mapper.Live other generation →
    key = other
  fine : ∀ key entry, mapper.mapVoxels.lookup key = some entry →
    Issued count entry.occupancyGeneration
  owner : ∀ fine entry key, mapper.mapVoxels.lookup fine = some entry →
    mapper.Live key entry.occupancyGeneration → entry.occupancyKey = key

theorem numbered_start : Numbered 0 ({} : PointcloudMapper K) where
  next := rfl
  coarse := by
    rintro key generation ⟨state, found, _⟩
    cases found
  distinct := by
    rintro key other generation ⟨state, found, _⟩
    cases found
  fine := by
    intro key entry found
    cases found
  owner := by
    intro fine entry key found
    cases found

/-- Whatever only takes entries away keeps the numbering. -/
theorem Numbered.shrink {count : ℕ} {before after : PointcloudMapper K}
    (numbered : Numbered count before)
    (sameNext : after.nextOccupancyGeneration = before.nextOccupancyGeneration)
    (live : ∀ key generation, after.Live key generation → before.Live key generation)
    (fine : ∀ key entry, after.mapVoxels.lookup key = some entry →
      before.mapVoxels.lookup key = some entry) :
    Numbered count after where
  next := sameNext.trans numbered.next
  coarse := fun key generation isLive => numbered.coarse key generation (live key generation isLive)
  distinct := fun key other generation first second =>
    numbered.distinct key other generation (live _ _ first) (live _ _ second)
  fine := fun key entry found => numbered.fine key entry (fine key entry found)
  owner := fun fineKey entry key found isLive =>
    numbered.owner fineKey entry key (fine fineKey entry found) (live _ _ isLive)

/-- Until the counter reaches its last value, it is ahead of every live generation. -/
theorem Numbered.lt_next {count : ℕ} {mapper : PointcloudMapper K}
    (numbered : Numbered count mapper) (few : count < 2 ^ 64) {key : VoxelKey}
    {generation : UInt64} (live : mapper.Live key generation) :
    generation ≤ mapper.nextOccupancyGeneration - 1 ∧
      (mapper.nextOccupancyGeneration ≠ 0 → generation < mapper.nextOccupancyGeneration) := by
  obtain ⟨index, positive, bounded, rfl⟩ := numbered.coarse key generation live
  have last : UInt64.ofNat (count + 1) - 1 = UInt64.ofNat count := by
    rw [UInt64.ofNat_add]
    exact UInt64.add_sub_cancel _ _
  have value : (UInt64.ofNat index).toNat = index := by
    rw [UInt64.toNat_ofNat']
    omega
  rw [numbered.next, last, UInt64.le_iff_toNat_le, UInt64.lt_iff_toNat_lt, value,
    UInt64.toNat_ofNat', UInt64.toNat_ofNat']
  constructor
  · omega
  · intro nonzero
    have notRound : count + 1 ≠ 2 ^ 64 := by
      intro full
      apply nonzero
      rw [full]
      decide
    omega

/-! ## One point -/

variable [LinearOrder K] [FloorRing K]

section Point

variable {cfg : Config K} {count : ℕ} {loop : PointLoop K}

/-- The voxel of a point is live in the generation that the point is stored under. -/
theorem live_processPoint_iff (enabled : cfg.dynamicFilterEnable = true) (stamp : Time)
    (point : Point K) (key : VoxelKey) (generation : UInt64) :
    (processPoint cfg stamp loop point).mapper.Live key generation ↔
      if key = coarseKey cfg point then pointGeneration cfg loop.mapper point = generation
      else loop.mapper.Live key generation := by
  rw [processPoint_mapper enabled, pointGeneration, if_pos enabled]
  change (loop.mapper.updateHit cfg (coarseKey cfg point) stamp).Live key generation ↔ _
  unfold PointcloudMapper.Live
  rw [PointcloudMapper.lookup_updateHit]
  split
  next =>
    constructor
    · rintro ⟨state, same, sameGeneration⟩
      rw [← Option.some.inj same, OccupancyVoxelState.hit_generation] at sameGeneration
      exact sameGeneration
    · intro sameGeneration
      exact ⟨_, rfl, (OccupancyVoxelState.hit_generation _ _ _ _).trans sameGeneration⟩
  next => rfl

/-- Number of voxels that a point creates. -/
def creates (cfg : Config K) (mapper : PointcloudMapper K) (point : Point K) : ℕ :=
  if coarseKey cfg point ∈ mapper.temporalVoxels then 0 else 1

/-- The generation of a point is the one of the live voxel, or the next one. -/
theorem Numbered.pointGeneration_cases (enabled : cfg.dynamicFilterEnable = true)
    {mapper : PointcloudMapper K} (numbered : Numbered count mapper) (point : Point K) :
    creates cfg mapper point = 0 ∧
        mapper.Live (coarseKey cfg point) (pointGeneration cfg mapper point) ∨
      creates cfg mapper point = 1 ∧
        pointGeneration cfg mapper point = UInt64.ofNat (count + 1) := by
  rw [pointGeneration, if_pos enabled, creates, PointcloudMapper.entryFor, ← numbered.next]
  cases found : mapper.temporalVoxels.lookup (coarseKey cfg point) with
  | none =>
      rw [if_neg (AList.lookup_eq_none.mp found)]
      exact .inr ⟨rfl, rfl⟩
  | some state =>
      have present : coarseKey cfg point ∈ mapper.temporalVoxels := by
        rw [← AList.lookup_isSome, found]
        rfl
      rw [if_pos present]
      exact .inl ⟨rfl, state, found, rfl⟩

/-- A fine entry is of the generation of a point only if it is of its live voxel. -/
theorem Numbered.live_of_generation (enabled : cfg.dynamicFilterEnable = true)
    {mapper : PointcloudMapper K} (numbered : Numbered count mapper) {point : Point K}
    (room : count + creates cfg mapper point ≤ 2 ^ 64) {generation : UInt64}
    (issued : Issued count generation) (same : generation = pointGeneration cfg mapper point) :
    mapper.Live (coarseKey cfg point) generation := by
  rcases numbered.pointGeneration_cases enabled point with ⟨_, live⟩ | ⟨creation, next⟩
  · rw [same]
    exact live
  · rw [creation] at room
    exact absurd (same.trans next) (issued.ne_next room)

theorem Numbered.issued_pointGeneration (enabled : cfg.dynamicFilterEnable = true)
    {mapper : PointcloudMapper K} (numbered : Numbered count mapper) (point : Point K) :
    Issued (count + creates cfg mapper point) (pointGeneration cfg mapper point) := by
  rcases numbered.pointGeneration_cases enabled point with ⟨creation, live⟩ | ⟨creation, next⟩
  · rw [creation]
    exact numbered.coarse _ _ live
  · rw [creation, next]
    exact issued_next count

/-- A stored point belongs to an entry of its own coarse voxel. -/
theorem Numbered.storePoint_key (enabled : cfg.dynamicFilterEnable = true)
    {mapper : PointcloudMapper K} (numbered : Numbered count mapper) {point : Point K}
    (room : count + creates cfg mapper point ≤ 2 ^ 64) (fine : VoxelKey) :
    (storePoint cfg (pointGeneration cfg mapper point) point
      (mapper.mapVoxels.lookup fine)).occupancyKey = coarseKey cfg point := by
  rcases storePoint_cases cfg (pointGeneration cfg mapper point) point
    (mapper.mapVoxels.lookup fine) with started | ⟨old, found, _, same, added⟩
  · rw [started]
    rfl
  · have live := numbered.live_of_generation enabled room (numbered.fine fine old found) same
    rw [added]
    exact numbered.owner fine old _ found live

/-- After a point, a live generation that was issued before was live before. -/
theorem Numbered.live_of_live_processPoint (enabled : cfg.dynamicFilterEnable = true)
    (numbered : Numbered count loop.mapper) {point : Point K}
    (room : count + creates cfg loop.mapper point ≤ 2 ^ 64) {stamp : Time} {key : VoxelKey}
    {generation : UInt64} (issued : Issued count generation)
    (live : (processPoint cfg stamp loop point).mapper.Live key generation) :
    loop.mapper.Live key generation := by
  rw [live_processPoint_iff enabled] at live
  split at live
  next same =>
    rw [same]
    exact numbered.live_of_generation enabled room issued live.symm
  next => exact live

/-- A live voxel stays live through a point, in its generation. -/
theorem live_processPoint_of_live (enabled : cfg.dynamicFilterEnable = true) (stamp : Time)
    (point : Point K) {key : VoxelKey} {generation : UInt64}
    (live : loop.mapper.Live key generation) :
    (processPoint cfg stamp loop point).mapper.Live key generation := by
  rw [live_processPoint_iff enabled]
  split
  next same =>
    obtain ⟨state, found, sameGeneration⟩ := live
    rw [pointGeneration, if_pos enabled, PointcloudMapper.entryFor, ← same, found]
    exact sameGeneration
  next => exact live

theorem Numbered.next_processPoint (enabled : cfg.dynamicFilterEnable = true)
    (numbered : Numbered count loop.mapper) (stamp : Time) (point : Point K) :
    (processPoint cfg stamp loop point).mapper.nextOccupancyGeneration =
      UInt64.ofNat (count + creates cfg loop.mapper point + 1) := by
  rw [processPoint_mapper enabled, PointcloudMapper.updateHit_eq]
  change (if (loop.mapper.temporalVoxels.lookup (coarseKey cfg point)).isSome = true then
    loop.mapper.nextOccupancyGeneration else loop.mapper.nextOccupancyGeneration + 1) = _
  rw [numbered.next, creates]
  split
  next found =>
    rw [if_pos (AList.lookup_isSome.mp found)]
  next absent =>
    rw [if_neg fun present => absent (AList.lookup_isSome.mpr present)]
    exact (UInt64.ofNat_add (count + 1) 1).symm

/-- A point keeps the numbering. -/
theorem Numbered.processPoint (enabled : cfg.dynamicFilterEnable = true)
    (numbered : Numbered count loop.mapper) (stamp : Time) {point : Point K}
    (room : count + creates cfg loop.mapper point ≤ 2 ^ 64) :
    Numbered (count + creates cfg loop.mapper point)
      (ScoutStack.processPoint cfg stamp loop point).mapper := by
  have stored := numbered.issued_pointGeneration enabled point
  have coarse : ∀ key generation,
      (ScoutStack.processPoint cfg stamp loop point).mapper.Live key generation →
      Issued (count + creates cfg loop.mapper point) generation := by
    intro key generation live
    rw [live_processPoint_iff enabled] at live
    split at live
    next =>
      rw [← live]
      exact stored
    next => exact (numbered.coarse key generation live).mono (Nat.le_add_right _ _)
  have distinct : ∀ key other generation,
      (ScoutStack.processPoint cfg stamp loop point).mapper.Live key generation →
      (ScoutStack.processPoint cfg stamp loop point).mapper.Live other generation →
      key = other := by
    intro key other generation first second
    rw [live_processPoint_iff enabled] at first second
    split at first
    next same =>
      split at second
      next sameToo => rw [same, sameToo]
      next =>
        rw [same]
        exact numbered.distinct _ _ generation (numbered.live_of_generation enabled room
          (numbered.coarse _ _ second) first.symm) second
    next =>
      split at second
      next sameToo =>
        rw [sameToo]
        exact numbered.distinct _ _ generation first (numbered.live_of_generation enabled room
          (numbered.coarse _ _ first) second.symm)
      next => exact numbered.distinct _ _ generation first second
  constructor
  · exact numbered.next_processPoint enabled stamp point
  · exact coarse
  · exact distinct
  · intro key entry found
    rw [lookup_mapVoxels_processPoint] at found
    split at found
    next =>
      rw [← Option.some.inj found, storePoint_generation]
      exact stored
    next => exact (numbered.fine key entry found).mono (Nat.le_add_right _ _)
  · intro fine entry key found live
    rw [lookup_mapVoxels_processPoint] at found
    split at found
    next =>
      rw [← Option.some.inj found, storePoint_generation] at live
      rw [← Option.some.inj found, numbered.storePoint_key enabled room]
      apply distinct _ _ _ _ live
      rw [live_processPoint_iff enabled, if_pos rfl]
    next =>
      have issued := numbered.fine fine entry found
      exact numbered.owner fine entry key found
        (numbered.live_of_live_processPoint enabled room issued live)

/-- The voxels that the remaining points create. -/
theorem card_newKeys_processPoint (enabled : cfg.dynamicFilterEnable = true) (stamp : Time)
    (point : Point K) (points : Cloud K) :
    (loop.mapper.temporalVoxels.newKeys ((point :: points).map (coarseKey cfg))).card =
      creates cfg loop.mapper point +
        ((processPoint cfg stamp loop point).mapper.temporalVoxels.newKeys
          (points.map (coarseKey cfg))).card := by
  rw [processPoint_mapper enabled, PointcloudMapper.updateHit_eq, List.map_cons]
  exact Table.card_newKeys_cons _ _ _ _

/-- The point loop keeps the numbering. -/
theorem Numbered.foldl (enabled : cfg.dynamicFilterEnable = true) (stamp : Time)
    (points : Cloud K) (numbered : Numbered count loop.mapper)
    (room : count + (loop.mapper.temporalVoxels.newKeys (points.map (coarseKey cfg))).card ≤
      2 ^ 64) :
    Numbered (count + (loop.mapper.temporalVoxels.newKeys (points.map (coarseKey cfg))).card)
      (points.foldl (ScoutStack.processPoint cfg stamp) loop).mapper := by
  induction points generalizing count loop with
  | nil => exact numbered
  | cons point points ih =>
      rw [card_newKeys_processPoint enabled stamp, ← Nat.add_assoc] at room ⊢
      have first := numbered.processPoint enabled stamp
        ((Nat.le_add_right _ _).trans room : count + creates cfg loop.mapper point ≤ 2 ^ 64)
      exact ih first room

end Point

/-! ## Scans and runs -/

section Scans

variable {cfg : Config K} {count : ℕ} {mapper : PointcloudMapper K}

/-- Number of voxels that a scan creates. -/
def created (cfg : Config K) (mapper : PointcloudMapper K) (scan : Scan K) : ℕ :=
  if cfg.dynamicFilterEnable then
    (mapper.temporalVoxels.newKeys (scan.filtered.map (coarseKey cfg))).card
  else 0

/-- Rays and the sweep give life to no voxel. -/
theorem live_of_live_processScan (scan : Scan K) {key : VoxelKey} {generation : UInt64}
    (live : (processScan cfg mapper scan).Live key generation) :
    (processPoints cfg mapper scan).mapper.Live key generation := by
  obtain ⟨state, found, same⟩ := live
  rw [processScan, lookup_maybeCleanup, Option.filter_eq_some_iff] at found
  have absorbed : (PointcloudMapper.updateMisses cfg scan.header.stamp
      (processPoints cfg mapper scan).mapper (missedKeys cfg scan)).temporalVoxels.lookup key =
        some state := by
    rw [← updateFreeSpace_eq]
    exact found.1
  rw [PointcloudMapper.lookup_updateMisses] at absorbed
  split at absorbed
  next =>
    obtain ⟨old, present, left⟩ := Option.bind_eq_some_iff.mp absorbed
    exact ⟨old, present, (OccupancyVoxelState.miss_generation left).symm.trans same⟩
  next => exact ⟨state, absorbed, same⟩

/-- Rays and the sweep hand out no generation. -/
theorem processScan_next (cfg : Config K) (mapper : PointcloudMapper K) (scan : Scan K) :
    (processScan cfg mapper scan).nextOccupancyGeneration =
      (processPoints cfg mapper scan).mapper.nextOccupancyGeneration := by
  obtain ⟨_, _, frame⟩ := maybeCleanup_frame cfg (absorbScan cfg mapper scan) scan.header.stamp
  obtain ⟨_, _, _, misses⟩ := PointcloudMapper.updateMisses_frame cfg scan.header.stamp
    (missedKeys cfg scan) (processPoints cfg mapper scan).mapper
  rw [processScan, frame, absorbScan, updateFreeSpace_eq, misses]

omit [LinearOrder K] [FloorRing K] in
/-- The loop starts with the tables that the scan finds. -/
theorem Numbered.loop_start (numbered : Numbered count mapper) :
    Numbered count
      (⟨{ mapper with scanSequence := mapper.scanSequence + 1 }, [], []⟩ : PointLoop K).mapper :=
  numbered.shrink rfl (fun _ _ live => live) fun _ _ found => found

/-- A scan keeps the numbering. -/
theorem Numbered.processScan (enabled : cfg.dynamicFilterEnable = true)
    (numbered : Numbered count mapper) {scan : Scan K}
    (room : count + created cfg mapper scan ≤ 2 ^ 64) :
    Numbered (count + created cfg mapper scan) (ScoutStack.processScan cfg mapper scan) := by
  rw [created, if_pos enabled] at room ⊢
  have looped := numbered.loop_start.foldl enabled scan.header.stamp scan.filtered room
  apply looped.shrink
  · exact processScan_next cfg mapper scan
  · exact fun key generation live => live_of_live_processScan scan live
  · intro key entry found
    rw [processScan_mapVoxels] at found
    exact found

omit [FloorRing K] in
/-- A build takes entries of the fine map away. -/
theorem Numbered.build (numbered : Numbered count mapper) (dirty : Bool) :
    Numbered count { (mapper.buildMapCloud cfg).1 with dirty := dirty } := by
  apply numbered.shrink
  · rfl
  · exact fun key generation live => live
  · intro key entry found
    change (mapper.buildMapCloud cfg).1.mapVoxels.lookup key = some entry at found
    rw [PointcloudMapper.lookup_buildMapCloud] at found
    exact PointcloudMapper.lookup_of_kept found

omit [LinearOrder K] [FloorRing K] in
theorem Numbered.reset (numbered : Numbered count mapper) : Numbered count mapper.resetMap := by
  apply numbered.shrink
  · rfl
  · rintro key generation ⟨state, found, _⟩
    cases found
  · intro key entry found
    cases found

/-- Number of voxels that a history creates. -/
def creations (cfg : Config K) (callbacks : List (Callback K)) : ℕ :=
  (Machine.collect (step cfg)
    (fun mapper callback => (acceptedScan cfg mapper callback).map (created cfg mapper)) {}
    callbacks).sum

theorem creations_concat (cfg : Config K) (callbacks : List (Callback K))
    (callback : Callback K) :
    creations cfg (callbacks ++ [callback]) =
      creations cfg callbacks +
        ((acceptedScan cfg (run cfg callbacks) callback).map
          (created cfg (run cfg callbacks))).sum := by
  rw [creations, Machine.collect_append, List.sum_append, Machine.collect_cons,
    Machine.collect_nil, List.append_nil]
  rfl

/-- In every reachable state the generations in both tables are those handed out so
far, as long as the counter has not gone round. -/
theorem numbered_run (enabled : cfg.dynamicFilterEnable = true) {callbacks : List (Callback K)}
    (few : creations cfg callbacks ≤ 2 ^ 64) :
    Numbered (creations cfg callbacks) (run cfg callbacks) := by
  induction callbacks using List.reverseRecOn with
  | nil => exact numbered_start
  | append_singleton callbacks callback ih =>
      rw [creations_concat] at few ⊢
      have numbered := ih ((Nat.le_add_right _ _).trans few)
      have moved := transition_run cfg callbacks callback
      generalize run cfg (callbacks ++ [callback]) = after at moved
      cases moved with
      | odometry msg => exact numbered.shrink rfl (fun _ _ live => live) fun _ _ found => found
      | rejected msg rejected =>
          rw [acceptedScan_cloud_of_none rejected]
          exact numbered
      | scan msg scan accepted =>
          rw [acceptedScan_cloud_of_some accepted, List.map_singleton, List.sum_singleton] at few ⊢
          exact numbered.processScan enabled few
      | idle _ builds =>
          rw [acceptedScan_of_buildsMap builds]
          exact numbered
      | build _ dirty builds =>
          rw [acceptedScan_of_buildsMap builds]
          exact numbered.build dirty
      | reset => exact numbered.reset

end Scans

/-! ## The scan that created a voxel -/

section Birth

variable {cfg : Config K} {key : VoxelKey} {generation : UInt64}

/-- The message after `before` has created the voxel that has been live at the key in
the given generation ever since. -/
structure BornBy (cfg : Config K) (key : VoxelKey) (generation : UInt64)
    (before : List (Callback K)) (msg : PointCloud2 K) (after : List (Callback K)) : Prop where
  absent : ¬(run cfg before).Live key generation
  live : ∀ middle, middle <+: after → (run cfg (before ++ .cloud msg :: middle)).Live key generation

theorem BornBy.of_append {before after more : List (Callback K)} {msg : PointCloud2 K}
    (born : BornBy cfg key generation before msg (after ++ more)) :
    BornBy cfg key generation before msg after where
  absent := born.absent
  live := fun middle isFront => born.live middle (isFront.trans (List.prefix_append _ _))

/-- Only a scan gives life to a voxel. -/
theorem exists_msg_of_live_step {mapper : PointcloudMapper K} {callback : Callback K}
    (absent : ¬mapper.Live key generation) (live : (step cfg mapper callback).Live key generation) :
    ∃ msg, callback = .cloud msg := by
  have moved := transition cfg mapper callback
  generalize step cfg mapper callback = after at moved live
  cases moved with
  | odometry | rejected | idle | build => exact absurd live absent
  | scan msg => exact ⟨msg, rfl⟩
  | reset =>
      obtain ⟨state, found, _⟩ := live
      cases found

/-- Every live voxel was created by some message. -/
theorem exists_bornBy {callbacks : List (Callback K)}
    (live : (run cfg callbacks).Live key generation) :
    ∃ before msg after, callbacks = before ++ .cloud msg :: after ∧
      BornBy cfg key generation before msg after := by
  induction callbacks using List.reverseRecOn with
  | nil =>
      obtain ⟨state, found, _⟩ := live
      cases found
  | append_singleton callbacks callback ih =>
      by_cases earlier : (run cfg callbacks).Live key generation
      · obtain ⟨before, msg, after, split, born⟩ := ih earlier
        refine ⟨before, msg, after ++ [callback], by simp [split], born.absent, ?_⟩
        intro middle isFront
        rcases List.prefix_concat_iff.mp isFront with whole | proper
        · rw [whole]
          have all : before ++ .cloud msg :: (after ++ [callback]) = callbacks ++ [callback] := by
            simp [split]
          rw [all]
          exact live
        · exact born.live middle proper
      · rw [run_append, runFrom_cons, runFrom_nil] at live
        obtain ⟨msg, rfl⟩ := exists_msg_of_live_step earlier live
        refine ⟨callbacks, msg, [], rfl, earlier, ?_⟩
        intro middle isFront
        rw [List.prefix_nil.mp isFront, run_append, runFrom_cons, runFrom_nil]
        exact live

end Birth

/-! ## Going round -/

section Churn

/-- The scan of a cloud with one point. -/
def pointScan (stamp : Time) (point : Vector3 ℚ) : Scan ℚ :=
  ⟨⟨stamp, "camera_init"⟩, ⟨0, 1 / 2, 1 / 2⟩, [⟨point.x, point.y, point.z, 1⟩]⟩

/-- The sensor is at rest. -/
def churnStart : List (Callback ℚ) := [odometryAt 1 ⟨0, 1 / 2, 1 / 2⟩]

/-- The same cloud over and over, each with the stamp of the last sweep. -/
def churn (n : ℕ) : List (Callback ℚ) := List.replicate n (cloudAt 2 [insideVoxel])

/-- What the point loop does to the coarse table with a single point. -/
theorem temporalVoxels_pointScan (mapper : PointcloudMapper ℚ) (stamp : Time)
    (point : Vector3 ℚ) (key : VoxelKey) :
    (processPoints churnConfig mapper (pointScan stamp point)).mapper.temporalVoxels.lookup key =
      if key = voxelKey point 1 then
        some ((mapper.entryFor key).hit churnConfig (mapper.scanSequence + 1) stamp)
      else mapper.temporalVoxels.lookup key := by
  have enabled : churnConfig.dynamicFilterEnable = true := rfl
  change (processPoint churnConfig stamp _ _).mapper.temporalVoxels.lookup key = _
  rw [processPoint_mapper enabled]
  change (PointcloudMapper.updateHit churnConfig _ (voxelKey point 1) stamp).temporalVoxels.lookup
    key = _
  rw [PointcloudMapper.lookup_updateHit]
  split
  next same =>
    rw [same]
    rfl
  next => rfl

/-- What such a scan does to the fine map. -/
theorem mapVoxels_pointScan (mapper : PointcloudMapper ℚ) (stamp : Time) (point : Vector3 ℚ)
    (key : VoxelKey) :
    (processScan churnConfig mapper (pointScan stamp point)).mapVoxels.lookup key =
      if key = voxelKey point 1 then
        some (storePoint churnConfig (mapper.entryFor key).generation
          ⟨point.x, point.y, point.z, 1⟩ (mapper.mapVoxels.lookup key))
      else mapper.mapVoxels.lookup key := by
  have enabled : churnConfig.dynamicFilterEnable = true := rfl
  rw [processScan_mapVoxels]
  change (processPoint churnConfig stamp _ _).mapper.mapVoxels.lookup key = _
  rw [lookup_mapVoxels_processPoint, pointGeneration, if_pos enabled]
  change (if key = voxelKey point 1 then _ else _) = _
  split
  next same =>
    rw [same]
    rfl
  next => rfl

/-- Rays of such a scan leave its own voxel, and find no other. -/
theorem absorbScan_pointScan {mapper : PointcloudMapper ℚ} {point : Vector3 ℚ}
    (only : ∀ key, key ≠ voxelKey point 1 → mapper.temporalVoxels.lookup key = none)
    (stamp : Time) (key : VoxelKey) :
    (absorbScan churnConfig mapper (pointScan stamp point)).temporalVoxels.lookup key =
      if key = voxelKey point 1 then
        some ((mapper.entryFor key).hit churnConfig (mapper.scanSequence + 1) stamp)
      else none := by
  have points := temporalVoxels_pointScan mapper stamp point key
  rw [absorbScan, updateFreeSpace_eq]
  change (PointcloudMapper.updateMisses churnConfig stamp _ _).temporalVoxels.lookup key = _
  rw [PointcloudMapper.lookup_updateMisses, points]
  split
  next missed =>
    have free := not_occupied_of_mem_missedKeys missed
    have other : key ≠ voxelKey point 1 := by
      rintro rfl
      exact free (Finset.mem_singleton_self _)
    rw [if_neg other, if_neg other, only key other]
    rfl
  next =>
    split
    next => rfl
    next other => exact only key other

/-- No voxel is live after the given number of scans, each of which has created one. -/
structure Idle (count : ℕ) (mapper : PointcloudMapper ℚ) : Prop where
  latestOdom : mapper.latestOdom = (run churnConfig churnStart).latestOdom
  haveOdom : mapper.haveOdom = (run churnConfig churnStart).haveOdom
  voxels : ∀ key, mapper.temporalVoxels.lookup key = none
  next : mapper.nextOccupancyGeneration = UInt64.ofNat (count + 1)
  sequence : mapper.scanSequence = UInt64.ofNat count
  clock : mapper.lastCleanup = if count = 0 then 0 else 2

theorem idle_start : Idle 0 (run churnConfig churnStart) :=
  ⟨rfl, rfl, fun _ => rfl, rfl, rfl, rfl⟩

section Idle

variable {count : ℕ} {mapper : PointcloudMapper ℚ}

theorem Idle.entryFor (idle : Idle count mapper) (key : VoxelKey) :
    mapper.entryFor key = { generation := UInt64.ofNat (count + 1) } := by
  rw [PointcloudMapper.entryFor, idle.voxels, ← idle.next]
  rfl

theorem Idle.sweeps (idle : Idle count mapper) (point : Vector3 ℚ) :
    ScoutStack.sweeps churnConfig mapper (pointScan 2 point) = true := by
  obtain ⟨_, _, _, _, _, absorbed⟩ := absorbScan_frame churnConfig mapper (pointScan 2 point)
  have clock := idle.clock
  rw [ScoutStack.sweeps, PointcloudMapper.cleanupDue, absorbed]
  split at clock
  next => simp [clock, Time.isZero]
  next => simp [clock, pointScan, churnConfig]

/-- A voxel with one hit does not survive a sweep. -/
theorem expired_churn (number generation : UInt64) :
    (({ generation := generation } : OccupancyVoxelState ℚ).hit churnConfig number 2).expired
      churnConfig 2 = true := by
  have unconfirmed : isStatic churnConfig
      (({ generation := generation } : OccupancyVoxelState ℚ).hit churnConfig number 2) =
        false := by
    rw [Bool.eq_false_iff]
    intro static
    rw [isStatic_iff rfl] at static
    have count := static.1
    unfold OccupancyVoxelState.hit at count
    split at count
    next =>
      change 2 ≤ (0 : UInt32).toNat at count
      exact absurd count (by decide)
    next =>
      change 2 ≤ (0 + 1 : UInt32).toNat at count
      exact absurd count (by decide)
  have old : (toSec 2 2 : ℚ) > churnConfig.candidateTimeout := by
    rw [toSec_self]
    decide +kernel
  rw [OccupancyVoxelState.expired, unconfirmed, OccupancyVoxelState.hit_lastSeen,
    decide_eq_true old]
  rfl

theorem Idle.next_processScan (idle : Idle count mapper) (stamp : Time) (point : Vector3 ℚ) :
    (ScoutStack.processScan churnConfig mapper
      (pointScan stamp point)).nextOccupancyGeneration = UInt64.ofNat (count + 2) := by
  have enabled : churnConfig.dynamicFilterEnable = true := rfl
  rw [processScan_next]
  change (processPoint churnConfig stamp _ _).mapper.nextOccupancyGeneration = _
  rw [processPoint_mapper enabled, PointcloudMapper.updateHit_eq]
  change (if (mapper.temporalVoxels.lookup (voxelKey point 1)).isSome = true then
    mapper.nextOccupancyGeneration else mapper.nextOccupancyGeneration + 1) = _
  rw [idle.voxels, idle.next]
  exact (UInt64.ofNat_add (count + 1) 1).symm

/-- Each such cloud takes a generation and leaves no voxel. -/
theorem Idle.processScan (idle : Idle count mapper) (point : Vector3 ℚ) :
    Idle (count + 1) (ScoutStack.processScan churnConfig mapper (pointScan 2 point)) := by
  have swept := idle.sweeps point
  obtain ⟨sameOdom, sameFlag⟩ := processScan_odometry churnConfig mapper (pointScan 2 point)
  constructor
  · exact sameOdom.trans idle.latestOdom
  · exact sameFlag.trans idle.haveOdom
  · intro key
    have only : ∀ key, key ≠ voxelKey point 1 → mapper.temporalVoxels.lookup key = none :=
      fun key _ => idle.voxels key
    have absorbed := absorbScan_pointScan only 2 key
    rw [ScoutStack.processScan, lookup_maybeCleanup, absorbed, idle.entryFor]
    split
    next =>
      apply Option.filter_some_neg
      have due : (absorbScan churnConfig mapper (pointScan 2 point)).cleanupDue churnConfig
          (pointScan 2 point).header.stamp = true := swept
      rw [due]
      exact congrArg Bool.not (expired_churn _ _)
    next => rfl
  · exact idle.next_processScan 2 point
  · rw [processScan_scanSequence, idle.sequence]
    exact (UInt64.ofNat_add count 1).symm
  · rw [processScan_lastCleanup, swept]
    rfl

theorem Idle.created (idle : Idle count mapper) (stamp : Time) (point : Vector3 ℚ) :
    ScoutStack.created churnConfig mapper (pointScan stamp point) = 1 := by
  have absent : voxelKey point 1 ∉ mapper.temporalVoxels :=
    AList.lookup_eq_none.mp (idle.voxels _)
  have single : mapper.temporalVoxels.newKeys
      ((pointScan stamp point).filtered.map (coarseKey churnConfig)) = {voxelKey point 1} := by
    ext key
    rw [Table.mem_newKeys, Finset.mem_singleton]
    change key ∈ [voxelKey point 1] ∧ _ ↔ _
    rw [List.mem_singleton]
    apply and_iff_left_of_imp
    intro same
    rw [same]
    exact absent
  have enabled : churnConfig.dynamicFilterEnable = true := rfl
  rw [ScoutStack.created, if_pos enabled, single, Finset.card_singleton]

/-- Messages are accepted as under the first odometry. -/
theorem Idle.acceptScan (idle : Idle count mapper) {msg : PointCloud2 ℚ} {scan : Scan ℚ}
    (accepted : ScoutStack.acceptScan churnConfig (run churnConfig churnStart) msg = some scan) :
    ScoutStack.acceptScan churnConfig mapper msg = some scan := by
  rw [acceptScan_congr churnConfig idle.latestOdom idle.haveOdom]
  exact accepted

end Idle

/-- The message of the repeated cloud is accepted. -/
theorem accepted_churn {count : ℕ} {mapper : PointcloudMapper ℚ} (idle : Idle count mapper) :
    acceptScan churnConfig mapper ⟨⟨2, "camera_init"⟩, [some ⟨5 / 2, 1 / 2, 1 / 2, 1⟩]⟩ =
      some (pointScan 2 insideVoxel) := by
  apply idle.acceptScan
  decide +kernel

/-- One more cloud. -/
theorem run_churn_succ {count n : ℕ} {callbacks : List (Callback ℚ)}
    (idle : Idle count (run churnConfig (callbacks ++ churn n))) :
    run churnConfig (callbacks ++ churn (n + 1)) =
        processScan churnConfig (run churnConfig (callbacks ++ churn n))
          (pointScan 2 insideVoxel) ∧
      creations churnConfig (callbacks ++ churn (n + 1)) =
        creations churnConfig (callbacks ++ churn n) + 1 := by
  have accepted := accepted_churn idle
  have extended : callbacks ++ churn (n + 1) =
      (callbacks ++ churn n) ++ [cloudAt 2 [insideVoxel]] := by
    rw [churn, List.replicate_succ', ← List.append_assoc]
    rfl
  have counted : acceptedScan churnConfig (run churnConfig (callbacks ++ churn n))
      (cloudAt 2 [insideVoxel]) = [pointScan 2 insideVoxel] :=
    acceptedScan_cloud_of_some accepted
  constructor
  · rw [extended, run_append churnConfig (callbacks ++ churn n)]
    exact step_cloud_of_some accepted
  · rw [extended, creations_concat, counted, List.map_singleton, List.sum_singleton, idle.created]

/-- Any number of generations can be used up without leaving a voxel. -/
theorem idle_churn {count : ℕ} {callbacks : List (Callback ℚ)}
    (idle : Idle count (run churnConfig callbacks)) (n : ℕ) :
    Idle (count + n) (run churnConfig (callbacks ++ churn n)) ∧
      creations churnConfig (callbacks ++ churn n) = creations churnConfig callbacks + n := by
  induction n with
  | zero =>
      rw [churn, List.replicate_zero, List.append_nil]
      exact ⟨idle, rfl⟩
  | succ n ih =>
      obtain ⟨next, count⟩ := run_churn_succ ih.1
      rw [next, count, ih.2]
      exact ⟨ih.1.processScan insideVoxel, rfl⟩

/-- A cloud from before the last sweep triggers no sweep. -/
theorem processScan_late {mapper : PointcloudMapper ℚ} {point : Vector3 ℚ}
    (only : ∀ key, key ≠ voxelKey point 1 → mapper.temporalVoxels.lookup key = none)
    (clock : mapper.lastCleanup = 2) :
    (processScan churnConfig mapper (pointScan 1 point)).lastCleanup = 2 ∧
      ∀ key, (processScan churnConfig mapper (pointScan 1 point)).temporalVoxels.lookup key =
        if key = voxelKey point 1 then
          some ((mapper.entryFor key).hit churnConfig (mapper.scanSequence + 1) 1)
        else none := by
  have absorbed := absorbScan_pointScan only 1
  have listed : ∀ key,
      key ∈ (absorbScan churnConfig mapper (pointScan 1 point)).temporalVoxels →
        key ∈ [voxelKey point 1] := by
    intro key present
    by_contra other
    rw [List.mem_singleton] at other
    have absent := absorbed key
    rw [if_neg other] at absent
    exact AList.lookup_eq_none.mp absent present
  have small : (absorbScan churnConfig mapper (pointScan 1 point)).temporalVoxels.size ≤
      churnConfig.maxVoxels :=
    (Table.size_le_length listed).trans (Nat.le_add_left 1 9)
  have idle : sweeps churnConfig mapper (pointScan 1 point) = false := by
    have early : (toSec 1 2 : ℚ) < churnConfig.cleanupPeriod := by decide +kernel
    obtain ⟨_, _, _, _, _, frame⟩ := absorbScan_frame churnConfig mapper (pointScan 1 point)
    have sameClock : (absorbScan churnConfig mapper (pointScan 1 point)).lastCleanup = 2 := by
      rw [frame]
      exact clock
    rw [sweeps, PointcloudMapper.cleanupDue, sameClock, decide_eq_true small]
    change (!(true && decide ((toSec 1 2 : ℚ) < churnConfig.cleanupPeriod) && true)) = false
    rw [decide_eq_true early]
    rfl
  constructor
  · rw [processScan_lastCleanup, idle]
    exact clock
  · intro key
    have notDue : (absorbScan churnConfig mapper (pointScan 1 point)).cleanupDue churnConfig
        (pointScan 1 point).header.stamp = false := idle
    rw [processScan, lookup_maybeCleanup, absorbed, notDue]
    split
    next => exact Option.filter_some_pos rfl
    next => rfl

end Churn

end ScoutStack
