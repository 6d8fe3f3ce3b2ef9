import ScoutStack.Mapper.Generations
import ScoutStack.Mapper.Samples

/-!
# Where the points of the map cloud come from

Every emitted point is the mean of filtered points of its fine voxel, all of them
accepted since the coarse voxel that vouches for it was created.  The samples of
an entry are followed through the point loop, which either starts an entry anew
or adds to one of the same generation.
-/

namespace ScoutStack

variable {K : Type*} [Field K] [LinearOrder K] [FloorRing K]

/-! ## The samples of an entry -/

/-- An entry has accumulated the samples: points of its fine voxel and of the coarse
voxel it was claimed for. -/
structure Sampled (cfg : Config K) (fine : VoxelKey) (entry : MapVoxelState K)
    (samples : Cloud K) : Prop where
  nonempty : samples ≠ []
  few : samples.length ≤ 2 ^ 32
  count : entry.sampleCount = UInt32.ofNat samples.length
  x : entry.sum.x = (samples.map Point.x).sum
  y : entry.sum.y = (samples.map Point.y).sum
  z : entry.sum.z = (samples.map Point.z).sum
  intensity : entry.intensitySum = (samples.map Point.intensity).sum
  keys : ∀ sample ∈ samples,
    fineKey cfg sample = fine ∧ coarseKey cfg sample = entry.occupancyKey

section Sampled

variable {cfg : Config K} {entry : MapVoxelState K} {samples : Cloud K}

theorem Sampled.accumulated {fine : VoxelKey} (sampled : Sampled cfg fine entry samples) :
    Accumulated entry samples :=
  ⟨sampled.nonempty, sampled.few, sampled.count, sampled.x, sampled.y, sampled.z,
    sampled.intensity⟩

theorem Accumulated.sampled {fine : VoxelKey} (accumulated : Accumulated entry samples)
    (keys : ∀ sample ∈ samples,
      fineKey cfg sample = fine ∧ coarseKey cfg sample = entry.occupancyKey) :
    Sampled cfg fine entry samples :=
  ⟨accumulated.nonempty, accumulated.few, accumulated.count, accumulated.x, accumulated.y,
    accumulated.z, accumulated.intensity, keys⟩

/-- A new entry has its first sample. -/
theorem sampled_start (cfg : Config K) (generation : UInt64) (point : Point K) :
    Sampled cfg (fineKey cfg point)
      (MapVoxelState.add
        { occupancyKey := coarseKey cfg point, occupancyGeneration := generation } point)
      [point] := by
  apply (accumulated_start (coarseKey cfg point) generation point).sampled
  intro sample member
  rw [List.mem_singleton.mp member]
  exact ⟨rfl, rfl⟩

/-- An entry whose counter is not zero has room for one more sample. -/
theorem Sampled.add {point : Point K} (sampled : Sampled cfg (fineKey cfg point) entry samples)
    (counted : entry.sampleCount ≠ 0) (sameKey : coarseKey cfg point = entry.occupancyKey) :
    Sampled cfg (fineKey cfg point) (entry.add point) (samples ++ [point]) := by
  apply (sampled.accumulated.add counted point).sampled
  intro sample member
  rcases List.mem_append.mp member with old | new
  · exact sampled.keys sample old
  · rw [List.mem_singleton.mp new]
    exact ⟨rfl, sameKey⟩

end Sampled

/-! ## Points since the creation of a voxel -/

/-- While the voxel at the key is live in the given generation, the samples of its fine
entries come from the pool. -/
def Backed (cfg : Config K) (key : VoxelKey) (generation : UInt64) (pool : Cloud K)
    (mapper : PointcloudMapper K) : Prop :=
  mapper.Live key generation → ∀ fine entry, mapper.mapVoxels.lookup fine = some entry →
    entry.occupancyGeneration = generation →
      ∃ samples, Sampled cfg fine entry samples ∧ samples.Sublist pool

section Backed

variable {cfg : Config K} {key : VoxelKey} {generation : UInt64} {pool : Cloud K} {count : ℕ}

/-- A point joins the pool. -/
theorem Backed.processPoint (enabled : cfg.dynamicFilterEnable = true) {loop : PointLoop K}
    (numbered : Numbered count loop.mapper) {point : Point K}
    (room : count + creates cfg loop.mapper point ≤ 2 ^ 64) (stamp : Time)
    (backed : Backed cfg key generation pool loop.mapper) :
    Backed cfg key generation (pool ++ [point])
      (ScoutStack.processPoint cfg stamp loop point).mapper := by
  intro live fine entry found sameGeneration
  rw [lookup_mapVoxels_processPoint] at found
  split at found
  next same =>
    obtain rfl := Option.some.inj found
    rw [storePoint_generation] at sameGeneration
    rcases storePoint_cases cfg (pointGeneration cfg loop.mapper point) point
      (loop.mapper.mapVoxels.lookup fine) with
      started | ⟨old, present, counted, oldGeneration, added⟩
    · rw [started, same]
      exact ⟨[point], sampled_start _ _ _, List.sublist_append_right _ _⟩
    · have issued := numbered.fine fine old present
      have ownLive := numbered.live_of_generation enabled room issued oldGeneration
      have sameKey := numbered.owner fine old _ present ownLive
      rw [oldGeneration, sameGeneration] at issued
      have liveBefore := numbered.live_of_live_processPoint enabled room issued live
      obtain ⟨samples, sampled, fromPool⟩ := backed liveBefore fine old present
        (oldGeneration.trans sameGeneration)
      rw [same] at sampled
      rw [added, same]
      exact ⟨samples ++ [point], sampled.add counted sameKey.symm,
        fromPool.append (List.Sublist.refl _)⟩
  next =>
    have issued := numbered.fine fine entry found
    rw [sameGeneration] at issued
    have liveBefore := numbered.live_of_live_processPoint enabled room issued live
    obtain ⟨samples, sampled, fromPool⟩ := backed liveBefore fine entry found sameGeneration
    exact ⟨samples, sampled, fromPool.trans (List.sublist_append_left _ _)⟩

/-- The points of a loop join the pool. -/
theorem Backed.foldl (enabled : cfg.dynamicFilterEnable = true) (stamp : Time)
    (points : Cloud K) {loop : PointLoop K} (numbered : Numbered count loop.mapper)
    (room : count + (loop.mapper.temporalVoxels.newKeys (points.map (coarseKey cfg))).card ≤
      2 ^ 64)
    (backed : Backed cfg key generation pool loop.mapper) :
    Backed cfg key generation (pool ++ points)
      (points.foldl (ScoutStack.processPoint cfg stamp) loop).mapper := by
  induction points generalizing count loop pool with
  | nil =>
      rw [List.append_nil]
      exact backed
  | cons point points ih =>
      rw [card_newKeys_processPoint enabled stamp, ← Nat.add_assoc] at room
      have first : count + creates cfg loop.mapper point ≤ 2 ^ 64 :=
        (Nat.le_add_right _ _).trans room
      have rest := ih (numbered.processPoint enabled stamp first) room
        (backed.processPoint enabled numbered first stamp)
      rw [List.append_assoc] at rest
      exact rest

/-- The filtered points of a scan join the pool. -/
theorem Backed.processScan (enabled : cfg.dynamicFilterEnable = true)
    {mapper : PointcloudMapper K} (numbered : Numbered count mapper) {scan : Scan K}
    (room : count + created cfg mapper scan ≤ 2 ^ 64)
    (backed : Backed cfg key generation pool mapper) :
    Backed cfg key generation (pool ++ scan.filtered) (ScoutStack.processScan cfg mapper scan) := by
  rw [created, if_pos enabled] at room
  have looped : Backed cfg key generation (pool ++ scan.filtered)
      (processPoints cfg mapper scan).mapper :=
    Backed.foldl enabled scan.header.stamp scan.filtered numbered.loop_start room backed
  intro live fine entry found sameGeneration
  rw [processScan_mapVoxels] at found
  exact looped (live_of_live_processScan scan live) fine entry found sameGeneration

/-- From a moment at which the generation is not live, all samples are later. -/
theorem backed_run (enabled : cfg.dynamicFilterEnable = true) {before after : List (Callback K)}
    (few : creations cfg (before ++ after) ≤ 2 ^ 64)
    (absent : ¬(run cfg before).Live key generation) :
    Backed cfg key generation (pointsFrom cfg (run cfg before) after)
      (run cfg (before ++ after)) := by
  induction after using List.reverseRecOn with
  | nil =>
      rw [List.append_nil]
      exact fun live => absurd live absent
  | append_singleton after callback ih =>
      rw [← List.append_assoc, creations_concat] at few
      have fewBefore := (Nat.le_add_right _ _).trans few
      have numbered := numbered_run enabled fewBefore
      have backed := ih fewBefore
      rw [pointsFrom_concat, ← List.append_assoc]
      have moved := transition_run cfg (before ++ after) callback
      generalize run cfg (before ++ after ++ [callback]) = next at moved
      cases moved with
      | odometry msg =>
          rw [acceptedScan_odometry, List.flatMap_nil, List.append_nil]
          exact backed
      | rejected msg rejected =>
          rw [acceptedScan_cloud_of_none rejected, List.flatMap_nil, List.append_nil]
          exact backed
      | scan msg scan accepted =>
          rw [acceptedScan_cloud_of_some accepted] at few ⊢
          rw [List.map_singleton, List.sum_singleton] at few
          rw [List.flatMap_singleton]
          exact backed.processScan enabled numbered few
      | idle _ builds =>
          rw [acceptedScan_of_buildsMap builds, List.flatMap_nil, List.append_nil]
          exact backed
      | build _ dirty builds =>
          rw [acceptedScan_of_buildsMap builds, List.flatMap_nil, List.append_nil]
          intro live fine entry found
          change ((run cfg (before ++ after)).buildMapCloud cfg).1.mapVoxels.lookup fine =
            some entry at found
          rw [PointcloudMapper.lookup_buildMapCloud] at found
          exact backed live fine entry (PointcloudMapper.lookup_of_kept found)
      | reset =>
          rintro ⟨state, found, _⟩
          cases found

end Backed

/-- The samples of an entry whose voxel is live were accepted since the creation of the
voxel, and they are points of it. -/
theorem exists_samples_of_live {cfg : Config K} (enabled : cfg.dynamicFilterEnable = true)
    {callbacks : List (Callback K)} (few : creations cfg callbacks ≤ 2 ^ 64) {fine : VoxelKey}
    {entry : MapVoxelState K} (found : (run cfg callbacks).mapVoxels.lookup fine = some entry)
    (live : (run cfg callbacks).Live entry.occupancyKey entry.occupancyGeneration) :
    ∃ samples before msg after, callbacks = before ++ .cloud msg :: after ∧
      BornBy cfg entry.occupancyKey entry.occupancyGeneration before msg after ∧
      Sampled cfg fine entry samples ∧
      samples.Sublist (pointsFrom cfg (run cfg before) (.cloud msg :: after)) := by
  obtain ⟨before, msg, after, split, born⟩ := exists_bornBy live
  have backed := backed_run enabled (split ▸ few) born.absent
  rw [← split] at backed
  obtain ⟨samples, sampled, fromPool⟩ := backed live fine entry found rfl
  exact ⟨samples, before, msg, after, split, born, sampled, fromPool⟩

/-- As long as fewer than `2 ^ 64` voxels are created, live voxels have distinct
generations, none of them beyond the last one handed out; and every point of the map
cloud is the mean of filtered points of one fine voxel, all accepted since the
message that created the coarse voxel that is live and static now. -/
theorem no_resurrection {cfg : Config K} (enabled : cfg.dynamicFilterEnable = true)
    {callbacks : List (Callback K)} (few : creations cfg callbacks < 2 ^ 64) :
    (∀ key other generation, (run cfg callbacks).Live key generation →
      (run cfg callbacks).Live other generation → key = other) ∧
    (∀ key generation, (run cfg callbacks).Live key generation →
      generation ≤ (run cfg callbacks).nextOccupancyGeneration - 1 ∧
        ((run cfg callbacks).nextOccupancyGeneration ≠ 0 →
          generation < (run cfg callbacks).nextOccupancyGeneration)) ∧
    ∀ point ∈ ((run cfg callbacks).buildMapCloud cfg).2,
      ∃ fine entry occupancy samples before msg after,
        (run cfg callbacks).mapVoxels.lookup fine = some entry ∧
        (run cfg callbacks).temporalVoxels.lookup entry.occupancyKey = some occupancy ∧
        occupancy.generation = entry.occupancyGeneration ∧ isStatic cfg occupancy = true ∧
        samples ≠ [] ∧ point = meanOf samples ∧
        (∀ sample ∈ samples,
          fineKey cfg sample = fine ∧ coarseKey cfg sample = entry.occupancyKey) ∧
        callbacks = before ++ .cloud msg :: after ∧
        BornBy cfg entry.occupancyKey entry.occupancyGeneration before msg after ∧
        samples.Sublist (pointsFrom cfg (run cfg before) (.cloud msg :: after)) := by
  have numbered := numbered_run enabled few.le
  refine ⟨numbered.distinct, ?_, ?_⟩
  · intro key generation live
    exact numbered.lt_next few live
  · intro point emitted
    obtain ⟨fine, entry, found, emits⟩ := PointcloudMapper.mem_buildMapCloud.mp emitted
    rw [PointcloudMapper.emits_eq_some_iff enabled] at emits
    obtain ⟨counted, rfl, occupancy, present, sameGeneration, static⟩ := emits
    have live : (run cfg callbacks).Live entry.occupancyKey entry.occupancyGeneration :=
      ⟨occupancy, present, sameGeneration⟩
    obtain ⟨samples, before, msg, after, split, born, sampled, fromPool⟩ :=
      exists_samples_of_live enabled few.le found live
    exact ⟨fine, entry, occupancy, samples, before, msg, after, found, present, sameGeneration,
      static, sampled.nonempty, sampled.accumulated.mean counted, sampled.keys, split, born,
      fromPool⟩

/-- A voxel is confirmed, cleared and confirmed again with other points. -/
def clearedHistory : List (Callback ℚ) :=
  watching [(1, [insideVoxel]), (1, [insideVoxel]), (1, [behindVoxel]), (1, [behindVoxel]),
    (1, [behindVoxel]), (1, [⟨11 / 4, 1 / 2, 1 / 2⟩]), (1, [⟨11 / 4, 1 / 2, 1 / 2⟩])]

theorem no_resurrection_cleared : ∃ samples before msg after,
    clearedHistory = before ++ .cloud msg :: after ∧
      (⟨11 / 4, 1 / 2, 1 / 2, 1⟩ : Point ℚ) = meanOf samples ∧
      samples.Sublist (pointsFrom unitConfig (run unitConfig before) (.cloud msg :: after)) := by
  have few : creations unitConfig clearedHistory < 2 ^ 64 := by decide +kernel
  have emitted : (⟨11 / 4, 1 / 2, 1 / 2, 1⟩ : Point ℚ) ∈
      ((run unitConfig clearedHistory).buildMapCloud unitConfig).2 := by decide +kernel
  obtain ⟨_, _, _, samples, before, msg, after, _, _, _, _, _, mean, _, split, _, later⟩ :=
    (no_resurrection rfl few).2.2 _ emitted
  exact ⟨samples, before, msg, after, split, mean, later⟩

/-- Many voxels are created and forgotten, and one more is created by a cloud with the
stamp of the first odometry. -/
def roundHistory (n : ℕ) : List (Callback ℚ) :=
  churnStart ++ churn n ++ [cloudAt 1 [insideVoxel]]

/-- The last voxel stays, with the generation before the next one. -/
theorem live_roundHistory {n : ℕ} (some : n ≠ 0) :
    creations churnConfig (roundHistory n) = n + 1 ∧
      (run churnConfig (roundHistory n)).Live ⟨2, 0, 0⟩ (UInt64.ofNat (n + 1)) ∧
      (run churnConfig (roundHistory n)).nextOccupancyGeneration = UInt64.ofNat (n + 2) := by
  obtain ⟨idle, count⟩ := idle_churn idle_start n
  rw [Nat.zero_add] at idle
  have message : acceptScan churnConfig (run churnConfig churnStart)
      ⟨⟨1, "camera_init"⟩, [.some ⟨5 / 2, 1 / 2, 1 / 2, 1⟩]⟩ = .some (pointScan 1 insideVoxel) := by
    decide +kernel
  have accepted := idle.acceptScan message
  have stepped : run churnConfig (roundHistory n) =
      processScan churnConfig (run churnConfig (churnStart ++ churn n))
        (pointScan 1 insideVoxel) := by
    rw [roundHistory, run_append churnConfig (churnStart ++ churn n)]
    exact step_cloud_of_some accepted
  have clock : (run churnConfig (churnStart ++ churn n)).lastCleanup = 2 := by
    rw [idle.clock, if_neg some]
  refine ⟨?_, ?_, ?_⟩
  · have counted : acceptedScan churnConfig (run churnConfig (churnStart ++ churn n))
        (cloudAt 1 [insideVoxel]) = [pointScan 1 insideVoxel] :=
      acceptedScan_cloud_of_some accepted
    have none : creations churnConfig churnStart = 0 := by decide +kernel
    rw [roundHistory, creations_concat, counted, List.map_singleton, List.sum_singleton, count,
      none, idle.created, Nat.zero_add]
  · have only : ∀ key, key ≠ voxelKey insideVoxel 1 →
        (run churnConfig (churnStart ++ churn n)).temporalVoxels.lookup key = none :=
      fun key _ => idle.voxels key
    have found := (processScan_late only clock).2 ⟨2, 0, 0⟩
    have here : (⟨2, 0, 0⟩ : VoxelKey) = voxelKey insideVoxel 1 := by decide +kernel
    rw [if_pos here, idle.entryFor] at found
    rw [stepped]
    exact ⟨_, found, OccupancyVoxelState.hit_generation _ _ _ _⟩
  · rw [stepped]
    exact idle.next_processScan 1 insideVoxel

/-- When the last generation has been handed out the counter is back at zero, so it is
not ahead of the live voxel. -/
theorem generation_not_lt_next :
    creations churnConfig (roundHistory (2 ^ 64 - 2)) < 2 ^ 64 ∧
      ∃ key generation,
        (run churnConfig (roundHistory (2 ^ 64 - 2))).Live key generation ∧
          ¬generation < (run churnConfig (roundHistory (2 ^ 64 - 2))).nextOccupancyGeneration := by
  obtain ⟨count, live, next⟩ := live_roundHistory (by decide : 2 ^ 64 - 2 ≠ 0)
  constructor
  · rw [count]
    decide
  · refine ⟨_, _, live, ?_⟩
    rw [next]
    decide

end ScoutStack
