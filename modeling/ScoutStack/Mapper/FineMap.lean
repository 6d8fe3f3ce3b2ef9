import ScoutStack.Mapper.Transition

/-!
# The fine map along a scan

Only the point loop writes to the fine map.  Each point replaces the entry at
its fine key: the entry is first claimed for the coarse voxel of the point and
then accumulates the point.
-/

namespace ScoutStack

variable {K : Type*} [Field K] [LinearOrder K] [FloorRing K]

/-- The generation under which the loop body stores a point. -/
def pointGeneration (cfg : Config K) (mapper : PointcloudMapper K) (point : Point K) : UInt64 :=
  if cfg.dynamicFilterEnable then (mapper.entryFor (coarseKey cfg point)).generation else 1

/-- Whether the loop body files a point under the static points. -/
def pointIsStatic (cfg : Config K) (mapper : PointcloudMapper K) (stamp : Time)
    (point : Point K) : Bool :=
  !cfg.dynamicFilterEnable ||
    isStatic cfg ((mapper.entryFor (coarseKey cfg point)).hit cfg mapper.scanSequence stamp)

/-- The two clouds that a point is filed under. -/
theorem processPoint_scans (cfg : Config K) (stamp : Time) (loop : PointLoop K)
    (point : Point K) :
    (processPoint cfg stamp loop point).staticScan =
        (if pointIsStatic cfg loop.mapper stamp point then loop.staticScan ++ [point]
          else loop.staticScan) ∧
      (processPoint cfg stamp loop point).dynamicScan =
        (if !pointIsStatic cfg loop.mapper stamp point && cfg.publishDynamic then
          loop.dynamicScan ++ [point] else loop.dynamicScan) := by
  cases enabled : cfg.dynamicFilterEnable with
  | true =>
      have stored := PointcloudMapper.lookup_updateHit cfg loop.mapper (coarseKey cfg point)
        (coarseKey cfg point) stamp
      rw [if_pos rfl] at stored
      simp [processPoint, pointIsStatic, enabled, stored]
  | false => simp [processPoint, pointIsStatic, enabled]

/-- The fine entry that a point leaves behind, given the entry it finds. -/
def storePoint (cfg : Config K) (generation : UInt64) (point : Point K)
    (entry : Option (MapVoxelState K)) : MapVoxelState K :=
  ((entry.getD {}).claim (coarseKey cfg point) generation).add point

/-- A point starts a new entry, or it is added to one of the same generation. -/
theorem storePoint_cases (cfg : Config K) (generation : UInt64) (point : Point K)
    (entry : Option (MapVoxelState K)) :
    storePoint cfg generation point entry =
        MapVoxelState.add
          { occupancyKey := coarseKey cfg point, occupancyGeneration := generation } point ∨
      ∃ old, entry = some old ∧ old.sampleCount ≠ 0 ∧ old.occupancyGeneration = generation ∧
        storePoint cfg generation point entry = old.add point := by
  unfold storePoint MapVoxelState.claim
  split
  next => exact .inl rfl
  next kept =>
    rw [not_or, not_not] at kept
    cases entry with
    | none => exact absurd rfl kept.1
    | some old => exact .inr ⟨old, rfl, kept.1, kept.2, rfl⟩

theorem storePoint_generation (cfg : Config K) (generation : UInt64) (point : Point K)
    (entry : Option (MapVoxelState K)) :
    (storePoint cfg generation point entry).occupancyGeneration = generation := by
  rcases storePoint_cases cfg generation point entry with started | ⟨old, _, _, same, added⟩
  · rw [started]
    rfl
  · rw [added]
    exact same

/-- One point replaces the entry at its fine key. -/
theorem processPoint_mapVoxels (cfg : Config K) (stamp : Time) (loop : PointLoop K)
    (point : Point K) :
    (processPoint cfg stamp loop point).mapper.mapVoxels =
      loop.mapper.mapVoxels.insert (fineKey cfg point)
        (storePoint cfg (pointGeneration cfg loop.mapper point) point
          (loop.mapper.mapVoxels.lookup (fineKey cfg point))) := by
  cases enabled : cfg.dynamicFilterEnable with
  | true =>
      rw [processPoint_mapper enabled, PointcloudMapper.updateHit_eq]
      simp [PointcloudMapper.addToMap, pointGeneration, storePoint, enabled]
  | false =>
      obtain ⟨occupancy, same⟩ := processPoint_mapper_disabled enabled stamp loop point
      rw [same]
      simp [PointcloudMapper.addToMap, pointGeneration, storePoint, enabled]

theorem lookup_mapVoxels_processPoint (cfg : Config K) (stamp : Time) (loop : PointLoop K)
    (point : Point K) (key : VoxelKey) :
    (processPoint cfg stamp loop point).mapper.mapVoxels.lookup key =
      if key = fineKey cfg point then
        some (storePoint cfg (pointGeneration cfg loop.mapper point) point
          (loop.mapper.mapVoxels.lookup key))
      else loop.mapper.mapVoxels.lookup key := by
  rw [processPoint_mapVoxels]
  by_cases same : key = fineKey cfg point
  · subst same
    rw [if_pos rfl]
    exact AList.lookup_insert _
  · rw [if_neg same]
    exact AList.lookup_insert_ne same

/-- The point loop adds the fine keys of its points and loses none. -/
theorem mem_mapVoxels_foldl_processPoint (cfg : Config K) (stamp : Time) (points : Cloud K)
    (loop : PointLoop K) (key : VoxelKey) :
    key ∈ (points.foldl (processPoint cfg stamp) loop).mapper.mapVoxels ↔
      key ∈ loop.mapper.mapVoxels ∨ key ∈ points.map (fineKey cfg) := by
  induction points generalizing loop with
  | nil => simp
  | cons point points ih =>
      rw [List.foldl_cons, ih, processPoint_mapVoxels, AList.mem_insert, List.map_cons,
        List.mem_cons]
      constructor
      · rintro ((now | old) | later)
        · exact .inr (.inl now)
        · exact .inl old
        · exact .inr (.inr later)
      · rintro (old | now | later)
        · exact .inl (.inr old)
        · exact .inl (.inl now)
        · exact .inr later

/-- Rays and the sweep leave the fine map alone. -/
theorem processScan_mapVoxels (cfg : Config K) (mapper : PointcloudMapper K) (scan : Scan K) :
    (processScan cfg mapper scan).mapVoxels = (processPoints cfg mapper scan).mapper.mapVoxels := by
  obtain ⟨voxels, cleared, dirty, misses⟩ := PointcloudMapper.updateMisses_frame cfg
    scan.header.stamp (missedKeys cfg scan) (processPoints cfg mapper scan).mapper
  have absorbed : (absorbScan cfg mapper scan).mapVoxels =
      (processPoints cfg mapper scan).mapper.mapVoxels := by
    rw [absorbScan, updateFreeSpace_eq, misses]
  obtain ⟨_, _, frame⟩ := maybeCleanup_frame cfg (absorbScan cfg mapper scan) scan.header.stamp
  rw [processScan, frame]
  exact absorbed

end ScoutStack
