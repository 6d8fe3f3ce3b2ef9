import ScoutStack.Mapper.FineMap
import ScoutStack.Mapper.Rational

/-!
# Configured capacities

`max_voxels_` and `max_map_voxels_` are thresholds, not bounds.  Above the first
one the sweep runs at once, and an expired voxel does not survive it; above the
second one nothing happens but an error line, and no point is refused.
-/

namespace ScoutStack

variable {K : Type*} [Field K] [LinearOrder K] [FloorRing K]

/-- A scan creates coarse voxels only at the keys of its points. -/
theorem mem_temporalVoxels_of_processScan {cfg : Config K} {mapper : PointcloudMapper K}
    {scan : Scan K} {key : VoxelKey}
    (present : key ∈ (processScan cfg mapper scan).temporalVoxels) :
    key ∈ mapper.temporalVoxels ∨ key ∈ scan.filtered.map (coarseKey cfg) := by
  by_cases isHit : key ∈ scan.filtered.map (coarseKey cfg)
  · exact .inr isHit
  · apply Or.inl
    have points : (processPoints cfg mapper scan).mapper.temporalVoxels.lookup key =
        mapper.temporalVoxels.lookup key :=
      lookup_foldl_processPoint_of_notMem scan.header.stamp scan.filtered
        ⟨{ mapper with scanSequence := mapper.scanSequence + 1 }, [], []⟩ isHit
    have rays : (absorbScan cfg mapper scan).temporalVoxels.lookup key =
        (PointcloudMapper.updateMisses cfg scan.header.stamp (processPoints cfg mapper scan).mapper
          (missedKeys cfg scan)).temporalVoxels.lookup key := by
      rw [absorbScan, updateFreeSpace_eq]
    rw [PointcloudMapper.lookup_updateMisses, points] at rays
    by_contra absent
    have none : mapper.temporalVoxels.lookup key = none := AList.lookup_eq_none.mpr absent
    rw [none, Option.bind_none, ite_self] at rays
    have gone : (processScan cfg mapper scan).temporalVoxels.lookup key = Option.none := by
      rw [processScan, lookup_maybeCleanup, rays]
      rfl
    exact AList.lookup_eq_none.mp gone present

/-- What may be left of a coarse table that is over its threshold after a sweep. -/
def Retained (cfg : Config K) (now : Time) (state : OccupancyVoxelState K) : Prop :=
  isStatic cfg state = true ∨ state.lastSeen = 0 ∨
    toSec now state.lastSeen ≤ cfg.candidateTimeout

omit [FloorRing K] in
/-- Above the threshold, `maybeCleanup` has swept. -/
theorem retained_of_maxVoxels_lt {cfg : Config K} {mapper : PointcloudMapper K} {now : Time}
    (exceeds : cfg.maxVoxels < (mapper.maybeCleanup cfg now).temporalVoxels.size) :
    (mapper.maybeCleanup cfg now).lastCleanup = now ∧
      ∀ key state, (mapper.maybeCleanup cfg now).temporalVoxels.lookup key = some state →
        Retained cfg now state := by
  have due : mapper.cleanupDue cfg now = true := by
    by_contra idle
    rw [PointcloudMapper.maybeCleanup, if_neg idle] at exceeds
    apply idle
    have large : ¬mapper.temporalVoxels.size ≤ cfg.maxVoxels := Nat.not_le.mpr exceeds
    simp [PointcloudMapper.cleanupDue, large]
  constructor
  · rw [PointcloudMapper.maybeCleanup, if_pos due]
  · intro key state found
    rw [lookup_maybeCleanup, Option.filter_eq_some_iff, due, Bool.true_and] at found
    have live := found.2
    simp only [OccupancyVoxelState.expired, Time.isZero, Bool.not_and, Bool.not_not,
      Bool.or_eq_true, Bool.not_eq_true', decide_eq_false_iff_not, not_lt, gt_iff_lt,
      beq_iff_eq, or_assoc] at live
    exact live

/-- After an accepted cloud, a coarse table above `max_voxels_` has just been
swept, so every entry is static or was seen within the timeout; it has grown by
at most the new coarse keys of the cloud.  The fine map keeps every entry and
takes every fine key of the cloud, whatever `max_map_voxels_` is. -/
theorem sizes_of_acceptScan {cfg : Config K} {callbacks : List (Callback K)}
    {msg : PointCloud2 K} {scan : Scan K}
    (accepted : acceptScan cfg (run cfg callbacks) msg = some scan) :
    (cfg.maxVoxels < (run cfg (callbacks ++ [.cloud msg])).temporalVoxels.size →
      (run cfg (callbacks ++ [.cloud msg])).lastCleanup = scan.header.stamp ∧
        ∀ key state,
          (run cfg (callbacks ++ [.cloud msg])).temporalVoxels.lookup key = some state →
            Retained cfg scan.header.stamp state) ∧
    (run cfg (callbacks ++ [.cloud msg])).temporalVoxels.size ≤
      (run cfg callbacks).temporalVoxels.size +
        ((run cfg callbacks).temporalVoxels.newKeys (scan.filtered.map (coarseKey cfg))).card ∧
    (∀ key, key ∈ (run cfg (callbacks ++ [.cloud msg])).mapVoxels ↔
      key ∈ (run cfg callbacks).mapVoxels ∨ key ∈ scan.filtered.map (fineKey cfg)) ∧
    (run cfg (callbacks ++ [.cloud msg])).mapVoxels.size =
      (run cfg callbacks).mapVoxels.size +
        ((run cfg callbacks).mapVoxels.newKeys (scan.filtered.map (fineKey cfg))).card := by
  rw [run_append, runFrom_cons, runFrom_nil, step_cloud_of_some accepted]
  have fineKeys : ∀ key, key ∈ (processScan cfg (run cfg callbacks) scan).mapVoxels ↔
      key ∈ (run cfg callbacks).mapVoxels ∨ key ∈ scan.filtered.map (fineKey cfg) := by
    intro key
    rw [processScan_mapVoxels]
    exact mem_mapVoxels_foldl_processPoint cfg scan.header.stamp scan.filtered _ key
  refine ⟨?_, ?_, fineKeys, Table.size_eq_add_newKeys fineKeys⟩
  · intro exceeds
    exact retained_of_maxVoxels_lt exceeds
  · exact Table.size_le_add_newKeys fun key present => mem_temporalVoxels_of_processScan present

/-- One cloud with points in two voxels. -/
def twoVoxelCloud : PointCloud2 ℚ :=
  ⟨⟨1, "camera_init"⟩, [some ⟨5 / 2, 1 / 2, 1 / 2, 1⟩, some ⟨0, 9 / 2, 1 / 2, 1⟩]⟩

theorem sizes_of_acceptScan_narrow :
    (run narrowConfig ([odometryAt 1 ⟨0, 1 / 2, 1 / 2⟩] ++ [.cloud twoVoxelCloud])).mapVoxels.size =
      0 + 2 := by
  have accepted : acceptScan narrowConfig
      (run narrowConfig [odometryAt 1 ⟨0, 1 / 2, 1 / 2⟩]) twoVoxelCloud =
        some ⟨⟨1, "camera_init"⟩, ⟨0, 1 / 2, 1 / 2⟩,
          [⟨5 / 2, 1 / 2, 1 / 2, 1⟩, ⟨0, 9 / 2, 1 / 2, 1⟩]⟩ := by decide +kernel
  rw [(sizes_of_acceptScan accepted).2.2.2]
  decide +kernel

/-- One accepted cloud takes both tables over their configured sizes. -/
theorem capacities_lt_sizes :
    narrowConfig.maxVoxels <
        (run narrowConfig [odometryAt 1 ⟨0, 1 / 2, 1 / 2⟩,
          .cloud twoVoxelCloud]).temporalVoxels.size ∧
      narrowConfig.maxMapVoxels <
        (run narrowConfig [odometryAt 1 ⟨0, 1 / 2, 1 / 2⟩,
          .cloud twoVoxelCloud]).mapVoxels.size := by
  decide +kernel

end ScoutStack
