import ScoutStack.Mapper.Confirmed
import ScoutStack.Mapper.FineMap

/-!
# The verdict on a point

`cloudCallback` files a point as static or dynamic right after its own hit, with
the rest of the scan still to come.  Nothing that follows changes the verdict: a
further hit of the same scan is idempotent, rays spare the voxels that the scan
occupies, and a sweep erases no static voxel.
-/

namespace ScoutStack

variable {K : Type*} [Field K] [LinearOrder K]

/-- Whether a voxel is static does not depend on its markers and its generation. -/
theorem isStatic_congr (cfg : Config K) {left right : OccupancyVoxelState K}
    (sameCount : left.hitScans = right.hitScans) (sameOdds : left.logOdds = right.logOdds)
    (sameFirst : left.firstHit = right.firstHit) (sameLast : left.lastHit = right.lastHit) :
    isStatic cfg left = isStatic cfg right := by
  simp only [isStatic, sameCount, sameOdds, sameFirst, sameLast]

/-- The first hit of a new voxel gives the same verdict in every generation. -/
theorem isStatic_hit_fresh (cfg : Config K) (scan : UInt64) (stamp : Time)
    (left right : UInt64) :
    isStatic cfg (OccupancyVoxelState.hit cfg scan stamp { generation := left }) =
      isStatic cfg (OccupancyVoxelState.hit cfg scan stamp { generation := right }) := by
  unfold OccupancyVoxelState.hit
  split
  next => exact isStatic_congr cfg rfl rfl rfl rfl
  next => exact isStatic_congr cfg rfl rfl rfl rfl

namespace PointcloudMapper

/-- What a hit of the current scan makes of the voxel at the key. -/
def verdict (cfg : Config K) (mapper : PointcloudMapper K) (stamp : Time) (key : VoxelKey) :
    Bool :=
  isStatic cfg ((mapper.entryFor key).hit cfg mapper.scanSequence stamp)

/-- The generation that a missing entry would get does not matter. -/
theorem verdict_eq (cfg : Config K) (mapper : PointcloudMapper K) (stamp : Time)
    (key : VoxelKey) (generation : UInt64) :
    mapper.verdict cfg stamp key =
      isStatic cfg (((mapper.temporalVoxels.lookup key).getD { generation := generation }).hit
        cfg mapper.scanSequence stamp) := by
  unfold verdict entryFor
  cases mapper.temporalVoxels.lookup key with
  | none => exact isStatic_hit_fresh cfg _ stamp _ _
  | some state => rfl

/-- A hit changes no verdict of its scan. -/
theorem verdict_updateHit (cfg : Config K) (mapper : PointcloudMapper K) (stamp : Time)
    (key other : VoxelKey) :
    (mapper.updateHit cfg key stamp).verdict cfg stamp other =
      mapper.verdict cfg stamp other := by
  have sequence : (mapper.updateHit cfg key stamp).scanSequence = mapper.scanSequence := by
    simp [updateHit_eq]
  rw [verdict_eq cfg (mapper.updateHit cfg key stamp) stamp other 0, lookup_updateHit, sequence]
  split
  next same => simp [same, verdict]
  next => exact (verdict_eq cfg mapper stamp other 0).symm

/-- A sweep erases no static voxel and makes none. -/
theorem staticAt_maybeCleanup (cfg : Config K) (mapper : PointcloudMapper K) (now : Time)
    (key : VoxelKey) :
    (mapper.maybeCleanup cfg now).staticAt cfg key = mapper.staticAt cfg key := by
  rw [staticAt, staticAt, lookup_maybeCleanup]
  cases mapper.temporalVoxels.lookup key with
  | none => rfl
  | some state =>
      cases static : isStatic cfg state with
      | true => simp [Option.filter_some, expired_of_isStatic static, static]
      | false =>
          simp only [Option.filter_some]
          split
          next => rfl
          next => simp [static]

end PointcloudMapper

variable [FloorRing K]

/-! ## The point loop -/

section Loop

variable {cfg : Config K} (enabled : cfg.dynamicFilterEnable = true) (stamp : Time)
include enabled

theorem pointIsStatic_eq (mapper : PointcloudMapper K) (point : Point K) :
    pointIsStatic cfg mapper stamp point = mapper.verdict cfg stamp (coarseKey cfg point) := by
  simp [pointIsStatic, PointcloudMapper.verdict, enabled]

/-- A point changes no verdict of its scan. -/
theorem verdict_processPoint (loop : PointLoop K) (point : Point K) (key : VoxelKey) :
    (processPoint cfg stamp loop point).mapper.verdict cfg stamp key =
      loop.mapper.verdict cfg stamp key := by
  rw [processPoint_mapper enabled]
  exact PointcloudMapper.verdict_updateHit cfg loop.mapper stamp (coarseKey cfg point) key

/-- The loop files every point by the verdict that its voxel had at the start. -/
theorem foldl_processPoint_scans (points : Cloud K) (loop : PointLoop K) :
    (points.foldl (processPoint cfg stamp) loop).staticScan =
        loop.staticScan ++
          points.filter (fun point => loop.mapper.verdict cfg stamp (coarseKey cfg point)) ∧
      (points.foldl (processPoint cfg stamp) loop).dynamicScan =
        loop.dynamicScan ++
          points.filter (fun point =>
            !loop.mapper.verdict cfg stamp (coarseKey cfg point) && cfg.publishDynamic) := by
  induction points generalizing loop with
  | nil => simp
  | cons point points ih =>
      obtain ⟨filedStatic, filedDynamic⟩ := processPoint_scans cfg stamp loop point
      obtain ⟨restStatic, restDynamic⟩ := ih (processPoint cfg stamp loop point)
      simp only [verdict_processPoint enabled] at restStatic restDynamic
      rw [pointIsStatic_eq enabled] at filedStatic filedDynamic
      rw [List.foldl_cons, restStatic, restDynamic, filedStatic, filedDynamic]
      constructor
      · cases static : loop.mapper.verdict cfg stamp (coarseKey cfg point) with
        | true => simp [static]
        | false => simp [static]
      · cases dynamic : !loop.mapper.verdict cfg stamp (coarseKey cfg point) &&
            cfg.publishDynamic with
        | true => simp [dynamic]
        | false => simp [dynamic]

end Loop

/-! ## The rest of the scan -/

section Scan

variable {cfg : Config K} (enabled : cfg.dynamicFilterEnable = true)
  (mapper : PointcloudMapper K) (scan : Scan K)
include enabled

/-- The verdict on an occupied voxel, once `scan_sequence_` is advanced, is still right
when the scan is over. -/
theorem verdict_eq_staticAt {key : VoxelKey} (occupied : key ∈ occupiedThisScan cfg scan) :
    ({ mapper with scanSequence := mapper.scanSequence + 1 } : PointcloudMapper K).verdict cfg
        scan.header.stamp key =
      (processScan cfg mapper scan).staticAt cfg key := by
  obtain ⟨generation, absorbed⟩ := lookup_absorbScan enabled mapper scan key
  rw [evidence_eq_hit_iff.mpr occupied] at absorbed
  rw [processScan, PointcloudMapper.staticAt_maybeCleanup, PointcloudMapper.staticAt, absorbed]
  exact PointcloudMapper.verdict_eq cfg _ scan.header.stamp key generation

theorem processPoints_scans :
    (processPoints cfg mapper scan).staticScan =
        scan.filtered.filter (fun point =>
          (processScan cfg mapper scan).staticAt cfg (coarseKey cfg point)) ∧
      (processPoints cfg mapper scan).dynamicScan =
        scan.filtered.filter (fun point =>
          !(processScan cfg mapper scan).staticAt cfg (coarseKey cfg point) &&
            cfg.publishDynamic) := by
  obtain ⟨filedStatic, filedDynamic⟩ := foldl_processPoint_scans enabled scan.header.stamp
    scan.filtered ⟨{ mapper with scanSequence := mapper.scanSequence + 1 }, [], []⟩
  have settled : ∀ point ∈ scan.filtered,
      ({ mapper with scanSequence := mapper.scanSequence + 1 } : PointcloudMapper K).verdict cfg
          scan.header.stamp (coarseKey cfg point) =
        (processScan cfg mapper scan).staticAt cfg (coarseKey cfg point) := by
    intro point member
    apply verdict_eq_staticAt enabled
    exact List.mem_toFinset.mpr (List.mem_map_of_mem member)
  rw [processPoints, filedStatic, filedDynamic, List.nil_append, List.nil_append]
  constructor
  · apply List.filter_congr
    intro point member
    rw [settled point member]
  · apply List.filter_congr
    intro point member
    rw [settled point member]

/-- The order of the filtered points only shows in the order within the two clouds. -/
theorem processPoints_perm {points : Cloud K} (permuted : points.Perm scan.filtered) :
    (processPoints cfg mapper { scan with filtered := points }).staticScan.Perm
        (processPoints cfg mapper scan).staticScan ∧
      (processPoints cfg mapper { scan with filtered := points }).dynamicScan.Perm
        (processPoints cfg mapper scan).dynamicScan := by
  obtain ⟨left, left'⟩ := foldl_processPoint_scans enabled scan.header.stamp points
    ⟨{ mapper with scanSequence := mapper.scanSequence + 1 }, [], []⟩
  obtain ⟨right, right'⟩ := foldl_processPoint_scans enabled scan.header.stamp scan.filtered
    ⟨{ mapper with scanSequence := mapper.scanSequence + 1 }, [], []⟩
  rw [processPoints, processPoints, left, left', right, right']
  exact ⟨(permuted.filter _).append_left _, (permuted.filter _).append_left _⟩

end Scan

/-- In the state right after an accepted cloud, a filtered point is among the static
points exactly when its coarse voxel is live and static, and otherwise, if dynamic
points are published, among those.  The two clouds keep the order of the filtered
one, never separate points of one coarse voxel and do not depend on the order of
the points except for their own. -/
theorem scans_agree_with_map {cfg : Config K} (enabled : cfg.dynamicFilterEnable = true)
    {callbacks : List (Callback K)} {msg : PointCloud2 K} {scan : Scan K}
    (accepted : acceptScan cfg (run cfg callbacks) msg = some scan) :
    ∃ staticScan dynamicScan,
      (react cfg (run cfg callbacks) (.cloud msg)).2 =
        .staticScan scan.header staticScan ::
          (if cfg.publishDynamic then [.dynamicScan scan.header dynamicScan] else []) ∧
      (∀ point ∈ scan.filtered, (point ∈ staticScan ↔
        ∃ state, (run cfg (callbacks ++ [.cloud msg])).temporalVoxels.lookup
          (coarseKey cfg point) = some state ∧ isStatic cfg state = true)) ∧
      (cfg.publishDynamic = true → ∀ point ∈ scan.filtered,
        (point ∈ dynamicScan ↔ point ∉ staticScan)) ∧
      (∃ filed : Point K → Bool, staticScan = scan.filtered.filter filed ∧
        (cfg.publishDynamic = true →
          dynamicScan = scan.filtered.filter fun point => !filed point)) ∧
      (∀ left ∈ scan.filtered, ∀ right ∈ scan.filtered,
        coarseKey cfg left = coarseKey cfg right →
          ((left ∈ staticScan ↔ right ∈ staticScan) ∧
            (left ∈ dynamicScan ↔ right ∈ dynamicScan))) ∧
      ∀ points, points.Perm scan.filtered →
        (processPoints cfg (run cfg callbacks) { scan with filtered := points }).staticScan.Perm
            staticScan ∧
          (processPoints cfg (run cfg callbacks)
            { scan with filtered := points }).dynamicScan.Perm dynamicScan := by
  have after : run cfg (callbacks ++ [.cloud msg]) = processScan cfg (run cfg callbacks) scan := by
    rw [run_append, runFrom_cons, runFrom_nil, step_cloud_of_some accepted]
  obtain ⟨filedStatic, filedDynamic⟩ := processPoints_scans enabled (run cfg callbacks) scan
  refine ⟨(processPoints cfg (run cfg callbacks) scan).staticScan,
    (processPoints cfg (run cfg callbacks) scan).dynamicScan, ?_, ?_, ?_, ?_, ?_, ?_⟩
  · simp [react, PointcloudMapper.cloudCallback, accepted]
  · intro point member
    simp [after, filedStatic, member, PointcloudMapper.staticAt_iff]
  · intro published point member
    simp [filedStatic, filedDynamic, member, published]
  · refine ⟨fun point => (processScan cfg (run cfg callbacks) scan).staticAt cfg
      (coarseKey cfg point), filedStatic, ?_⟩
    intro published
    simp [filedDynamic, published]
  · intro left leftMember right rightMember sameKey
    simp [filedStatic, filedDynamic, leftMember, rightMember, sameKey]
  · intro points permuted
    exact processPoints_perm enabled (run cfg callbacks) scan permuted

/-- A cloud that meets a confirmed voxel and a new one. -/
def mixedScan : Scan ℚ :=
  ⟨⟨1, "camera_init"⟩, ⟨0, 1 / 2, 1 / 2⟩, [⟨5 / 2, 1 / 2, 1 / 2, 1⟩, ⟨0, 9 / 2, 1 / 2, 1⟩]⟩

theorem scans_agree_with_map_mixed : ∃ staticScan,
    (react unitConfig (run unitConfig confirmedHistory)
        (cloudAt 1 [insideVoxel, elsewhere])).2 = [.staticScan mixedScan.header staticScan] ∧
      (⟨5 / 2, 1 / 2, 1 / 2, 1⟩ : Point ℚ) ∈ staticScan := by
  have accepted : acceptScan unitConfig (run unitConfig confirmedHistory)
      ⟨⟨1, "camera_init"⟩, [some ⟨5 / 2, 1 / 2, 1 / 2, 1⟩, some ⟨0, 9 / 2, 1 / 2, 1⟩]⟩ =
        some mixedScan := by decide +kernel
  obtain ⟨staticScan, _, outputs, static, _⟩ := scans_agree_with_map rfl accepted
  refine ⟨staticScan, outputs, (static _ (by decide +kernel)).mpr ?_⟩
  exact ⟨⟨3, 3, 0, 3, unmarked, 1, 1, 1, 1⟩, by decide +kernel, by decide +kernel⟩

end ScoutStack
