import ScoutStack.Lib.Cells
import ScoutStack.Mapper.Automaton
import ScoutStack.Mapper.Rational

/-!
# Geometry of the free-space pass

`updateFreeSpace` samples every traced ray at multiples of the coarse voxel size, up
to the clearing range and a margin before the endpoint.  The voxels it misses are
those that contain a sample and no point of the scan, where `int` counts the samples.  A voxel that the free part
of a ray crosses over more than one voxel size cannot slip between two samples.
-/

namespace ScoutStack

variable {K : Type*} [Field K] [LinearOrder K]

/-! ## Sampled rays -/

/-- `clear_until`. -/
def clearUntil (cfg : Config K) (sensor : Vector3 K) (endpoint : Point K) : K :=
  min cfg.maxClearingRange (cfg.norm (endpoint.position - sensor) - cfg.rayEndpointMargin)

/-- The point of a ray at the given distance from the sensor. -/
def rayPoint (cfg : Config K) (sensor : Vector3 K) (endpoint : Point K) (distance : K) :
    Vector3 K :=
  sensor + ((endpoint.position - sensor).divide
    (cfg.norm (endpoint.position - sensor))).scale distance

/-- The ray to a point is sampled: its index is a multiple of the stride, it is longer
than the margin, and its free part is longer than a voxel. -/
structure Traced (cfg : Config K) (scan : Scan K) (endpoint : Point K) : Prop where
  index : ∃ index, scan.filtered[index]? = some endpoint ∧ index % cfg.rayStride = 0
  beyondMargin : cfg.rayEndpointMargin < cfg.norm (endpoint.position - scan.position)
  beyondVoxel : cfg.temporalVoxelSize < clearUntil cfg scan.position endpoint

/-- The norm of a vector is exact, as the one of `Eigen` over the reals. -/
structure Config.ExactNorm (cfg : Config K) (vector : Vector3 K) : Prop where
  nonneg : 0 ≤ cfg.norm vector
  square : cfg.norm vector * cfg.norm vector = vector.squaredNorm

/-- The indices of a voxel lie strictly inside `int64_t`. -/
structure VoxelKey.InsideInt64 (key : VoxelKey) : Prop where
  x : -2 ^ 63 < key.x ∧ key.x < 2 ^ 63 - 1
  y : -2 ^ 63 < key.y ∧ key.y < 2 ^ 63 - 1
  z : -2 ^ 63 < key.z ∧ key.z < 2 ^ 63 - 1

theorem VoxelKey.InsideInt64.ne_noPreviousKey {key : VoxelKey} (inside : key.InsideInt64) :
    key ≠ noPreviousKey := by
  rintro rfl
  exact lt_irrefl _ inside.x.1

/-- A loop with a stride visits the items whose index is a multiple of it. -/
theorem mem_strided {α : Type*} {stride : ℕ} {items : List α} {item : α} :
    item ∈ strided stride items ↔
      ∃ index, items[index]? = some item ∧ index % stride = 0 := by
  simp only [strided, List.mem_filterMap, Prod.exists, List.mk_mem_zipIdx_iff_getElem?,
    Option.ite_none_right_eq_some, Option.some.injEq]
  constructor
  · rintro ⟨_, index, found, divides, rfl⟩
    exact ⟨index, found, divides⟩
  · rintro ⟨index, found, divides⟩
    exact ⟨item, index, found, divides, rfl⟩

variable [FloorRing K]

/-- The voxel contains sample number `n` of some traced ray. -/
def FreeSample (cfg : Config K) (scan : Scan K) (key : VoxelKey) : Prop :=
  ∃ endpoint, Traced cfg scan endpoint ∧ ∃ n : ℕ, 1 ≤ n ∧
    (n : ℤ) ≤ ⌊clearUntil cfg scan.position endpoint / cfg.temporalVoxelSize⌋ ∧
    voxelKey (rayPoint cfg scan.position endpoint (n * cfg.temporalVoxelSize))
      cfg.temporalVoxelSize = key

/-- The loop over the samples of a ray, with an `int` as its counter, comes to an end. -/
def CountsSamples (cfg : Config K) (sensor : Vector3 K) (endpoint : Point K) : Prop :=
  ⌊clearUntil cfg sensor endpoint / cfg.temporalVoxelSize⌋ < 2 ^ 31 - 1

/-- Only rays that are long enough have keys. -/
theorem beyond_of_mem_rayKeys {cfg : Config K} {sensor : Vector3 K} {endpoint : Point K}
    {key : VoxelKey} (member : key ∈ rayKeys cfg sensor endpoint) :
    cfg.rayEndpointMargin < cfg.norm (endpoint.position - sensor) ∧
      cfg.temporalVoxelSize < clearUntil cfg sensor endpoint := by
  unfold rayKeys at member
  dsimp only at member
  split at member
  next => contradiction
  next long =>
    split at member
    next => contradiction
    next wide => exact ⟨not_le.mp long, not_le.mp wide⟩

section Samples

variable [IsStrictOrderedRing K]

/-- The keys of a ray that the two `continue`s do not skip. -/
theorem mem_rayKeys {cfg : Config K} {sensor : Vector3 K} {endpoint : Point K}
    {key : VoxelKey} (counts : cfg.temporalVoxelSize < clearUntil cfg sensor endpoint →
      CountsSamples cfg sensor endpoint) :
    key ∈ rayKeys cfg sensor endpoint ↔
      cfg.rayEndpointMargin < cfg.norm (endpoint.position - sensor) ∧
        cfg.temporalVoxelSize < clearUntil cfg sensor endpoint ∧
        ∃ n : ℕ, 1 ≤ n ∧ (n : ℤ) ≤ ⌊clearUntil cfg sensor endpoint / cfg.temporalVoxelSize⌋ ∧
          voxelKey (rayPoint cfg sensor endpoint (n * cfg.temporalVoxelSize))
            cfg.temporalVoxelSize = key := by
  unfold rayKeys
  dsimp only
  split
  next short => simp [not_lt.mpr short]
  next long =>
    split
    next narrow =>
      have none : ¬cfg.temporalVoxelSize < clearUntil cfg sensor endpoint := not_lt.mpr narrow
      simp [none]
    next wide =>
      have room : cfg.temporalVoxelSize < clearUntil cfg sensor endpoint := not_le.mp wide
      have positive : 0 ≤ ⌊clearUntil cfg sensor endpoint / cfg.temporalVoxelSize⌋ :=
        Int.floor_nonneg.mpr
          (div_nonneg (cfg.temporalVoxelSize_pos.trans room).le cfg.temporalVoxelSize_pos.le)
      have bound := counts room
      have cast : cfg.castInt ⌊clearUntil cfg sensor endpoint / cfg.temporalVoxelSize⌋ =
          ⌊clearUntil cfg sensor endpoint / cfg.temporalVoxelSize⌋ := by
        rw [Config.castInt, if_pos]
        unfold CountsSamples at bound
        omega
      simp only [List.mem_map, List.mem_range'_1, not_le.mp long, room, true_and]
      apply exists_congr
      intro n
      rw [and_assoc]
      apply and_congr_right
      intro first
      apply and_congr_left'
      change n < 1 + (cfg.castInt
        ⌊clearUntil cfg sensor endpoint / cfg.temporalVoxelSize⌋).toNat ↔ _
      rw [cast]
      omega

/-- Away from the start value of `previous_key`, exactly the sampled voxels without a
point are missed. -/
theorem mem_missedKeys_iff {cfg : Config K} (enabled : cfg.dynamicFilterEnable = true)
    {scan : Scan K} {key : VoxelKey}
    (counts : ∀ endpoint, Traced cfg scan endpoint → CountsSamples cfg scan.position endpoint)
    (inside : FreeSample cfg scan key → key.InsideInt64) :
    key ∈ missedKeys cfg scan ↔ FreeSample cfg scan key ∧ key ∉ occupiedThisScan cfg scan := by
  have sampled : FreeSample cfg scan key ↔
      ∃ endpoint ∈ tracedRays cfg scan, key ∈ rayKeys cfg scan.position endpoint := by
    apply exists_congr
    intro endpoint
    rw [tracedRays, mem_strided]
    constructor
    · rintro ⟨traced, sample⟩
      refine ⟨traced.index, (mem_rayKeys fun _ => counts endpoint traced).mpr ?_⟩
      exact ⟨traced.beyondMargin, traced.beyondVoxel, sample⟩
    · rintro ⟨index, member⟩
      have beyond := beyond_of_mem_rayKeys member
      have traced : Traced cfg scan endpoint := ⟨index, beyond.1, beyond.2⟩
      exact ⟨traced, ((mem_rayKeys fun _ => counts endpoint traced).mp member).2.2⟩
  unfold missedKeys
  split
  next idle =>
    have noPoints : scan.filtered = [] := by simpa [enabled] using idle
    simp [sampled, tracedRays, strided, noPoints]
  next =>
    rw [List.mem_flatMap]
    constructor
    · rintro ⟨endpoint, ray, member⟩
      obtain ⟨onRay, free⟩ := PointcloudMapper.mem_missedAlong member
      exact ⟨sampled.mpr ⟨endpoint, ray, onRay⟩, free⟩
    · rintro ⟨sample, free⟩
      obtain ⟨endpoint, ray, onRay⟩ := sampled.mp sample
      refine ⟨endpoint, ray, ?_⟩
      rw [PointcloudMapper.mem_missedAlong_iff (inside sample).ne_noPreviousKey]
      exact ⟨onRay, free⟩

end Samples

/-! ## Misses -/

/-- One miss of an entry that the scan has not missed yet. -/
def OccupancyVoxelState.missOnce (cfg : Config K) (scan : UInt64) (stamp : Time)
    (state : OccupancyVoxelState K) : Option (OccupancyVoxelState K) :=
  if (state.lower cfg scan stamp).logOdds ≤ cfg.clearingLogOdds then none
  else some (state.lower cfg scan stamp)

omit [FloorRing K] in
theorem OccupancyVoxelState.miss_of_unmarked (cfg : Config K) {scan : UInt64} (stamp : Time)
    {state : OccupancyVoxelState K} (unmarkedMiss : state.lastMissScan ≠ scan) :
    state.miss cfg scan stamp = state.missOnce cfg scan stamp := by
  simp [miss, missOnce, unmarkedMiss]

/-- The mapper when `cloudCallback` calls `updateFreeSpace`. -/
def beforeRays (cfg : Config K) (mapper : PointcloudMapper K) (scan : Scan K) :
    PointcloudMapper K :=
  (processPoints cfg mapper scan).mapper

/-- The mapper after that call. -/
def afterRays (cfg : Config K) (mapper : PointcloudMapper K) (scan : Scan K) :
    PointcloudMapper K :=
  (beforeRays cfg mapper scan).updateFreeSpace cfg scan.position scan.filtered
    (occupiedThisScan cfg scan) scan.header.stamp

theorem beforeRays_scanSequence (cfg : Config K) (mapper : PointcloudMapper K)
    (scan : Scan K) : (beforeRays cfg mapper scan).scanSequence = mapper.scanSequence + 1 := by
  obtain ⟨_, _, _, frame⟩ := foldl_processPoint_frame cfg scan.header.stamp scan.filtered
    ⟨{ mapper with scanSequence := mapper.scanSequence + 1 }, [], []⟩
  rw [beforeRays, processPoints, frame]

/-- The entry at one key after the free-space pass. -/
theorem lookup_afterRays (cfg : Config K) (mapper : PointcloudMapper K) (scan : Scan K)
    (key : VoxelKey) :
    (afterRays cfg mapper scan).temporalVoxels.lookup key =
      if key ∈ missedKeys cfg scan then
        ((beforeRays cfg mapper scan).temporalVoxels.lookup key).bind
          (OccupancyVoxelState.miss cfg (mapper.scanSequence + 1) scan.header.stamp)
      else (beforeRays cfg mapper scan).temporalVoxels.lookup key := by
  rw [afterRays, updateFreeSpace_eq, PointcloudMapper.lookup_updateMisses,
    beforeRays_scanSequence]

/-- While the scan counter has room, a missed voxel gets its miss. -/
theorem lookup_afterRays_of_missed {cfg : Config K} {mapper : PointcloudMapper K}
    (past : MarkersPast mapper) (room : mapper.scanSequence.toNat + 1 < 2 ^ 64 - 1)
    {scan : Scan K} {key : VoxelKey} (missed : key ∈ missedKeys cfg scan) :
    (afterRays cfg mapper scan).temporalVoxels.lookup key =
      ((beforeRays cfg mapper scan).temporalVoxels.lookup key).bind
        (OccupancyVoxelState.missOnce cfg (mapper.scanSequence + 1) scan.header.stamp) := by
  have unhit : key ∉ scan.filtered.map (coarseKey cfg) := by
    intro member
    exact not_occupied_of_mem_missedKeys missed (List.mem_toFinset.mpr member)
  have untouched : (beforeRays cfg mapper scan).temporalVoxels.lookup key =
      mapper.temporalVoxels.lookup key :=
    lookup_foldl_processPoint_of_notMem scan.header.stamp scan.filtered
      ⟨{ mapper with scanSequence := mapper.scanSequence + 1 }, [], []⟩ unhit
  rw [lookup_afterRays, if_pos missed, untouched]
  cases found : mapper.temporalVoxels.lookup key with
  | none => rfl
  | some state =>
      have unmarkedMiss := (past key state found).2.ne_nextScan room
      exact OccupancyVoxelState.miss_of_unmarked cfg scan.header.stamp unmarkedMiss

/-! ## Without the dynamic filter -/

section Disabled

variable {cfg : Config K} (disabled : cfg.dynamicFilterEnable = false)
include disabled

/-- The point loop leaves the coarse table alone. -/
theorem temporalVoxels_foldl_of_disabled (stamp : Time) (points : Cloud K)
    (loop : PointLoop K) :
    (points.foldl (processPoint cfg stamp) loop).mapper.temporalVoxels =
      loop.mapper.temporalVoxels := by
  induction points generalizing loop with
  | nil => rfl
  | cons point points ih =>
      obtain ⟨_, same⟩ := processPoint_mapper_disabled disabled stamp loop point
      rw [List.foldl_cons, ih, same]
      rfl

theorem beforeRays_of_disabled (mapper : PointcloudMapper K) (scan : Scan K) :
    (beforeRays cfg mapper scan).temporalVoxels = mapper.temporalVoxels :=
  temporalVoxels_foldl_of_disabled disabled _ _ _

theorem afterRays_of_disabled (mapper : PointcloudMapper K) (scan : Scan K) :
    afterRays cfg mapper scan = beforeRays cfg mapper scan := by
  simp [afterRays, PointcloudMapper.updateFreeSpace, disabled]

/-- No coarse voxel is ever created. -/
theorem temporalVoxels_run_of_disabled (callbacks : List (Callback K)) (key : VoxelKey) :
    (run cfg callbacks).temporalVoxels.lookup key = none := by
  induction callbacks using List.reverseRecOn with
  | nil => rfl
  | append_singleton callbacks callback ih =>
      have moved := transition_run cfg callbacks callback
      generalize run cfg (callbacks ++ [callback]) = next at moved
      cases moved with
      | odometry | rejected | idle | build => exact ih
      | scan msg scan accepted =>
          have absorbed : (absorbScan cfg (run cfg callbacks) scan).temporalVoxels.lookup key =
              none := by
            change (afterRays cfg (run cfg callbacks) scan).temporalVoxels.lookup key = none
            rw [afterRays_of_disabled disabled, beforeRays_of_disabled disabled]
            exact ih
          rw [processScan, lookup_maybeCleanup, absorbed]
          rfl
      | reset => rfl

end Disabled

/-! ## Ranges and coverage -/

section Geometry

variable [IsStrictOrderedRing K] {cfg : Config K} {sensor : Vector3 K} {endpoint : Point K}

omit [FloorRing K] [IsStrictOrderedRing K] in
/-- Distances along an exact ray. -/
theorem squaredNorm_rayPoint (exact : cfg.ExactNorm (endpoint.position - sensor))
    (long : cfg.norm (endpoint.position - sensor) ≠ 0) (distance : K) :
    (rayPoint cfg sensor endpoint distance - sensor).squaredNorm = distance * distance ∧
      (endpoint.position - rayPoint cfg sensor endpoint distance).squaredNorm =
        (cfg.norm (endpoint.position - sensor) - distance) *
          (cfg.norm (endpoint.position - sensor) - distance) := by
  have square := exact.square
  unfold rayPoint
  generalize cfg.norm (endpoint.position - sensor) = range at long square
  simp only [Vector3.squaredNorm, Vector3.sub_x, Vector3.sub_y, Vector3.sub_z, Vector3.add_x,
    Vector3.add_y, Vector3.add_z, Vector3.scale_x, Vector3.scale_y, Vector3.scale_z,
    Vector3.divide_x, Vector3.divide_y, Vector3.divide_z] at square ⊢
  -- with `t = distance / range` the two sides are `t²` and `(1 - t)²` times the squared range
  have ratio : distance = distance / range * range := (div_mul_cancel₀ distance long).symm
  constructor
  · calc _ = (distance / range) * (distance / range) * (range * range) := by
          rw [square]
          ring
      _ = distance * distance := by
          rw [mul_mul_mul_comm, ← ratio]
  · calc _ = (1 - distance / range) * (1 - distance / range) * (range * range) := by
          rw [square]
          ring
      _ = (range - distance) * (range - distance) := by
          rw [mul_mul_mul_comm, sub_mul, one_mul, ← ratio]

/-- A sample is within the clearing range and a margin before the endpoint. -/
theorem sample_in_range {n : ℕ}
    (last : (n : ℤ) ≤ ⌊clearUntil cfg sensor endpoint / cfg.temporalVoxelSize⌋) :
    n * cfg.temporalVoxelSize ≤ cfg.maxClearingRange ∧
      cfg.rayEndpointMargin ≤
        cfg.norm (endpoint.position - sensor) - n * cfg.temporalVoxelSize := by
  have below : (n : K) * cfg.temporalVoxelSize ≤ clearUntil cfg sensor endpoint := by
    rw [← le_div_iff₀ cfg.temporalVoxelSize_pos]
    exact_mod_cast Int.le_floor.mp last
  constructor
  · exact below.trans (min_le_left _ _)
  · have limit := below.trans (min_le_right _ _)
    linarith

/-- A voxel that contains both ends of a stretch of the free part longer than a voxel
contains a sample of the ray. -/
theorem exists_sample_of_crossing {first last : K} {key : VoxelKey} (start : 0 ≤ first)
    (free : last ≤ clearUntil cfg sensor endpoint)
    (long : first + cfg.temporalVoxelSize < last)
    (entered : voxelKey (rayPoint cfg sensor endpoint first) cfg.temporalVoxelSize = key)
    (left : voxelKey (rayPoint cfg sensor endpoint last) cfg.temporalVoxelSize = key) :
    ∃ n : ℕ, 1 ≤ n ∧
      (n : ℤ) ≤ ⌊clearUntil cfg sensor endpoint / cfg.temporalVoxelSize⌋ ∧
      voxelKey (rayPoint cfg sensor endpoint (n * cfg.temporalVoxelSize))
        cfg.temporalVoxelSize = key := by
  have positive := cfg.temporalVoxelSize_pos
  obtain ⟨n, counted, afterFirst, beforeLast⟩ := Cells.exists_multiple positive start long.le
  refine ⟨n, counted, ?_, ?_⟩
  · apply Int.le_floor.mpr
    rw [Int.cast_natCast, le_div_iff₀ positive]
    exact beforeLast.trans free
  · have same := entered.trans left.symm
    simp only [voxelKey, VoxelKey.mk.injEq] at same
    rw [← entered]
    simp only [voxelKey, VoxelKey.mk.injEq]
    exact ⟨Cells.cell_of_line positive afterFirst beforeLast same.1,
      Cells.cell_of_line positive afterFirst beforeLast same.2.1,
      Cells.cell_of_line positive afterFirst beforeLast same.2.2⟩

end Geometry

/-- The free-space pass applies one miss where it should and none elsewhere. -/
theorem lookup_afterRays_cases [IsStrictOrderedRing K] {cfg : Config K}
    {callbacks : List (Callback K)} {msg : PointCloud2 K} {scan : Scan K}
    (accepted : acceptScan cfg (run cfg callbacks) msg = some scan)
    (few : FewScans cfg (callbacks ++ [.cloud msg]))
    (counts : ∀ endpoint, Traced cfg scan endpoint → CountsSamples cfg scan.position endpoint)
    (inside : ∀ key, FreeSample cfg scan key → key.InsideInt64) :
    (∀ key, FreeSample cfg scan key → key ∉ occupiedThisScan cfg scan →
      (afterRays cfg (run cfg callbacks) scan).temporalVoxels.lookup key =
        ((beforeRays cfg (run cfg callbacks) scan).temporalVoxels.lookup key).bind
          (OccupancyVoxelState.missOnce cfg ((run cfg callbacks).scanSequence + 1)
            scan.header.stamp)) ∧
    (∀ key, ¬(FreeSample cfg scan key ∧ key ∉ occupiedThisScan cfg scan) →
      (afterRays cfg (run cfg callbacks) scan).temporalVoxels.lookup key =
        (beforeRays cfg (run cfg callbacks) scan).temporalVoxels.lookup key) := by
  cases enabled : cfg.dynamicFilterEnable with
  | true =>
      have past := markersPast_run enabled few.of_append
      have room := (counted_run few.of_append).room few accepted
      constructor
      · intro key sample free
        apply lookup_afterRays_of_missed past room
        exact (mem_missedKeys_iff enabled counts (inside key)).mpr ⟨sample, free⟩
      · intro key neither
        rw [lookup_afterRays, if_neg]
        rw [mem_missedKeys_iff enabled counts (inside key)]
        exact neither
  | false =>
      have empty : ∀ key, (beforeRays cfg (run cfg callbacks) scan).temporalVoxels.lookup key =
          none := by
        intro key
        rw [beforeRays_of_disabled enabled]
        exact temporalVoxels_run_of_disabled enabled callbacks key
      simp [afterRays_of_disabled enabled, empty]

/-- As long as fewer than `2 ^ 64 - 1` scans have been accepted since the last reset, and
`int` counts the samples of each ray, the free-space pass applies one miss to every live voxel that contains a sample of a traced
ray and no point of the scan, and none to any other.  Samples keep within the clearing
range and away from the endpoint of their ray, the voxels of endpoints are spared, and
a voxel that the free part of a ray crosses over more than a voxel size is missed. -/
theorem updateFreeSpace_exact [IsStrictOrderedRing K] {cfg : Config K}
    {callbacks : List (Callback K)} {msg : PointCloud2 K} {scan : Scan K}
    (accepted : acceptScan cfg (run cfg callbacks) msg = some scan)
    (few : FewScans cfg (callbacks ++ [.cloud msg]))
    (counts : ∀ endpoint, Traced cfg scan endpoint → CountsSamples cfg scan.position endpoint)
    (inside : ∀ key, FreeSample cfg scan key → key.InsideInt64) :
    (∀ key, FreeSample cfg scan key → key ∉ occupiedThisScan cfg scan →
      (afterRays cfg (run cfg callbacks) scan).temporalVoxels.lookup key =
        ((beforeRays cfg (run cfg callbacks) scan).temporalVoxels.lookup key).bind
          (OccupancyVoxelState.missOnce cfg ((run cfg callbacks).scanSequence + 1)
            scan.header.stamp)) ∧
    (∀ key, ¬(FreeSample cfg scan key ∧ key ∉ occupiedThisScan cfg scan) →
      (afterRays cfg (run cfg callbacks) scan).temporalVoxels.lookup key =
        (beforeRays cfg (run cfg callbacks) scan).temporalVoxels.lookup key) ∧
    (∀ endpoint, Traced cfg scan endpoint →
      cfg.ExactNorm (endpoint.position - scan.position) → ∀ n : ℕ, 1 ≤ n →
      (n : ℤ) ≤ ⌊clearUntil cfg scan.position endpoint / cfg.temporalVoxelSize⌋ →
        (rayPoint cfg scan.position endpoint (n * cfg.temporalVoxelSize) -
            scan.position).squaredNorm ≤ cfg.maxClearingRange * cfg.maxClearingRange ∧
          cfg.rayEndpointMargin * cfg.rayEndpointMargin ≤ (endpoint.position -
            rayPoint cfg scan.position endpoint (n * cfg.temporalVoxelSize)).squaredNorm) ∧
    (∀ point ∈ scan.filtered,
      (afterRays cfg (run cfg callbacks) scan).temporalVoxels.lookup (coarseKey cfg point) =
        (beforeRays cfg (run cfg callbacks) scan).temporalVoxels.lookup
          (coarseKey cfg point)) ∧
    ∀ endpoint, Traced cfg scan endpoint → ∀ first last key, 0 ≤ first →
      last ≤ clearUntil cfg scan.position endpoint →
      first + cfg.temporalVoxelSize < last →
      voxelKey (rayPoint cfg scan.position endpoint first) cfg.temporalVoxelSize = key →
      voxelKey (rayPoint cfg scan.position endpoint last) cfg.temporalVoxelSize = key →
      key ∉ occupiedThisScan cfg scan →
        (afterRays cfg (run cfg callbacks) scan).temporalVoxels.lookup key =
          ((beforeRays cfg (run cfg callbacks) scan).temporalVoxels.lookup key).bind
            (OccupancyVoxelState.missOnce cfg ((run cfg callbacks).scanSequence + 1)
              scan.header.stamp) := by
  obtain ⟨missed, spared⟩ := lookup_afterRays_cases accepted few counts inside
  refine ⟨missed, spared, ?_, ?_, ?_⟩
  · intro endpoint traced exact n counted last
    obtain ⟨near, away⟩ := sample_in_range last
    have size := cfg.temporalVoxelSize_pos
    have margin : 0 < cfg.rayEndpointMargin := size.trans_le cfg.rayEndpointMargin_ge
    have long := (margin.trans traced.beyondMargin).ne'
    obtain ⟨fromSensor, toEndpoint⟩ :=
      squaredNorm_rayPoint exact long (n * cfg.temporalVoxelSize)
    have forward : 0 ≤ (n : K) * cfg.temporalVoxelSize :=
      mul_nonneg (Nat.cast_nonneg n) size.le
    rw [fromSensor, toEndpoint]
    exact ⟨mul_self_le_mul_self forward near, mul_self_le_mul_self margin.le away⟩
  · intro point member
    apply spared
    rintro ⟨_, free⟩
    exact free (List.mem_toFinset.mpr (List.mem_map_of_mem member))
  · intro endpoint traced first last key start free long entered left unoccupied
    exact missed key ⟨endpoint, traced, exists_sample_of_crossing start free long entered left⟩
      unoccupied

/-! ## A ray through an observed voxel -/

section Behind

/-- A cloud with one point behind the observed voxel. -/
def behindScan : Scan ℚ :=
  ⟨⟨1, "camera_init"⟩, ⟨0, 1 / 2, 1 / 2⟩, [⟨9 / 2, 1 / 2, 1 / 2, 1⟩]⟩

/-- The message of that cloud. -/
def behindMsg : PointCloud2 ℚ :=
  ⟨⟨1, "camera_init"⟩, [some ⟨9 / 2, 1 / 2, 1 / 2, 1⟩]⟩

private theorem eq_of_traced {endpoint : Point ℚ} (traced : Traced unitConfig behindScan endpoint) :
    endpoint = ⟨9 / 2, 1 / 2, 1 / 2, 1⟩ := by
  obtain ⟨index, found, _⟩ := traced.index
  exact List.mem_singleton.mp (List.mem_of_getElem? found)

private theorem counts_behindScan (endpoint : Point ℚ)
    (traced : Traced unitConfig behindScan endpoint) :
    CountsSamples unitConfig behindScan.position endpoint := by
  rw [eq_of_traced traced, CountsSamples]
  decide +kernel

private theorem inside_behindScan (key : VoxelKey) (sample : FreeSample unitConfig behindScan key) :
    key.InsideInt64 := by
  obtain ⟨endpoint, traced, counted⟩ := sample
  have onRay := (mem_rayKeys fun _ => counts_behindScan endpoint traced).mpr
    ⟨traced.beyondMargin, traced.beyondVoxel, counted⟩
  have keys : rayKeys unitConfig behindScan.position ⟨9 / 2, 1 / 2, 1 / 2, 1⟩ =
      [⟨1, 0, 0⟩, ⟨2, 0, 0⟩, ⟨3, 0, 0⟩] := by decide +kernel
  rw [eq_of_traced traced, keys] at onRay
  simp only [List.mem_cons, List.not_mem_nil, or_false] at onRay
  rcases onRay with rfl | rfl | rfl
  · exact ⟨by decide, by decide, by decide⟩
  · exact ⟨by decide, by decide, by decide⟩
  · exact ⟨by decide, by decide, by decide⟩

private theorem traced_behindScan :
    Traced unitConfig behindScan ⟨9 / 2, 1 / 2, 1 / 2, 1⟩ := by
  refine ⟨⟨0, rfl, rfl⟩, ?_, ?_⟩
  · decide +kernel
  · decide +kernel

/-- The square root of the node is exact along an axis. -/
private theorem exactNorm_axis (x : ℚ) : unitConfig.ExactNorm ⟨x, 0, 0⟩ := by
  have norm : unitConfig.norm ⟨x, 0, 0⟩ = |x| := by
    have squares : (⟨x, 0, 0⟩ : Vector3 ℚ).squaredNorm = x * x := by simp [Vector3.squaredNorm]
    rw [Config.norm, squares]
    exact rationalSqrt_mul_self x
  constructor
  · rw [norm]
    exact abs_nonneg x
  · rw [norm, abs_mul_abs_self]
    simp [Vector3.squaredNorm]

private theorem freeSample_behindScan : FreeSample unitConfig behindScan ⟨2, 0, 0⟩ := by
  refine ⟨⟨9 / 2, 1 / 2, 1 / 2, 1⟩, traced_behindScan, 2, ?_, ?_, ?_⟩
  · decide
  · decide +kernel
  · decide +kernel

/-- The observed voxel on the ray gets its miss, and the last sample keeps off the endpoint. -/
theorem updateFreeSpace_exact_behind :
    (afterRays unitConfig (run unitConfig unitHistory) behindScan).temporalVoxels.lookup
        ⟨2, 0, 0⟩ =
      ((beforeRays unitConfig (run unitConfig unitHistory) behindScan).temporalVoxels.lookup
        ⟨2, 0, 0⟩).bind (OccupancyVoxelState.missOnce unitConfig
          ((run unitConfig unitHistory).scanSequence + 1) 1) ∧
      1 ≤ (Point.position ⟨9 / 2, 1 / 2, 1 / 2, 1⟩ - rayPoint unitConfig behindScan.position
        ⟨9 / 2, 1 / 2, 1 / 2, 1⟩ ((3 : ℕ) * 1)).squaredNorm := by
  have accepted : acceptScan unitConfig (run unitConfig unitHistory) behindMsg =
      some behindScan := by decide +kernel
  obtain ⟨missed, _, ranges, _⟩ := updateFreeSpace_exact accepted
    (fewScans_of_length (by decide)) counts_behindScan inside_behindScan
  constructor
  · exact missed _ freeSample_behindScan (by decide +kernel)
  · have axis : Point.position ⟨9 / 2, 1 / 2, 1 / 2, 1⟩ - behindScan.position =
        (⟨9 / 2, 0, 0⟩ : Vector3 ℚ) := by decide +kernel
    have kept := (ranges _ traced_behindScan (axis ▸ exactNorm_axis _) 3 (by decide)
      (by decide +kernel)).2
    exact (by decide +kernel : (1 : ℚ) ≤ unitConfig.rayEndpointMargin *
      unitConfig.rayEndpointMargin).trans kept

/-- One voxel is hit, and then `n` clouds without points arrive. -/
def hitHistory (n : ℕ) : List (Callback ℚ) :=
  unitHistory ++ List.replicate n (cloudAt 1 [])

/-- The entry of the voxel. -/
def hitEntry : OccupancyVoxelState ℚ := ⟨1, 1, 0, 1, unmarked, 1, 1, 1, 1⟩

/-- The mapper after such a history. -/
private structure Waiting (n : ℕ) (mapper : PointcloudMapper ℚ) : Prop where
  latestOdom : mapper.latestOdom = (run unitConfig unitHistory).latestOdom
  haveOdom : mapper.haveOdom = (run unitConfig unitHistory).haveOdom
  entry : mapper.temporalVoxels.lookup ⟨2, 0, 0⟩ = some hitEntry
  sequence : mapper.scanSequence = UInt64.ofNat (n + 1)

private theorem waiting_step {n : ℕ} {mapper : PointcloudMapper ℚ} (waiting : Waiting n mapper) :
    Waiting (n + 1) (step unitConfig mapper (cloudAt 1 [])) := by
  have accepted : acceptScan unitConfig mapper ⟨⟨1, "camera_init"⟩, []⟩ =
      some ⟨⟨1, "camera_init"⟩, ⟨0, 1 / 2, 1 / 2⟩, []⟩ := by
    rw [acceptScan_congr unitConfig waiting.latestOdom waiting.haveOdom]
    decide +kernel
  have stepped : step unitConfig mapper (cloudAt 1 []) = _ := step_cloud_of_some accepted
  obtain ⟨sameOdom, sameFlag⟩ := processScan_odometry unitConfig mapper
    ⟨⟨1, "camera_init"⟩, ⟨0, 1 / 2, 1 / 2⟩, []⟩
  have young : hitEntry.expired unitConfig 1 = false := by decide +kernel
  rw [stepped]
  constructor
  · rw [sameOdom, waiting.latestOdom]
  · rw [sameFlag, waiting.haveOdom]
  · rw [processScan, lookup_maybeCleanup, absorbScan_of_filtered_nil _ _ rfl, waiting.entry]
    simp [young]
  · rw [processScan_scanSequence, waiting.sequence, UInt64.ofNat_add (n + 1) 1]
    rfl

private theorem waiting_run (n : ℕ) : Waiting n (run unitConfig (hitHistory n)) := by
  induction n with
  | zero => exact ⟨rfl, rfl, by decide +kernel, by decide +kernel⟩
  | succ n ih =>
      rw [hitHistory, List.replicate_succ', ← List.append_assoc, run_append]
      exact waiting_step ih

private theorem not_missed_waiting {n : ℕ} (last : UInt64.ofNat (n + 2) = unmarked) :
    acceptScan unitConfig (run unitConfig (hitHistory n)) behindMsg = some behindScan ∧
      (beforeRays unitConfig (run unitConfig (hitHistory n)) behindScan).temporalVoxels.lookup
        ⟨2, 0, 0⟩ = some hitEntry ∧
      (afterRays unitConfig (run unitConfig (hitHistory n)) behindScan).temporalVoxels.lookup
        ⟨2, 0, 0⟩ = some hitEntry := by
  have waiting := waiting_run n
  have number : (run unitConfig (hitHistory n)).scanSequence + 1 = unmarked := by
    rw [waiting.sequence, ← last, UInt64.ofNat_add (n + 1) 1]
    rfl
  have unhit : (⟨2, 0, 0⟩ : VoxelKey) ∉ behindScan.filtered.map (coarseKey unitConfig) := by
    decide +kernel
  have before : (beforeRays unitConfig (run unitConfig (hitHistory n))
      behindScan).temporalVoxels.lookup ⟨2, 0, 0⟩ = some hitEntry :=
    (lookup_foldl_processPoint_of_notMem _ _ _ unhit).trans waiting.entry
  refine ⟨?_, before, ?_⟩
  · rw [acceptScan_congr unitConfig waiting.latestOdom waiting.haveOdom]
    decide +kernel
  · rw [lookup_afterRays, before, number]
    split
    next => decide +kernel
    next => rfl

/-- Scan number `2 ^ 64 - 1` carries the value of an untouched marker, so its rays miss no
voxel that has never been missed. -/
theorem updateFreeSpace_not_exact :
    acceptScan unitConfig (run unitConfig (hitHistory (2 ^ 64 - 3))) behindMsg =
        some behindScan ∧
      (∀ key, FreeSample unitConfig behindScan key → key.InsideInt64) ∧
      FreeSample unitConfig behindScan ⟨2, 0, 0⟩ ∧
      (⟨2, 0, 0⟩ : VoxelKey) ∉ occupiedThisScan unitConfig behindScan ∧
      (beforeRays unitConfig (run unitConfig (hitHistory (2 ^ 64 - 3)))
        behindScan).temporalVoxels.lookup ⟨2, 0, 0⟩ = some hitEntry ∧
      (afterRays unitConfig (run unitConfig (hitHistory (2 ^ 64 - 3)))
        behindScan).temporalVoxels.lookup ⟨2, 0, 0⟩ = some hitEntry ∧
      ∀ number, hitEntry.missOnce unitConfig number 1 ≠ some hitEntry := by
  have last : UInt64.ofNat (2 ^ 64 - 3 + 2) = unmarked := by decide
  obtain ⟨accepted, before, after⟩ := not_missed_waiting last
  refine ⟨accepted, inside_behindScan, freeSample_behindScan, by decide +kernel, before, after, ?_⟩
  intro number
  unfold OccupancyVoxelState.missOnce
  split
  next => simp
  next => simp [OccupancyVoxelState.lower, hitEntry]

end Behind

end ScoutStack
