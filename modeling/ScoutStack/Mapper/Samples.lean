import ScoutStack.Lib.Cells
import ScoutStack.Mapper.MapCloud

/-!
# The samples of an entry

An entry of the fine map counts and sums the last points of its cell: those since
the point loop last started it anew.  The counter wraps to zero after `2 ^ 32`
samples, and an entry whose counter is zero is started anew by the next point, so
the sums never belong to more points than the counter says.
-/

namespace ScoutStack

variable {K : Type*} [Field K]

/-- An entry counts and sums the samples. -/
structure Accumulated (entry : MapVoxelState K) (samples : Cloud K) : Prop where
  nonempty : samples ≠ []
  few : samples.length ≤ 2 ^ 32
  count : entry.sampleCount = UInt32.ofNat samples.length
  x : entry.sum.x = (samples.map Point.x).sum
  y : entry.sum.y = (samples.map Point.y).sum
  z : entry.sum.z = (samples.map Point.z).sum
  intensity : entry.intensitySum = (samples.map Point.intensity).sum

/-- The mean of a list of points. -/
def meanOf (samples : Cloud K) : Point K :=
  ⟨(samples.map Point.x).sum / samples.length, (samples.map Point.y).sum / samples.length,
    (samples.map Point.z).sum / samples.length, (samples.map Point.intensity).sum / samples.length⟩

section Accumulated

variable {entry : MapVoxelState K} {samples : Cloud K}

/-- A new entry has its first sample. -/
theorem accumulated_start (key : VoxelKey) (generation : UInt64) (point : Point K) :
    Accumulated
      (MapVoxelState.add { occupancyKey := key, occupancyGeneration := generation } point)
      [point] where
  nonempty := List.cons_ne_nil _ _
  few := Nat.one_le_two_pow
  count := rfl
  x := by simp [MapVoxelState.add, Point.position]
  y := by simp [MapVoxelState.add, Point.position]
  z := by simp [MapVoxelState.add, Point.position]
  intensity := by simp [MapVoxelState.add]

/-- A counter that is not zero has not wrapped. -/
theorem Accumulated.lt (accumulated : Accumulated entry samples)
    (counted : entry.sampleCount ≠ 0) : samples.length < 2 ^ 32 := by
  apply Nat.lt_of_le_of_ne accumulated.few
  intro full
  apply counted
  rw [accumulated.count, full]
  rfl

theorem Accumulated.toNat_sampleCount (accumulated : Accumulated entry samples)
    (counted : entry.sampleCount ≠ 0) : entry.sampleCount.toNat = samples.length := by
  rw [accumulated.count, UInt32.toNat_ofNat']
  exact Nat.mod_eq_of_lt (accumulated.lt counted)

/-- An entry whose counter is not zero has room for one more sample. -/
theorem Accumulated.add (accumulated : Accumulated entry samples)
    (counted : entry.sampleCount ≠ 0) (point : Point K) :
    Accumulated (entry.add point) (samples ++ [point]) where
  nonempty := List.append_ne_nil_of_right_ne_nil _ (List.cons_ne_nil _ _)
  few := by
    rw [List.length_append]
    exact accumulated.lt counted
  count := by
    rw [List.length_append, List.length_singleton, UInt32.ofNat_add, ← accumulated.count]
    rfl
  x := by simp [MapVoxelState.add, Point.position, accumulated.x]
  y := by simp [MapVoxelState.add, Point.position, accumulated.y]
  z := by simp [MapVoxelState.add, Point.position, accumulated.z]
  intensity := by simp [MapVoxelState.add, accumulated.intensity]

/-- The mean of an entry whose counter is not zero is the mean of its samples. -/
theorem Accumulated.mean (accumulated : Accumulated entry samples)
    (counted : entry.sampleCount ≠ 0) : entry.mean = meanOf samples := by
  rw [MapVoxelState.mean, accumulated.toNat_sampleCount counted, accumulated.x, accumulated.y,
    accumulated.z, accumulated.intensity]
  rfl

end Accumulated

/-! ## Means -/

section Mean

variable [LinearOrder K] [IsStrictOrderedRing K] {samples : Cloud K}

/-- The mean of points of a voxel is in the voxel. -/
theorem voxelKey_meanOf [FloorRing K] {size : K} (positive : 0 < size)
    (nonempty : samples ≠ []) {key : VoxelKey}
    (inside : ∀ sample ∈ samples, voxelKey sample.position size = key) :
    voxelKey (meanOf samples).position size = key := by
  have axis : ∀ (coordinate : Point K → K) (index : VoxelKey → ℤ),
      (∀ sample, index (voxelKey sample.position size) = Cells.cell size (coordinate sample)) →
        Cells.cell size ((samples.map coordinate).sum / samples.length) = index key := by
    intro coordinate index agrees
    rw [← List.length_map coordinate]
    apply Cells.cell_mean positive
    · simpa using nonempty
    · intro value member
      obtain ⟨sample, sampled, rfl⟩ := List.mem_map.mp member
      rw [← agrees, inside sample sampled]
  have x := axis Point.x VoxelKey.x fun _ => rfl
  have y := axis Point.y VoxelKey.y fun _ => rfl
  have z := axis Point.z VoxelKey.z fun _ => rfl
  cases key with
  | mk keyX keyY keyZ =>
      simp only [voxelKey, VoxelKey.mk.injEq]
      exact ⟨x, y, z⟩

/-- The mean intensity lies between those of two of the samples. -/
theorem intensity_meanOf (nonempty : samples ≠ []) :
    (∃ low ∈ samples, low.intensity ≤ (meanOf samples).intensity) ∧
      ∃ high ∈ samples, (meanOf samples).intensity ≤ high.intensity := by
  have count : (samples.length : K) ≠ 0 := by
    simpa using nonempty
  have total : (samples.map fun _ => (meanOf samples).intensity).sum =
      (samples.map Point.intensity).sum := by
    simp [meanOf, mul_div_cancel₀, count]
  constructor
  · exact List.exists_le_of_sum_le nonempty _ _ total.ge
  · exact List.exists_le_of_sum_le nonempty _ _ total.le

end Mean

/-! ## Along a run -/

variable [LinearOrder K] [FloorRing K]

/-- Every entry has accumulated the last of the points of its cell. -/
def Gathered (cfg : Config K) (seen : Cloud K) (mapper : PointcloudMapper K) : Prop :=
  ∀ fine entry, mapper.mapVoxels.lookup fine = some entry →
    ∃ samples, samples <:+ seen.filter (fun point => fineKey cfg point = fine) ∧
      Accumulated entry samples

section Gathered

variable {cfg : Config K} {seen : Cloud K}

/-- A point is seen. -/
theorem Gathered.processPoint {loop : PointLoop K} (gathered : Gathered cfg seen loop.mapper)
    (stamp : Time) (point : Point K) :
    Gathered cfg (seen ++ [point]) (ScoutStack.processPoint cfg stamp loop point).mapper := by
  intro fine entry found
  rw [lookup_mapVoxels_processPoint] at found
  rw [List.filter_append]
  split at found
  next same =>
    have own : [point].filter (fun point => fineKey cfg point = fine) = [point] := by
      simp [same]
    obtain rfl := Option.some.inj found
    rw [own]
    rcases storePoint_cases cfg (pointGeneration cfg loop.mapper point) point
      (loop.mapper.mapVoxels.lookup fine) with started | ⟨old, present, counted, _, added⟩
    · rw [started]
      exact ⟨[point], List.suffix_append _ _, accumulated_start _ _ point⟩
    · obtain ⟨samples, last, accumulated⟩ := gathered fine old present
      rw [added]
      exact ⟨samples ++ [point], (List.suffix_append_inj_of_length_eq rfl).mpr ⟨last, rfl⟩,
        accumulated.add counted point⟩
  next other =>
    have foreign : [point].filter (fun point => fineKey cfg point = fine) = [] := by
      simp [Ne.symm other]
    rw [foreign, List.append_nil]
    exact gathered fine entry found

theorem Gathered.foldl {loop : PointLoop K} (gathered : Gathered cfg seen loop.mapper)
    (stamp : Time) (points : Cloud K) :
    Gathered cfg (seen ++ points)
      (points.foldl (ScoutStack.processPoint cfg stamp) loop).mapper := by
  induction points generalizing seen loop with
  | nil =>
      rw [List.append_nil]
      exact gathered
  | cons point points ih =>
      have rest := ih (gathered.processPoint stamp point)
      rw [List.append_assoc] at rest
      exact rest

theorem Gathered.processScan {mapper : PointcloudMapper K} (gathered : Gathered cfg seen mapper)
    (scan : Scan K) :
    Gathered cfg (seen ++ scan.filtered) (ScoutStack.processScan cfg mapper scan) := by
  intro fine entry found
  rw [processScan_mapVoxels] at found
  have started : Gathered cfg seen
      (PointLoop.mk { mapper with scanSequence := mapper.scanSequence + 1 } [] []).mapper :=
    gathered
  exact started.foldl scan.header.stamp scan.filtered fine entry found

/-- In every reachable state every entry has accumulated the last points of its cell. -/
theorem gathered_run (cfg : Config K) (callbacks : List (Callback K)) :
    Gathered cfg (pointsFrom cfg {} callbacks) (run cfg callbacks) := by
  induction callbacks using List.reverseRecOn with
  | nil =>
      intro fine entry found
      cases found
  | append_singleton callbacks callback ih =>
      have points := pointsFrom_concat cfg callback [] callbacks
      rw [run_nil, List.nil_append] at points
      rw [points]
      have moved := transition_run cfg callbacks callback
      generalize run cfg (callbacks ++ [callback]) = next at moved
      cases moved with
      | odometry msg =>
          rw [acceptedScan_odometry, List.flatMap_nil, List.append_nil]
          exact ih
      | rejected msg rejected => simpa [acceptedScan_cloud_of_none rejected] using ih
      | scan msg scan accepted =>
          rw [acceptedScan_cloud_of_some accepted, List.flatMap_singleton]
          exact ih.processScan scan
      | idle _ builds => simpa [acceptedScan_of_buildsMap builds] using ih
      | build _ dirty builds =>
          rw [acceptedScan_of_buildsMap builds, List.flatMap_nil, List.append_nil]
          intro fine entry found
          change ((run cfg callbacks).buildMapCloud cfg).1.mapVoxels.lookup fine = some entry
            at found
          rw [PointcloudMapper.lookup_buildMapCloud] at found
          exact ih fine entry (PointcloudMapper.lookup_of_kept found)
      | reset =>
          intro fine entry found
          cases found

end Gathered

end ScoutStack
