import ScoutStack.Mapper.Node
import Mathlib.Data.Rat.Lemmas

/-!
# The mapper over the rationals

Over `ℚ` the node runs inside the kernel.  The square root below is exact on
squares, which is all that axis-parallel rays need.
-/

namespace ScoutStack

/-- A rational square root, exact on squares. -/
def rationalSqrt (x : ℚ) : ℚ := (Nat.sqrt x.num.natAbs : ℚ) / Nat.sqrt x.den

theorem rationalSqrt_mul_self (x : ℚ) : rationalSqrt (x * x) = |x| := by
  have numerator : Nat.sqrt (x * x).num.natAbs = x.num.natAbs := by
    rw [Rat.mul_self_num, Int.natAbs_mul, Nat.sqrt_eq]
  have denominator : Nat.sqrt (x * x).den = x.den := by
    rw [Rat.mul_self_den, Nat.sqrt_eq]
  rw [rationalSqrt, numerator, denominator, Rat.abs_def, Rat.divInt_eq_div]
  rw [Int.cast_natCast, Int.cast_natCast]

/-- A node with unit voxels, unit evidence and both point filters passing
everything through.  A voxel is static after two hits and cleared at minus one. -/
def unitConfig : Config ℚ where
  inputCloud := "/cloud_registered"
  inputOdom := "/Odometry"
  staticScanTopic := "/scout/static_scan"
  staticMapTopic := "/scout/static_map_cloud"
  dynamicTopic := "/scout/dynamic_points"
  outputPath := "map.pcd"
  minRange := 0
  maxRange := 50
  scanVoxelSize := 1 / 10
  radiusFilterEnable := false
  radius := 1 / 5
  minNeighbors := 2
  selfFilterEnable := false
  selfMinX := 0
  selfMaxX := 0
  selfMinY := 0
  selfMaxY := 0
  selfMinZ := 0
  selfMaxZ := 0
  dynamicFilterEnable := true
  temporalVoxelSize := 1
  hitLogOdds := 1
  missLogOdds := -1
  occupiedLogOdds := 1
  clearingLogOdds := -1
  minHitScans := 2
  minObservationSpan := 0
  rayStride := 1
  maxClearingRange := 20
  rayEndpointMargin := 1
  candidateTimeout := 3
  cleanupPeriod := 1
  maxVoxels := 10
  mapVoxelSize := 1
  maxMapVoxels := 10
  autosavePeriod := 30
  saveOnShutdown := true
  mapPublishPeriod := 2
  publishDynamic := false
  maxOdomAge := 1 / 5
  minRange_nonneg := by norm_num
  minRange_le_maxRange := by norm_num
  scanVoxelSize_ge := by norm_num
  temporalVoxelSize_ge := by norm_num
  mapVoxelSize_ge := by norm_num
  hitLogOdds_pos := by norm_num
  missLogOdds_neg := by norm_num
  minHitScans_pos := by norm_num
  minHitScans_lt := by norm_num
  minObservationSpan_nonneg := by norm_num
  rayStride_pos := by norm_num
  maxClearingRange_ge := by norm_num
  rayEndpointMargin_ge := by norm_num
  maxVoxels_pos := by norm_num
  maxMapVoxels_pos := by norm_num
  sqrt := rationalSqrt
  outsideInt := fun _ => -2 ^ 31
  voxelGrid := fun _ cloud => cloud
  radiusOutlierRemoval := fun _ _ cloud => cloud
  hasParentPath := fun _ => false

/-- A node that asks for two seconds between the first and the last hit. -/
def spanConfig : Config ℚ :=
  { unitConfig with
    minObservationSpan := 2
    minObservationSpan_nonneg := by norm_num }

/-- Room for a single voxel in either table. -/
def narrowConfig : Config ℚ :=
  { unitConfig with
    maxVoxels := 1
    maxVoxels_pos := Nat.one_pos
    maxMapVoxels := 1
    maxMapVoxels_pos := Nat.one_pos }

/-- A node that forgets every unconfirmed voxel at the end of the scan. -/
def churnConfig : Config ℚ :=
  { unitConfig with
    candidateTimeout := -1
    cleanupPeriod := 0 }

/-- Fine cells that are not aligned with the coarse voxels. -/
def straddleConfig : Config ℚ :=
  { unitConfig with
    mapVoxelSize := 3 / 4
    mapVoxelSize_ge := by norm_num }

/-- Without the dynamic filter. -/
def unfilteredConfig : Config ℚ := { unitConfig with dynamicFilterEnable := false }

/-- An odometry message with the identity orientation. -/
def odometryAt (stamp : Time) (position : Vector3 ℚ) : Callback ℚ :=
  .odometry ⟨⟨stamp, "camera_init"⟩, position, ⟨1, 0, 0, 0⟩⟩

/-- A cloud message with finite points of unit intensity. -/
def cloudAt (stamp : Time) (points : List (Vector3 ℚ)) : Callback ℚ :=
  .cloud ⟨⟨stamp, "camera_init"⟩, points.map fun point => some ⟨point.x, point.y, point.z, 1⟩⟩

/-- A start of a run: the first odometry, and a cloud that hits one voxel. -/
def unitHistory : List (Callback ℚ) :=
  [odometryAt 1 ⟨0, 1 / 2, 1 / 2⟩, cloudAt 1 [⟨5 / 2, 1 / 2, 1 / 2⟩]]

/-- A point of the observed voxel. -/
def insideVoxel : Vector3 ℚ := ⟨5 / 2, 1 / 2, 1 / 2⟩

/-- A point behind the observed voxel. -/
def behindVoxel : Vector3 ℚ := ⟨9 / 2, 1 / 2, 1 / 2⟩

/-- A point in another direction. -/
def elsewhere : Vector3 ℚ := ⟨0, 9 / 2, 1 / 2⟩

/-- The sensor stands still while one cloud after another arrives. -/
def watching (clouds : List (Time × List (Vector3 ℚ))) : List (Callback ℚ) :=
  clouds.flatMap fun (stamp, points) => [odometryAt stamp ⟨0, 1 / 2, 1 / 2⟩, cloudAt stamp points]

end ScoutStack
