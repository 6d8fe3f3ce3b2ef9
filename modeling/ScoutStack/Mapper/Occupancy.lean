import ScoutStack.Mapper.State
import Mathlib.Data.Finset.Image

/-!
# The coarse occupancy table

`updateHit`, `updateMiss`, `updateFreeSpace` and `maybeCleanup` with one lookup
lemma each.  A pass over a whole scan acts on every key separately: the lookup
lemmas of the two loops say what remains of the entry at one key, whatever the
other points and rays of the scan do.
-/

namespace ScoutStack

variable {K : Type*} [Field K] [LinearOrder K]

namespace PointcloudMapper

/-- `getOrCreateOccupancy`: the mapper with an entry at the key, and the entry. -/
def getOrCreateOccupancy (mapper : PointcloudMapper K) (key : VoxelKey) :
    PointcloudMapper K × OccupancyVoxelState K :=
  match mapper.temporalVoxels.lookup key with
  | some state => (mapper, state)
  | none =>
      let state : OccupancyVoxelState K := { generation := mapper.nextOccupancyGeneration }
      ({ mapper with
          temporalVoxels := mapper.temporalVoxels.insert key state
          nextOccupancyGeneration := mapper.nextOccupancyGeneration + 1 }, state)

/-- `updateHit`. -/
def updateHit (cfg : Config K) (mapper : PointcloudMapper K) (key : VoxelKey)
    (stamp : Time) : PointcloudMapper K :=
  let (mapper, state) := mapper.getOrCreateOccupancy key
  { mapper with
    temporalVoxels := mapper.temporalVoxels.insert key
      (state.hit cfg mapper.scanSequence stamp) }

/-- `updateMiss`. -/
def updateMiss (cfg : Config K) (mapper : PointcloudMapper K) (key : VoxelKey)
    (stamp : Time) : PointcloudMapper K :=
  match mapper.temporalVoxels.lookup key with
  | none => mapper
  | some state =>
      if state.lastMissScan = mapper.scanSequence then
        mapper
      else
        let state := state.lower cfg mapper.scanSequence stamp
        if state.logOdds ≤ cfg.clearingLogOdds then
          { mapper with
            temporalVoxels := mapper.temporalVoxels.erase key
            bayesianClearedVoxels := mapper.bayesianClearedVoxels + 1
            dirty := true }
        else
          { mapper with temporalVoxels := mapper.temporalVoxels.insert key state }

end PointcloudMapper

/-- The points that `for (index = 0; index < size; index += stride)` visits. -/
def strided {α : Type*} (stride : ℕ) (items : List α) : List α :=
  items.zipIdx.filterMap fun (item, index) =>
    if index % stride = 0 then some item else none

/-- `Eigen::Vector3d::norm`. -/
def Config.norm (cfg : Config K) (vector : Vector3 K) : K := cfg.sqrt vector.squaredNorm

variable [FloorRing K]

/-- `static_cast<int>` of a number without a fraction. -/
def Config.castInt (cfg : Config K) (value : ℤ) : ℤ :=
  if -2 ^ 31 ≤ value ∧ value < 2 ^ 31 then value else cfg.outsideInt value

/-- Keys of the samples of one ray, from the sensor outwards.  The two
`continue`s of `updateFreeSpace` are the empty lists. -/
def rayKeys (cfg : Config K) (sensorPosition : Vector3 K) (endpoint : Point K) :
    List VoxelKey :=
  let delta := endpoint.position - sensorPosition
  let fullRange := cfg.norm delta
  if fullRange ≤ cfg.rayEndpointMargin then
    []
  else
    let clearUntil := min cfg.maxClearingRange (fullRange - cfg.rayEndpointMargin)
    if clearUntil ≤ cfg.temporalVoxelSize then
      []
    else
      let direction := delta.divide fullRange
      let steps := (cfg.castInt ⌊clearUntil / cfg.temporalVoxelSize⌋).toNat
      (List.range' 1 steps).map fun step : ℕ =>
        voxelKey (sensorPosition + direction.scale (step * cfg.temporalVoxelSize))
          cfg.temporalVoxelSize

/-- The start value of `previous_key`. -/
def noPreviousKey : VoxelKey := ⟨-2 ^ 63, 0, 0⟩

namespace PointcloudMapper

/-- The sample loop of one ray, from the given `previous_key` on. -/
def clearRay (cfg : Config K) (occupiedThisScan : Finset VoxelKey) (stamp : Time) :
    VoxelKey → List VoxelKey → PointcloudMapper K → PointcloudMapper K
  | _, [], mapper => mapper
  | previousKey, key :: keys, mapper =>
      if key = previousKey then
        clearRay cfg occupiedThisScan stamp previousKey keys mapper
      else if key ∈ occupiedThisScan then
        clearRay cfg occupiedThisScan stamp key keys mapper
      else
        clearRay cfg occupiedThisScan stamp key keys (mapper.updateMiss cfg key stamp)

/-- `updateFreeSpace`. -/
def updateFreeSpace (cfg : Config K) (mapper : PointcloudMapper K)
    (sensorPosition : Vector3 K) (cloud : Cloud K) (occupiedThisScan : Finset VoxelKey)
    (stamp : Time) : PointcloudMapper K :=
  if !cfg.dynamicFilterEnable || cloud.isEmpty then
    mapper
  else
    (strided cfg.rayStride cloud).foldl
      (fun mapper endpoint =>
        mapper.clearRay cfg occupiedThisScan stamp noPreviousKey
          (rayKeys cfg sensorPosition endpoint))
      mapper

/-- The early return of `maybeCleanup` is not taken. -/
def cleanupDue (cfg : Config K) (mapper : PointcloudMapper K) (now : Time) : Bool :=
  !(!mapper.lastCleanup.isZero &&
    decide (toSec now mapper.lastCleanup < cfg.cleanupPeriod) &&
    decide (mapper.temporalVoxels.size ≤ cfg.maxVoxels))

/-- `maybeCleanup`. -/
def maybeCleanup (cfg : Config K) (mapper : PointcloudMapper K) (now : Time) :
    PointcloudMapper K :=
  if mapper.cleanupDue cfg now then
    { mapper with
      lastCleanup := now
      temporalVoxels := mapper.temporalVoxels.eraseIf fun _ state => state.expired cfg now }
  else
    mapper

end PointcloudMapper

end ScoutStack
