import ScoutStack.Lib.Table
import ScoutStack.Mapper.Parameters

/-!
# State of the mapper

The two voxel tables and the members of `PointcloudMapper` that callbacks read
or write, with the operations on a single occupancy voxel.  Counters and scan
markers keep their C++ widths.
-/

namespace ScoutStack

/-- `std::numeric_limits<uint64_t>::max()`, the marker of a voxel that no scan
has touched. -/
def unmarked : UInt64 := 18446744073709551615

/-- `OccupancyVoxelState`. -/
@[ext] structure OccupancyVoxelState (K : Type*) [Field K] where
  logOdds : K := 0
  hitScans : UInt32 := 0
  missScans : UInt32 := 0
  lastHitScan : UInt64 := unmarked
  lastMissScan : UInt64 := unmarked
  firstHit : Time := 0
  lastHit : Time := 0
  lastSeen : Time := 0
  generation : UInt64 := 0
  deriving DecidableEq

/-- `MapVoxelState`. -/
@[ext] structure MapVoxelState (K : Type*) [Field K] where
  sum : Vector3 K := 0
  intensitySum : K := 0
  sampleCount : UInt32 := 0
  occupancyKey : VoxelKey := ⟨0, 0, 0⟩
  occupancyGeneration : UInt64 := 0
  deriving DecidableEq

/-- The loaded parameters together with the library functions the node calls:
`std::sqrt` under the Eigen norms, the two PCL filters, and
`path::has_parent_path`.  `outsideInt` is what a cast to `int` makes of a number that
`int` does not hold, which C++ leaves open. -/
structure Config (K : Type*) [Field K] [LinearOrder K] extends Parameters K where
  sqrt : K → K
  outsideInt : ℤ → ℤ
  voxelGrid : K → Cloud K → Cloud K
  radiusOutlierRemoval : K → ℤ → Cloud K → Cloud K
  hasParentPath : String → Bool

/-- The members of `PointcloudMapper` that change while the node runs. -/
@[ext] structure PointcloudMapper (K : Type*) [Field K] where
  latestOdom : Odometry K := ⟨⟨0, ""⟩, 0, ⟨0, 0, 0, 0⟩⟩
  haveOdom : Bool := false
  frameId : String := ""
  scanSequence : UInt64 := 0
  nextOccupancyGeneration : UInt64 := 1
  bayesianClearedVoxels : UInt64 := 0
  lastCleanup : Time := 0
  lastCloudStamp : Time := 0
  dirty : Bool := false
  temporalVoxels : Table VoxelKey (OccupancyVoxelState K) := ∅
  mapVoxels : Table VoxelKey (MapVoxelState K) := ∅

variable {K : Type*} [Field K] [LinearOrder K]

/-- `min_log_odds_`. -/
def minLogOdds : K := -4

/-- `max_log_odds_`. -/
def maxLogOdds : K := 4

/-- `isStatic`. -/
def isStatic (cfg : Config K) (state : OccupancyVoxelState K) : Bool :=
  if !cfg.dynamicFilterEnable then
    true
  else if state.hitScans < UInt32.ofNat cfg.minHitScans ||
      decide (state.logOdds < cfg.occupiedLogOdds) || state.firstHit.isZero ||
      state.lastHit.isZero then
    false
  else
    decide (toSec state.lastHit state.firstHit ≥ cfg.minObservationSpan)

private theorem toNat_minHitScans (cfg : Config K) :
    (UInt32.ofNat cfg.minHitScans).toNat = cfg.minHitScans := by
  have bound := cfg.minHitScans_lt
  rw [UInt32.toNat_ofNat']
  exact Nat.mod_eq_of_lt (by omega)

/-- With the dynamic filter on, a voxel is static when every test passes. -/
theorem isStatic_iff {cfg : Config K} (enabled : cfg.dynamicFilterEnable = true)
    (state : OccupancyVoxelState K) :
    isStatic cfg state = true ↔
      cfg.minHitScans ≤ state.hitScans.toNat ∧ cfg.occupiedLogOdds ≤ state.logOdds ∧
        state.firstHit ≠ 0 ∧ state.lastHit ≠ 0 ∧
        cfg.minObservationSpan ≤ toSec state.lastHit state.firstHit := by
  have count : state.hitScans < UInt32.ofNat cfg.minHitScans ↔
      state.hitScans.toNat < cfg.minHitScans := by
    rw [UInt32.lt_iff_toNat_lt, toNat_minHitScans]
  simp [isStatic, enabled, Time.isZero, count, and_assoc]

namespace OccupancyVoxelState

/-- What `updateHit` does to an entry in scan number `scan`. -/
def hit (cfg : Config K) (scan : UInt64) (stamp : Time) (state : OccupancyVoxelState K) :
    OccupancyVoxelState K :=
  if state.lastHitScan = scan then
    { state with lastSeen := stamp }
  else
    { state with
      lastSeen := stamp
      lastHitScan := scan
      logOdds := min maxLogOdds (state.logOdds + cfg.hitLogOdds)
      hitScans := state.hitScans + 1
      firstHit := if state.firstHit.isZero then stamp else state.firstHit
      lastHit := stamp }

/-- The evidence that `updateMiss` adds to an entry the scan has not missed yet. -/
def lower (cfg : Config K) (scan : UInt64) (stamp : Time) (state : OccupancyVoxelState K) :
    OccupancyVoxelState K :=
  { state with
    lastMissScan := scan
    lastSeen := stamp
    logOdds := max minLogOdds (state.logOdds + cfg.missLogOdds)
    missScans := state.missScans + 1 }

/-- What `updateMiss` leaves of an entry; `none` when the entry is cleared. -/
def miss (cfg : Config K) (scan : UInt64) (stamp : Time) (state : OccupancyVoxelState K) :
    Option (OccupancyVoxelState K) :=
  if state.lastMissScan = scan then
    some state
  else if (state.lower cfg scan stamp).logOdds ≤ cfg.clearingLogOdds then
    none
  else
    some (state.lower cfg scan stamp)

/-- The `expired` test of `maybeCleanup`. -/
def expired (cfg : Config K) (now : Time) (state : OccupancyVoxelState K) : Bool :=
  !isStatic cfg state && !state.lastSeen.isZero &&
    decide (toSec now state.lastSeen > cfg.candidateTimeout)

@[simp] theorem hit_generation (cfg : Config K) (scan : UInt64) (stamp : Time)
    (state : OccupancyVoxelState K) :
    (state.hit cfg scan stamp).generation = state.generation := by
  unfold hit
  split <;> rfl

@[simp] theorem hit_lastSeen (cfg : Config K) (scan : UInt64) (stamp : Time)
    (state : OccupancyVoxelState K) : (state.hit cfg scan stamp).lastSeen = stamp := by
  unfold hit
  split <;> rfl

@[simp] theorem hit_lastHitScan (cfg : Config K) (scan : UInt64) (stamp : Time)
    (state : OccupancyVoxelState K) : (state.hit cfg scan stamp).lastHitScan = scan := by
  unfold hit
  split
  next marked => exact marked
  next => rfl

@[simp] theorem hit_lastMissScan (cfg : Config K) (scan : UInt64) (stamp : Time)
    (state : OccupancyVoxelState K) :
    (state.hit cfg scan stamp).lastMissScan = state.lastMissScan := by
  unfold hit
  split <;> rfl

/-- The first hit in a scan. -/
theorem hit_of_unmarked (cfg : Config K) {scan : UInt64} (stamp : Time)
    {state : OccupancyVoxelState K} (unmarkedHit : state.lastHitScan ≠ scan) :
    state.hit cfg scan stamp =
      { state with
        lastSeen := stamp
        lastHitScan := scan
        logOdds := min maxLogOdds (state.logOdds + cfg.hitLogOdds)
        hitScans := state.hitScans + 1
        firstHit := if state.firstHit = 0 then stamp else state.firstHit
        lastHit := stamp } := by
  rw [hit, if_neg unmarkedHit]
  simp only [Time.isZero, beq_iff_eq]

/-- A second hit in the same scan changes nothing. -/
@[simp] theorem hit_hit (cfg : Config K) (scan : UInt64) (stamp : Time)
    (state : OccupancyVoxelState K) :
    (state.hit cfg scan stamp).hit cfg scan stamp = state.hit cfg scan stamp := by
  have marked := hit_lastHitScan cfg scan stamp state
  rw [hit, if_pos marked]
  ext <;> simp

/-- What a miss leaves of an entry it does not clear. -/
theorem miss_eq_some {cfg : Config K} {scan : UInt64} {stamp : Time}
    {state left : OccupancyVoxelState K} (missed : state.miss cfg scan stamp = some left) :
    left = state ∨ left = state.lower cfg scan stamp := by
  unfold miss at missed
  split at missed
  next => exact .inl (Option.some.inj missed).symm
  next =>
    split at missed
    next => cases missed
    next => exact .inr (Option.some.inj missed).symm

theorem miss_generation {cfg : Config K} {scan : UInt64} {stamp : Time}
    {state left : OccupancyVoxelState K} (missed : state.miss cfg scan stamp = some left) :
    left.generation = state.generation := by
  rcases miss_eq_some missed with rfl | rfl <;> rfl

theorem miss_lastMissScan {cfg : Config K} {scan : UInt64} {stamp : Time}
    {state left : OccupancyVoxelState K} (missed : state.miss cfg scan stamp = some left) :
    left.lastMissScan = scan := by
  unfold miss at missed
  split at missed
  next marked =>
    cases missed
    exact marked
  next =>
    split at missed
    next => cases missed
    next =>
      cases missed
      rfl

/-- A second miss in the same scan changes nothing. -/
theorem miss_bind_miss (cfg : Config K) (scan : UInt64) (stamp : Time)
    (state : OccupancyVoxelState K) :
    (state.miss cfg scan stamp).bind (miss cfg scan stamp) = state.miss cfg scan stamp := by
  cases missed : state.miss cfg scan stamp with
  | none => rfl
  | some left =>
      rw [Option.bind_some, miss, if_pos (miss_lastMissScan missed)]

end OccupancyVoxelState

end ScoutStack
