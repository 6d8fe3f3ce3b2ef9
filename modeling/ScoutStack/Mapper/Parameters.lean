import ScoutStack.Mapper.Types
import Mathlib.Tactic.NormNum

/-!
# Parameters of the mapper

`loadParameters` clamps what the parameter server holds.  The clamped values
are a structure that carries what the clamping guarantees, so every later
result may use those bounds without looking at the loader again.  `std::log` is
a parameter of the loader, described by its sign on both sides of one.
-/

namespace ScoutStack

/-- The values of the parameter server, with the defaults of `pnh_.param`. -/
structure RawParameters (K : Type*) [Field K] where
  inputCloud : String := "/cloud_registered"
  inputOdom : String := "/Odometry"
  staticScanTopic : String := "/scout/static_scan"
  staticMapTopic : String := "/scout/static_map_cloud"
  dynamicTopic : String := "/scout/dynamic_points"
  outputPath : String := "/tmp/filtered_camera_init.pcd"
  minRange : K := 1 / 2
  maxRange : K := 50
  scanVoxelSize : K := 1 / 10
  radiusFilterEnable : Bool := true
  radius : K := 1 / 5
  minNeighbors : ℤ := 2
  selfFilterEnable : Bool := false
  selfMinX : K := -55 / 100
  selfMaxX : K := 55 / 100
  selfMinY : K := -45 / 100
  selfMaxY : K := 45 / 100
  selfMinZ : K := -40 / 100
  selfMaxZ : K := 25 / 100
  dynamicFilterEnable : Bool := true
  temporalVoxelSize : K := 1 / 5
  hitProbability : K := 70 / 100
  missProbability : K := 40 / 100
  occupiedProbability : K := 72 / 100
  clearingProbability : K := 35 / 100
  minHitScans : ℤ := 8
  minObservationSpan : K := 2
  rayStride : ℤ := 4
  maxClearingRange : K := 20
  rayEndpointMargin : K := 30 / 100
  candidateTimeout : K := 3
  cleanupPeriod : K := 1
  maxVoxels : ℤ := 2000000
  mapVoxelSize : K := 5 / 100
  maxMapVoxels : ℤ := 5000000
  autosavePeriod : K := 30
  saveOnShutdown : Bool := true
  mapPublishPeriod : K := 2
  publishDynamic : Bool := false
  maxOdomAge : K := 1 / 5
  /-- `min_hit_scans` is read into an `int`. -/
  minHitScans_lt : minHitScans < 2 ^ 31 := by decide

/-- The members that `loadParameters` fills, with what its clamping guarantees. -/
structure Parameters (K : Type*) [Field K] [LinearOrder K] where
  inputCloud : String
  inputOdom : String
  staticScanTopic : String
  staticMapTopic : String
  dynamicTopic : String
  outputPath : String
  minRange : K
  maxRange : K
  scanVoxelSize : K
  radiusFilterEnable : Bool
  radius : K
  minNeighbors : ℤ
  selfFilterEnable : Bool
  selfMinX : K
  selfMaxX : K
  selfMinY : K
  selfMaxY : K
  selfMinZ : K
  selfMaxZ : K
  dynamicFilterEnable : Bool
  temporalVoxelSize : K
  hitLogOdds : K
  missLogOdds : K
  occupiedLogOdds : K
  clearingLogOdds : K
  minHitScans : ℕ
  minObservationSpan : K
  rayStride : ℕ
  maxClearingRange : K
  rayEndpointMargin : K
  candidateTimeout : K
  cleanupPeriod : K
  maxVoxels : ℕ
  mapVoxelSize : K
  maxMapVoxels : ℕ
  autosavePeriod : K
  saveOnShutdown : Bool
  mapPublishPeriod : K
  publishDynamic : Bool
  maxOdomAge : K
  minRange_nonneg : 0 ≤ minRange
  minRange_le_maxRange : minRange ≤ maxRange
  scanVoxelSize_ge : 1 / 100 ≤ scanVoxelSize
  temporalVoxelSize_ge : 1 / 100 ≤ temporalVoxelSize
  mapVoxelSize_ge : 1 / 100 ≤ mapVoxelSize
  hitLogOdds_pos : 0 < hitLogOdds
  missLogOdds_neg : missLogOdds < 0
  minHitScans_pos : 0 < minHitScans
  minHitScans_lt : minHitScans < 2 ^ 31
  minObservationSpan_nonneg : 0 ≤ minObservationSpan
  rayStride_pos : 0 < rayStride
  maxClearingRange_ge : temporalVoxelSize ≤ maxClearingRange
  rayEndpointMargin_ge : temporalVoxelSize ≤ rayEndpointMargin
  maxVoxels_pos : 0 < maxVoxels
  maxMapVoxels_pos : 0 < maxMapVoxels

variable {K : Type*} [Field K] [LinearOrder K]

/-- What the loader relies on of `std::log`: its sign on both sides of one. -/
structure LogSign (log : K → K) : Prop where
  pos : ∀ {x : K}, 1 < x → 0 < log x
  neg : ∀ {x : K}, 0 < x → x < 1 → log x < 0

/-- `clampProbability`. -/
def clampProbability (probability : K) : K :=
  max (1 / 1000) (min (999 / 1000) probability)

/-- `probabilityToLogOdds`. -/
def probabilityToLogOdds (log : K → K) (probability : K) : K :=
  log (probability / (1 - probability))

section Bounds

variable [IsStrictOrderedRing K]

theorem probabilityToLogOdds_pos {log : K → K} (sign : LogSign log) {probability : K}
    (above : 1 / 2 < probability) (below : probability < 1) :
    0 < probabilityToLogOdds log probability := by
  refine sign.pos ?_
  rw [one_lt_div (by linarith)]
  linarith

theorem probabilityToLogOdds_neg {log : K → K} (sign : LogSign log) {probability : K}
    (above : 0 < probability) (below : probability < 1 / 2) :
    probabilityToLogOdds log probability < 0 := by
  have complement : 0 < 1 - probability := by linarith
  refine sign.neg (div_pos above complement) ?_
  rw [div_lt_one complement]
  linarith

/-- The last check of `loadParameters`: both log-odds updates are taken from the
configured probabilities, or both from the defaults 0.70 and 0.40. -/
def checkedLogOdds (log : K → K) (hitProbability missProbability : K) : K × K :=
  let hitLogOdds := probabilityToLogOdds log (clampProbability hitProbability)
  let missLogOdds := probabilityToLogOdds log (clampProbability missProbability)
  if hitLogOdds ≤ 0 ∨ missLogOdds ≥ 0 then
    (probabilityToLogOdds log (70 / 100), probabilityToLogOdds log (40 / 100))
  else
    (hitLogOdds, missLogOdds)

theorem checkedLogOdds_sign {log : K → K} (sign : LogSign log)
    (hitProbability missProbability : K) :
    0 < (checkedLogOdds log hitProbability missProbability).1 ∧
      (checkedLogOdds log hitProbability missProbability).2 < 0 := by
  unfold checkedLogOdds
  dsimp only
  split
  next =>
    exact ⟨probabilityToLogOdds_pos sign (by norm_num) (by norm_num),
      probabilityToLogOdds_neg sign (by norm_num) (by norm_num)⟩
  next valid =>
    rw [not_or, not_le, ge_iff_le, not_le] at valid
    exact valid

/-- `loadParameters`. -/
def loadParameters (log : K → K) (sign : LogSign log) (raw : RawParameters K) :
    Parameters K where
  inputCloud := raw.inputCloud
  inputOdom := raw.inputOdom
  staticScanTopic := raw.staticScanTopic
  staticMapTopic := raw.staticMapTopic
  dynamicTopic := raw.dynamicTopic
  outputPath := raw.outputPath
  minRange := max 0 raw.minRange
  maxRange := max (max 0 raw.minRange) raw.maxRange
  scanVoxelSize := max (1 / 100) raw.scanVoxelSize
  radiusFilterEnable := raw.radiusFilterEnable
  radius := raw.radius
  minNeighbors := raw.minNeighbors
  selfFilterEnable := raw.selfFilterEnable
  selfMinX := raw.selfMinX
  selfMaxX := raw.selfMaxX
  selfMinY := raw.selfMinY
  selfMaxY := raw.selfMaxY
  selfMinZ := raw.selfMinZ
  selfMaxZ := raw.selfMaxZ
  dynamicFilterEnable := raw.dynamicFilterEnable
  temporalVoxelSize := max (1 / 100) raw.temporalVoxelSize
  hitLogOdds := (checkedLogOdds log raw.hitProbability raw.missProbability).1
  missLogOdds := (checkedLogOdds log raw.hitProbability raw.missProbability).2
  occupiedLogOdds := probabilityToLogOdds log (clampProbability raw.occupiedProbability)
  clearingLogOdds := probabilityToLogOdds log (clampProbability raw.clearingProbability)
  minHitScans := (max 1 raw.minHitScans).toNat
  minObservationSpan := max 0 raw.minObservationSpan
  rayStride := (max 1 raw.rayStride).toNat
  maxClearingRange := max (max (1 / 100) raw.temporalVoxelSize) raw.maxClearingRange
  rayEndpointMargin := max (max (1 / 100) raw.temporalVoxelSize) raw.rayEndpointMargin
  candidateTimeout := raw.candidateTimeout
  cleanupPeriod := raw.cleanupPeriod
  maxVoxels := (max 1 raw.maxVoxels).toNat
  mapVoxelSize := max (1 / 100) raw.mapVoxelSize
  maxMapVoxels := (max 1 raw.maxMapVoxels).toNat
  autosavePeriod := max 1 raw.autosavePeriod
  saveOnShutdown := raw.saveOnShutdown
  mapPublishPeriod := max (1 / 10) raw.mapPublishPeriod
  publishDynamic := raw.publishDynamic
  maxOdomAge := raw.maxOdomAge
  minRange_nonneg := le_max_left _ _
  minRange_le_maxRange := le_max_left _ _
  scanVoxelSize_ge := le_max_left _ _
  temporalVoxelSize_ge := le_max_left _ _
  mapVoxelSize_ge := le_max_left _ _
  hitLogOdds_pos := (checkedLogOdds_sign sign _ _).1
  missLogOdds_neg := (checkedLogOdds_sign sign _ _).2
  minHitScans_pos := by omega
  minHitScans_lt := by have bound := raw.minHitScans_lt; omega
  minObservationSpan_nonneg := le_max_left _ _
  rayStride_pos := by omega
  maxClearingRange_ge := le_max_left _ _
  rayEndpointMargin_ge := le_max_left _ _
  maxVoxels_pos := by omega
  maxMapVoxels_pos := by omega

end Bounds

namespace Parameters

variable [IsStrictOrderedRing K] (parameters : Parameters K)

theorem temporalVoxelSize_pos : 0 < parameters.temporalVoxelSize :=
  lt_of_lt_of_le (by norm_num) parameters.temporalVoxelSize_ge

theorem mapVoxelSize_pos : 0 < parameters.mapVoxelSize :=
  lt_of_lt_of_le (by norm_num) parameters.mapVoxelSize_ge

end Parameters

end ScoutStack
