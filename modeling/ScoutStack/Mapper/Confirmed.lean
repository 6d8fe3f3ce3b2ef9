import ScoutStack.Mapper.Rational
import ScoutStack.Mapper.Transition

/-!
# Confirmed voxels

While stamps do not decrease, a static voxel is only ever lost to a miss or a
reset.  A hit keeps it static because the log-odds never exceed the saturation
limit, the last hit never lies ahead of the clock and the hit counter never
exceeds the number of scans that hit the voxel.
-/

namespace ScoutStack

variable {K : Type*} [Field K] [LinearOrder K]

/-- The bounds of the saturating log-odds. -/
def OccupancyVoxelState.Saturated (state : OccupancyVoxelState K) : Prop :=
  -4 ≤ state.logOdds ∧ state.logOdds ≤ 4

section Saturation

variable [IsStrictOrderedRing K] {state : OccupancyVoxelState K}

theorem saturated_fresh (generation : UInt64) :
    OccupancyVoxelState.Saturated ({ generation := generation } : OccupancyVoxelState K) := by
  constructor
  · change (-4 : K) ≤ 0
    norm_num
  · change (0 : K) ≤ 4
    norm_num

theorem OccupancyVoxelState.Saturated.hit (saturated : state.Saturated) (cfg : Config K)
    (scan : UInt64) (stamp : Time) :
    (state.hit cfg scan stamp).Saturated := by
  have positive := cfg.hitLogOdds_pos
  have low := saturated.1
  unfold OccupancyVoxelState.hit
  split
  next => exact saturated
  next =>
    constructor
    · refine le_min ?_ ?_
      · change (-4 : K) ≤ 4
        norm_num
      · linarith
    · exact min_le_left _ _

theorem OccupancyVoxelState.Saturated.lower (saturated : state.Saturated) (cfg : Config K)
    (scan : UInt64) (stamp : Time) :
    (state.lower cfg scan stamp).Saturated := by
  have negative := cfg.missLogOdds_neg
  have high := saturated.2
  constructor
  · exact le_max_left _ _
  · refine max_le ?_ ?_
    · change (-4 : K) ≤ 4
      norm_num
    · linarith

end Saturation

/-! ## A hit on a static voxel -/

section Static

variable [IsStrictOrderedRing K] {cfg : Config K} {state : OccupancyVoxelState K}

/-- A hit that is not behind the last one keeps a static voxel static, as long as
the hit counter has room. -/
theorem isStatic_hit (enabled : cfg.dynamicFilterEnable = true) (scan : UInt64) {stamp : Time}
    (static : isStatic cfg state = true) (bounded : state.logOdds ≤ 4)
    (ordered : state.lastHit ≤ stamp) (room : state.hitScans.toNat + 1 < 2 ^ 32) :
    isStatic cfg (state.hit cfg scan stamp) = true := by
  have positive := cfg.hitLogOdds_pos
  rw [isStatic_iff enabled] at static
  obtain ⟨enough, occupied, started, ended, span⟩ := static
  rw [isStatic_iff enabled]
  have advanced : (state.hitScans + 1).toNat = state.hitScans.toNat + 1 := by
    rw [UInt32.toNat_add, UInt32.toNat_one]
    exact Nat.mod_eq_of_lt room
  have later : (toSec state.lastHit state.firstHit : K) ≤ toSec stamp state.firstHit :=
    toSec_le_toSec_left _ ordered
  have stamped : stamp ≠ 0 := by
    intro zero
    rw [zero] at ordered
    exact ended (Nat.le_zero.mp ordered)
  have keepsFirst : (if state.firstHit.isZero then stamp else state.firstHit) =
      state.firstHit := by
    simp [Time.isZero, started]
  unfold OccupancyVoxelState.hit
  split
  next => exact ⟨enough, occupied, started, ended, span⟩
  next =>
    dsimp only
    rw [advanced, keepsFirst]
    refine ⟨by omega, le_min ?_ ?_, started, stamped, span.trans later⟩
    · exact occupied.trans bounded
    · linarith

omit [IsStrictOrderedRing K] in
/-- A sweep never erases a static voxel. -/
theorem expired_of_isStatic (static : isStatic cfg state = true) (now : Time) :
    state.expired cfg now = false := by
  simp [OccupancyVoxelState.expired, static]

end Static

/-- The voxel at the key is live and static. -/
def PointcloudMapper.staticAt (cfg : Config K) (mapper : PointcloudMapper K)
    (key : VoxelKey) : Bool :=
  (mapper.temporalVoxels.lookup key).any (isStatic cfg)

theorem PointcloudMapper.staticAt_iff {cfg : Config K} {mapper : PointcloudMapper K}
    {key : VoxelKey} :
    mapper.staticAt cfg key = true ↔
      ∃ state, mapper.temporalVoxels.lookup key = some state ∧ isStatic cfg state = true :=
  Option.any_eq_true _ _

variable [FloorRing K]

/-! ## What a run guarantees of one entry -/

/-- Number of scans that hit a coarse key. -/
def hitCount (cfg : Config K) (key : VoxelKey) (scans : List (Scan K)) : ℕ :=
  scans.countP fun scan => key ∈ occupiedThisScan cfg scan

/-- The stamps of the scans do not decrease. -/
def Chronological (scans : List (Scan K)) : Prop :=
  scans.Pairwise fun earlier later => earlier.header.stamp ≤ later.header.stamp

instance (scans : List (Scan K)) : Decidable (Chronological scans) :=
  inferInstanceAs (Decidable (List.Pairwise _ _))

/-- A time is unset or the stamp of one of the scans. -/
def StampOf (scans : List (Scan K)) (time : Time) : Prop :=
  time = 0 ∨ ∃ scan ∈ scans, scan.header.stamp = time

omit [Field K] [LinearOrder K] [FloorRing K] in
theorem StampOf.extend {scans : List (Scan K)} {time : Time} (stamped : StampOf scans time)
    (scan : Scan K) : StampOf (scans ++ [scan]) time := by
  rcases stamped with never | ⟨old, member, same⟩
  · exact .inl never
  · exact .inr ⟨old, List.mem_append_left _ member, same⟩

omit [Field K] [LinearOrder K] [FloorRing K] in
/-- While stamps do not decrease, such a time never lies ahead of the next scan. -/
theorem StampOf.le {scans : List (Scan K)} {time : Time} (stamped : StampOf scans time)
    {scan : Scan K} (ordered : Chronological (scans ++ [scan])) : time ≤ scan.header.stamp := by
  rcases stamped with never | ⟨old, member, same⟩
  · rw [never]
    exact Nat.zero_le _
  · rw [← same]
    exact (List.pairwise_append.mp ordered).2.2 old member scan (by simp)

/-- An entry agrees with the scans accepted so far: its log-odds are saturated,
its first and last hits are stamps of some of them, and it has counted no more
hits than they made. -/
structure Recorded (cfg : Config K) (key : VoxelKey) (scans : List (Scan K))
    (state : OccupancyVoxelState K) : Prop where
  saturated : state.Saturated
  firstHit : StampOf scans state.firstHit
  lastHit : StampOf scans state.lastHit
  hitScans : state.hitScans.toNat ≤ hitCount cfg key scans

theorem hitCount_concat_of_mem {cfg : Config K} {key : VoxelKey} {scans : List (Scan K)}
    {scan : Scan K} (isHit : key ∈ occupiedThisScan cfg scan) :
    hitCount cfg key (scans ++ [scan]) = hitCount cfg key scans + 1 := by
  simp [hitCount, isHit]

theorem hitCount_le_of_front (cfg : Config K) (key : VoxelKey) {front scans : List (Scan K)}
    (isFront : front <+: scans) : hitCount cfg key front ≤ hitCount cfg key scans :=
  isFront.sublist.countP_le

omit [Field K] [LinearOrder K] [FloorRing K] in
theorem Chronological.of_front {front scans : List (Scan K)} (ordered : Chronological scans)
    (isFront : front <+: scans) : Chronological front :=
  List.Pairwise.sublist isFront.sublist ordered

section Recorded

variable {cfg : Config K} {key : VoxelKey} {scans : List (Scan K)} {scan : Scan K}
  {number : UInt64} {state : OccupancyVoxelState K}

theorem Recorded.extend (recorded : Recorded cfg key scans state) (scan : Scan K) :
    Recorded cfg key (scans ++ [scan]) state where
  saturated := recorded.saturated
  firstHit := recorded.firstHit.extend scan
  lastHit := recorded.lastHit.extend scan
  hitScans := recorded.hitScans.trans (hitCount_le_of_front _ _ (List.prefix_append _ _))

variable [IsStrictOrderedRing K]

theorem Recorded.hit (recorded : Recorded cfg key scans state)
    (isHit : key ∈ occupiedThisScan cfg scan) :
    Recorded cfg key (scans ++ [scan]) (state.hit cfg number scan.header.stamp) := by
  have saturated := recorded.saturated.hit cfg number scan.header.stamp
  have counted := recorded.hitScans
  have extended := recorded.extend scan
  unfold OccupancyVoxelState.hit at saturated ⊢
  split at saturated
  next marked =>
    rw [if_pos marked]
    exact ⟨saturated, extended.firstHit, extended.lastHit, extended.hitScans⟩
  next unmarkedHit =>
    rw [if_neg unmarkedHit]
    have now : StampOf (scans ++ [scan]) scan.header.stamp := .inr ⟨scan, by simp, rfl⟩
    refine ⟨saturated, ?_, now, ?_⟩
    · dsimp only
      split
      next => exact now
      next => exact extended.firstHit
    rw [hitCount_concat_of_mem isHit]
    dsimp only
    rw [UInt32.toNat_add, UInt32.toNat_one]
    exact (Nat.mod_le _ _).trans (by omega)

/-- Every entry of every reachable state is recorded. -/
theorem recorded_run (enabled : cfg.dynamicFilterEnable = true) {callbacks : List (Callback K)}
    (found : (run cfg callbacks).temporalVoxels.lookup key = some state) :
    Recorded cfg key (scansFrom cfg {} callbacks) state := by
  refine entry_run enabled (Recorded cfg key) ?_ ?_ ?_ ?_ found
  · intro scans generation
    exact ⟨saturated_fresh generation, .inl rfl, .inl rfl, Nat.zero_le _⟩
  · intro scans scan number current isHit recorded
    exact recorded.hit isHit
  · intro scans scan number current _ recorded
    have extended := recorded.extend scan
    exact ⟨recorded.saturated.lower cfg number scan.header.stamp, extended.firstHit,
      extended.lastHit, extended.hitScans⟩
  · intro scans scan current recorded
    exact recorded.extend scan

end Recorded

/-! ## Static voxels along a run -/

section Persistence

variable [IsStrictOrderedRing K] {cfg : Config K} {key : VoxelKey}

/-- The entry at the key is live and static, with the given generation. -/
def Confirmed (cfg : Config K) (key : VoxelKey) (generation : UInt64)
    (mapper : PointcloudMapper K) : Prop :=
  ∃ state, mapper.temporalVoxels.lookup key = some state ∧
    state.generation = generation ∧ isStatic cfg state = true

omit [IsStrictOrderedRing K] in
/-- An entry that the loops of a scan leave static is still there after the sweep. -/
theorem confirmed_processScan {mapper : PointcloudMapper K} {scan : Scan K}
    {generation : UInt64} {state : OccupancyVoxelState K}
    (absorbed : (absorbScan cfg mapper scan).temporalVoxels.lookup key = some state)
    (sameLife : state.generation = generation) (static : isStatic cfg state = true) :
    Confirmed cfg key generation (processScan cfg mapper scan) := by
  have kept : (!((absorbScan cfg mapper scan).cleanupDue cfg scan.header.stamp &&
      state.expired cfg scan.header.stamp)) = true := by
    rw [expired_of_isStatic static, Bool.and_false]
    rfl
  have found : (processScan cfg mapper scan).temporalVoxels.lookup key = some state := by
    rw [processScan, lookup_maybeCleanup, absorbed]
    exact Option.filter_some_pos kept
  exact ⟨state, found, sameLife, static⟩

/-- A scan that does not miss a static voxel keeps it. -/
theorem Confirmed.processScan (enabled : cfg.dynamicFilterEnable = true)
    {mapper : PointcloudMapper K} {scans : List (Scan K)} {scan : Scan K} {generation : UInt64}
    (confirmed : Confirmed cfg key generation mapper)
    (recorded : ∀ state, mapper.temporalVoxels.lookup key = some state →
      Recorded cfg key scans state)
    (ordered : Chronological (scans ++ [scan]))
    (fewHits : hitCount cfg key (scans ++ [scan]) < 2 ^ 32)
    (unmissed : key ∉ missedKeys cfg scan) :
    Confirmed cfg key generation (ScoutStack.processScan cfg mapper scan) := by
  obtain ⟨state, found, sameLife, static⟩ := confirmed
  have record := recorded state found
  obtain ⟨created, absorbed⟩ := lookup_absorbScan enabled mapper scan key
  rw [found] at absorbed
  cases isEvidence : evidence cfg scan key with
  | hit =>
      rw [isEvidence] at absorbed
      have counted := record.hitScans
      rw [hitCount_concat_of_mem (evidence_eq_hit_iff.mp isEvidence)] at fewHits
      have room : state.hitScans.toNat + 1 < 2 ^ 32 := by omega
      have stillStatic := isStatic_hit enabled (mapper.scanSequence + 1) static
        record.saturated.2 (record.lastHit.le ordered) room
      exact confirmed_processScan absorbed
        ((OccupancyVoxelState.hit_generation _ _ _ _).trans sameLife) stillStatic
  | miss => exact absurd (evidence_eq_miss_iff.mp isEvidence) unmissed
  | none =>
      rw [isEvidence] at absorbed
      exact confirmed_processScan absorbed sameLife static

/-- While stamps do not decrease, a voxel that is live and static stays live and
static in the same generation until a scan misses it or the map is reset. -/
theorem isStatic_until_missed (enabled : cfg.dynamicFilterEnable = true)
    {before after : List (Callback K)} {state : OccupancyVoxelState K}
    (ordered : Chronological (scansFrom cfg {} (before ++ after)))
    (fewHits : hitCount cfg key (scansFrom cfg {} (before ++ after)) < 2 ^ 32)
    (found : (run cfg before).temporalVoxels.lookup key = some state)
    (static : isStatic cfg state = true)
    (noReset : ∀ callback ∈ after, callback ≠ .resetMap)
    (unmissed : ∀ scan ∈ scansFrom cfg (run cfg before) after, key ∉ missedKeys cfg scan) :
    ∃ later, (run cfg (before ++ after)).temporalVoxels.lookup key = some later ∧
      later.generation = state.generation ∧ isStatic cfg later = true := by
  apply slot_run fun _ slot => ∃ later, slot = some later ∧
    later.generation = state.generation ∧ isStatic cfg later = true
  · exact ⟨state, found, rfl, static⟩
  · intro callbacks msg scan front accepted confirmed
    have scansFront := scansFrom_front [] (append_front front) accepted
    have member : scan ∈ scansFrom cfg (run cfg before) after :=
      (scansFrom_front before front accepted).subset (by simp)
    exact Confirmed.processScan enabled confirmed (fun _ present => recorded_run enabled present)
      (ordered.of_front scansFront)
      ((hitCount_le_of_front cfg key scansFront).trans_lt fewHits) (unmissed scan member)
  · intro reset
    exact absurd rfl (noReset .resetMap reset)

end Persistence

/-- Two hits that confirm a voxel. -/
def confirmedHistory : List (Callback ℚ) :=
  unitHistory ++ [cloudAt 1 [⟨5 / 2, 1 / 2, 1 / 2⟩]]

/-- Ten seconds later the sensor looks elsewhere and the map is published. -/
def unobservedHistory : List (Callback ℚ) :=
  [odometryAt (10 ^ 10) ⟨0, 1 / 2, 1 / 2⟩, cloudAt (10 ^ 10) [⟨0, 9 / 2, 1 / 2⟩],
    .publishMapTimer]

theorem isStatic_until_missed_unit : ∃ later,
    (run unitConfig (confirmedHistory ++ unobservedHistory)).temporalVoxels.lookup ⟨2, 0, 0⟩ =
        some later ∧
      later.generation = 1 ∧ isStatic unitConfig later = true := by
  have found : (run unitConfig confirmedHistory).temporalVoxels.lookup ⟨2, 0, 0⟩ =
      some ⟨2, 2, 0, 2, unmarked, 1, 1, 1, 1⟩ := by decide +kernel
  refine isStatic_until_missed rfl ?_ ?_ found ?_ ?_ ?_
  · decide +kernel
  · decide +kernel
  · decide +kernel
  · simp [unobservedHistory, odometryAt, cloudAt]
  · decide +kernel

end ScoutStack
