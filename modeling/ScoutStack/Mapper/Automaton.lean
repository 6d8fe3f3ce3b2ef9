import ScoutStack.Mapper.Rational
import ScoutStack.Mapper.Transition

/-!
# The coarse table as one Bayesian automaton per voxel

The reference is an automaton for a single coarse key.  It reads one symbol per
accepted scan, has no scan markers and no tables, and knows nothing of the other
voxels.  A simulation over whole runs shows that the entry of the table at the
key is the state of this automaton.
-/

namespace ScoutStack

variable {K : Type*} [Field K] [LinearOrder K]

/-- State of the automaton of a voxel that exists. -/
@[ext] structure Belief (K : Type*) where
  logOdds : K
  hitScans : UInt32
  missScans : UInt32
  firstHit : Time
  lastHit : Time
  lastSeen : Time
  deriving DecidableEq

namespace Belief

/-- A voxel that has just been created. -/
def fresh : Belief K := ⟨0, 0, 0, 0, 0, 0⟩

/-- Symbol `H`. -/
def hit (cfg : Config K) (stamp : Time) (belief : Belief K) : Belief K :=
  { belief with
    logOdds := min 4 (belief.logOdds + cfg.hitLogOdds)
    hitScans := belief.hitScans + 1
    firstHit := if belief.firstHit = 0 then stamp else belief.firstHit
    lastHit := stamp
    lastSeen := stamp }

/-- Symbol `M`. -/
def miss (cfg : Config K) (stamp : Time) (belief : Belief K) : Option (Belief K) :=
  let lowered := max (-4) (belief.logOdds + cfg.missLogOdds)
  if lowered ≤ cfg.clearingLogOdds then
    none
  else
    some { belief with
      logOdds := lowered
      missScans := belief.missScans + 1
      lastSeen := stamp }

/-- Confirmed: enough hits, enough evidence, observed long enough. -/
def Confirmed (cfg : Config K) (belief : Belief K) : Prop :=
  cfg.minHitScans ≤ belief.hitScans.toNat ∧ cfg.occupiedLogOdds ≤ belief.logOdds ∧
    belief.firstHit ≠ 0 ∧ belief.lastHit ≠ 0 ∧
    cfg.minObservationSpan ≤ toSec belief.lastHit belief.firstHit

instance (cfg : Config K) (belief : Belief K) : Decidable (belief.Confirmed cfg) :=
  inferInstanceAs (Decidable (_ ∧ _))

/-- Not confirmed, and not seen for longer than the candidate timeout. -/
def Outdated (cfg : Config K) (now : Time) (belief : Belief K) : Prop :=
  ¬belief.Confirmed cfg ∧ belief.lastSeen ≠ 0 ∧
    cfg.candidateTimeout < toSec now belief.lastSeen

instance (cfg : Config K) (now : Time) (belief : Belief K) :
    Decidable (belief.Outdated cfg now) :=
  inferInstanceAs (Decidable (_ ∧ _))

end Belief

/-- One input of the automaton: the evidence of an accepted scan with its stamp,
and whether the scan ends in a sweep; or a reset. -/
inductive Symbol where
  | scan (evidence : Evidence) (stamp : Time) (sweep : Bool)
  | reset
  deriving DecidableEq

/-- The evidence of a scan, before the sweep. -/
def Belief.observe (cfg : Config K) (stamp : Time) :
    Option (Belief K) → Evidence → Option (Belief K)
  | voxel, .hit => some ((voxel.getD Belief.fresh).hit cfg stamp)
  | voxel, .miss => voxel.bind (Belief.miss cfg stamp)
  | voxel, .none => voxel

/-- The automaton of one voxel; `none` is the absent voxel. -/
def automaton (cfg : Config K) (voxel : Option (Belief K)) : Symbol → Option (Belief K)
  | .scan evidence stamp sweep =>
      (Belief.observe cfg stamp voxel evidence).filter
        fun belief => !(sweep && decide (belief.Outdated cfg stamp))
  | .reset => none

variable [FloorRing K]

/-- The symbol of a scan for a key: a hit when some filtered point has the key,
otherwise a miss when some sample of a traced ray has it. -/
def observed (cfg : Config K) (scan : Scan K) (key : VoxelKey) : Evidence :=
  if key ∈ scan.filtered.map (coarseKey cfg) then .hit
  else if key ∈ (tracedRays cfg scan).flatMap (rayKeys cfg scan.position) then .miss
  else .none

/-- The symbols that one callback feeds to the automaton of a key. -/
def symbols (cfg : Config K) (key : VoxelKey) (mapper : PointcloudMapper K) :
    Callback K → List Symbol
  | .cloud msg =>
      (acceptScan cfg mapper msg).toList.map fun scan =>
        .scan (observed cfg scan key) scan.header.stamp (sweeps cfg mapper scan)
  | .resetMap => [.reset]
  | .odometry _ | .publishMapTimer | .saveMap _ | .autosaveTimer _ => []

/-- The automaton of a key after a run of the node. -/
def automatonRun (cfg : Config K) (key : VoxelKey) (callbacks : List (Callback K)) :
    Option (Belief K) :=
  (Machine.collect (step cfg) (symbols cfg key) {} callbacks).foldl (automaton cfg) none

/-- The observable fields of an entry. -/
def OccupancyVoxelState.belief (state : OccupancyVoxelState K) : Belief K :=
  ⟨state.logOdds, state.hitScans, state.missScans, state.firstHit, state.lastHit,
    state.lastSeen⟩

/-- The entry of the coarse table at a key, as a belief. -/
def PointcloudMapper.beliefAt (mapper : PointcloudMapper K) (key : VoxelKey) :
    Option (Belief K) :=
  (mapper.temporalVoxels.lookup key).map OccupancyVoxelState.belief

/-! ## One entry -/

section Entry

omit [FloorRing K]

variable {cfg : Config K} {scan : UInt64} {stamp : Time} {state : OccupancyVoxelState K}

theorem belief_hit (unmarkedHit : state.lastHitScan ≠ scan) :
    (state.hit cfg scan stamp).belief = state.belief.hit cfg stamp := by
  rw [OccupancyVoxelState.hit_of_unmarked cfg stamp unmarkedHit]
  rfl

theorem belief_miss (unmarkedMiss : state.lastMissScan ≠ scan) :
    (state.miss cfg scan stamp).map OccupancyVoxelState.belief =
      state.belief.miss cfg stamp := by
  rw [OccupancyVoxelState.miss, if_neg unmarkedMiss, Belief.miss]
  have lowered : (state.lower cfg scan stamp).logOdds =
      max (-4) (state.belief.logOdds + cfg.missLogOdds) := rfl
  rw [lowered]
  split
  next => rfl
  next => rfl

theorem isStatic_iff_confirmed (enabled : cfg.dynamicFilterEnable = true)
    (state : OccupancyVoxelState K) :
    isStatic cfg state = true ↔ state.belief.Confirmed cfg :=
  isStatic_iff enabled state

theorem expired_iff_outdated (enabled : cfg.dynamicFilterEnable = true) (now : Time)
    (state : OccupancyVoxelState K) :
    state.expired cfg now = true ↔ state.belief.Outdated cfg now := by
  unfold OccupancyVoxelState.expired Belief.Outdated
  rw [← isStatic_iff_confirmed enabled]
  simp [Time.isZero, OccupancyVoxelState.belief, and_assoc]

end Entry

/-! ## Scan markers -/

/-- A marker that is untouched or does not lie ahead of the scan counter. -/
def PastMarker (marker scan : UInt64) : Prop :=
  marker = unmarked ∨ marker.toNat ≤ scan.toNat

section Marker

variable {marker scan : UInt64} (room : scan.toNat + 1 < 2 ^ 64 - 1)
include room

theorem unmarked_ne_nextScan : unmarked ≠ scan + 1 := by
  intro equal
  have values := congrArg UInt64.toNat equal
  rw [toNat_nextScan room] at values
  change 2 ^ 64 - 1 = _ at values
  omega

theorem PastMarker.ne_nextScan (past : PastMarker marker scan) : marker ≠ scan + 1 := by
  rcases past with rfl | behind
  · exact unmarked_ne_nextScan room
  · intro equal
    have values := congrArg UInt64.toNat equal
    rw [toNat_nextScan room] at values
    omega

theorem PastMarker.mono (past : PastMarker marker scan) : PastMarker marker (scan + 1) := by
  rcases past with rfl | behind
  · exact .inl rfl
  · refine .inr ?_
    rw [toNat_nextScan room]
    omega

end Marker

/-- The markers of every entry are past. -/
def MarkersPast (mapper : PointcloudMapper K) : Prop :=
  ∀ key state, mapper.temporalVoxels.lookup key = some state →
    PastMarker state.lastHitScan mapper.scanSequence ∧
      PastMarker state.lastMissScan mapper.scanSequence

/-- A scan keeps all markers past, as long as the counter has room. -/
theorem MarkersPast.processScan {cfg : Config K} (enabled : cfg.dynamicFilterEnable = true)
    {mapper : PointcloudMapper K} (past : MarkersPast mapper) (scan : Scan K)
    (room : mapper.scanSequence.toNat + 1 < 2 ^ 64 - 1) :
    MarkersPast (processScan cfg mapper scan) := by
  intro key state found
  rw [processScan_scanSequence]
  refine entry_processScan enabled
    (fun state => PastMarker state.lastHitScan mapper.scanSequence ∧
      PastMarker state.lastMissScan mapper.scanSequence)
    (fun state => PastMarker state.lastHitScan (mapper.scanSequence + 1) ∧
      PastMarker state.lastMissScan (mapper.scanSequence + 1))
    (past key) (fun _ => ⟨.inl rfl, .inl rfl⟩) ?_ ?_ ?_ found
  · intro _ current markers
    rw [OccupancyVoxelState.hit_lastHitScan, OccupancyVoxelState.hit_lastMissScan]
    exact ⟨.inr le_rfl, markers.2.mono room⟩
  · intro _ current left markers missed
    rcases OccupancyVoxelState.miss_eq_some missed with rfl | rfl
    · exact ⟨markers.1.mono room, markers.2.mono room⟩
    · exact ⟨markers.1.mono room, .inr le_rfl⟩
  · intro _ current markers
    exact ⟨markers.1.mono room, markers.2.mono room⟩

/-! ## The simulation -/

/-- Away from the start value of `previous_key`, the loops call `updateMiss`
exactly on the sampled keys without a point. -/
theorem evidence_eq_observed {cfg : Config K} (enabled : cfg.dynamicFilterEnable = true)
    (scan : Scan K) {key : VoxelKey} (ordinary : key ≠ noPreviousKey) :
    evidence cfg scan key = observed cfg scan key := by
  unfold evidence observed
  by_cases isHit : key ∈ scan.filtered.map (coarseKey cfg)
  · have occupied : key ∈ occupiedThisScan cfg scan := List.mem_toFinset.mpr isHit
    rw [if_pos occupied, if_pos isHit]
  · have free : key ∉ occupiedThisScan cfg scan := fun member =>
      isHit (List.mem_toFinset.mp member)
    rw [if_neg free, if_neg isHit]
    have sampled : key ∈ missedKeys cfg scan ↔
        key ∈ (tracedRays cfg scan).flatMap (rayKeys cfg scan.position) := by
      unfold missedKeys
      split
      next idle =>
        have noPoints : scan.filtered = [] := by
          simpa [enabled] using idle
        simp [tracedRays, strided, noPoints]
      next =>
        simp only [List.mem_flatMap]
        refine exists_congr fun ray => and_congr_right fun _ => ?_
        rw [PointcloudMapper.mem_missedAlong_iff ordinary]
        exact and_iff_left free
    simp only [sampled]

/-- One scan moves the entry at a key as one symbol moves the automaton. -/
theorem beliefAt_processScan {cfg : Config K} (enabled : cfg.dynamicFilterEnable = true)
    {mapper : PointcloudMapper K} (past : MarkersPast mapper) (scan : Scan K)
    (room : mapper.scanSequence.toNat + 1 < 2 ^ 64 - 1) {key : VoxelKey}
    (ordinary : key ≠ noPreviousKey) :
    (processScan cfg mapper scan).beliefAt key =
      automaton cfg (mapper.beliefAt key)
        (.scan (observed cfg scan key) scan.header.stamp (sweeps cfg mapper scan)) := by
  obtain ⟨generation, processed⟩ := lookup_processScan enabled mapper scan key
  have evidenceMatches : ((evidence cfg scan key).apply cfg (mapper.scanSequence + 1)
        scan.header.stamp generation (mapper.temporalVoxels.lookup key)).map
          OccupancyVoxelState.belief =
      Belief.observe cfg scan.header.stamp (mapper.beliefAt key) (observed cfg scan key) := by
    rw [evidence_eq_observed enabled scan ordinary]
    unfold PointcloudMapper.beliefAt
    cases present : mapper.temporalVoxels.lookup key with
    | none =>
        cases observed cfg scan key with
        | hit => exact congrArg some (belief_hit (unmarked_ne_nextScan room))
        | miss => rfl
        | none => rfl
    | some state =>
        have markers := past key state present
        cases observed cfg scan key with
        | hit => exact congrArg some (belief_hit (markers.1.ne_nextScan room))
        | miss => exact belief_miss (markers.2.ne_nextScan room)
        | none => rfl
  rw [automaton, ← evidenceMatches]
  unfold PointcloudMapper.beliefAt
  rw [processed]
  generalize (evidence cfg scan key).apply cfg (mapper.scanSequence + 1) scan.header.stamp
    generation (mapper.temporalVoxels.lookup key) = slot
  cases slot with
  | none => rfl
  | some state =>
      have sameSweep : swept cfg mapper scan state =
          (sweeps cfg mapper scan &&
            decide (state.belief.Outdated cfg scan.header.stamp)) := by
        unfold swept
        congr 1
        rw [Bool.eq_iff_iff, expired_iff_outdated enabled, decide_eq_true_eq]
      simp only [Option.filter_some, Option.map_some, sameSweep]
      split <;> rfl

theorem markersPast_run {cfg : Config K} (enabled : cfg.dynamicFilterEnable = true)
    {callbacks : List (Callback K)} (few : FewScans cfg callbacks) :
    MarkersPast (run cfg callbacks) := by
  induction callbacks using List.reverseRecOn with
  | nil =>
      intro key state found
      simp at found
  | append_singleton callbacks callback ih =>
      have past := ih few.of_append
      have counted := counted_run few.of_append
      have moved := transition_run cfg callbacks callback
      generalize run cfg (callbacks ++ [callback]) = after at moved
      cases moved with
      | odometry | rejected | idle | build => exact past
      | scan msg scan accepted => exact past.processScan enabled scan (counted.room few accepted)
      | reset =>
          intro key state found
          simp [PointcloudMapper.resetMap] at found

theorem automatonRun_concat (cfg : Config K) (key : VoxelKey) (callbacks : List (Callback K))
    (callback : Callback K) :
    automatonRun cfg key (callbacks ++ [callback]) =
      (symbols cfg key (run cfg callbacks) callback).foldl (automaton cfg)
        (automatonRun cfg key callbacks) := by
  simp [automatonRun, run, runFrom]

/-- The entry of the coarse table at any key other than `noPreviousKey` is the
state of the automaton of that key, after every run with few scans between
resets. -/
theorem beliefAt_eq_automatonRun {cfg : Config K} (enabled : cfg.dynamicFilterEnable = true)
    {callbacks : List (Callback K)} (few : FewScans cfg callbacks) {key : VoxelKey}
    (ordinary : key ≠ noPreviousKey) :
    (run cfg callbacks).beliefAt key = automatonRun cfg key callbacks := by
  induction callbacks using List.reverseRecOn with
  | nil => rfl
  | append_singleton callbacks callback ih =>
      have agree := ih few.of_append
      have counted := counted_run few.of_append
      have past := markersPast_run enabled few.of_append
      have moved := transition_run cfg callbacks callback
      rw [automatonRun_concat]
      generalize run cfg (callbacks ++ [callback]) = after at moved
      cases moved with
      | odometry msg => exact agree
      | rejected msg rejected =>
          rw [symbols, rejected]
          exact agree
      | scan msg scan accepted =>
          rw [symbols, accepted, beliefAt_processScan enabled past scan
            (counted.room few accepted) ordinary, agree]
          rfl
      | idle _ builds | build _ _ builds =>
          cases callback with
          | publishMapTimer | saveMap | autosaveTimer => exact agree
          | odometry | cloud | resetMap => cases builds
      | reset => rfl

theorem beliefAt_eq_automatonRun_unit :
    (run unitConfig unitHistory).beliefAt ⟨2, 0, 0⟩ =
      automatonRun unitConfig ⟨2, 0, 0⟩ unitHistory :=
  beliefAt_eq_automatonRun rfl (fewScans_of_length (by decide)) (by decide)

/-! ## Where the table departs from the automaton -/

section Departures

/-- The voxel `noPreviousKey` is hit, and then a ray starts in it. -/
def startKeyHistory : List (Callback ℚ) :=
  [odometryAt 1 ⟨-2 ^ 63, -1 / 2, 1 / 2⟩, cloudAt 1 [⟨-2 ^ 63, 1 / 2, 1 / 2⟩],
    cloudAt 1 [⟨-2 ^ 63, 9 / 2, 1 / 2⟩]]

/-- An odometry message and `n` clouds without points. -/
def idleHistory (n : ℕ) : List (Callback ℚ) :=
  odometryAt 1 ⟨0, 1 / 2, 1 / 2⟩ :: List.replicate n (cloudAt 1 [])

/-- An idle history and a cloud with one point. -/
def lateHistory (n : ℕ) : List (Callback ℚ) :=
  idleHistory n ++ [cloudAt 1 [⟨5 / 2, 1 / 2, 1 / 2⟩]]

private def lateScan : Scan ℚ :=
  ⟨⟨1, "camera_init"⟩, ⟨0, 1 / 2, 1 / 2⟩, [⟨5 / 2, 1 / 2, 1 / 2, 1⟩]⟩

/-- The mapper after an idle history. -/
private structure Idling (n : ℕ) (mapper : PointcloudMapper ℚ) : Prop where
  latestOdom : mapper.latestOdom = (run unitConfig (idleHistory 0)).latestOdom
  haveOdom : mapper.haveOdom = (run unitConfig (idleHistory 0)).haveOdom
  voxels : mapper.temporalVoxels = ∅
  sequence : mapper.scanSequence = UInt64.ofNat n

private theorem idling_step {n : ℕ} {mapper : PointcloudMapper ℚ} (idling : Idling n mapper) :
    Idling (n + 1) (step unitConfig mapper (cloudAt 1 [])) := by
  have accepted : acceptScan unitConfig mapper ⟨⟨1, "camera_init"⟩, []⟩ =
      some ⟨⟨1, "camera_init"⟩, ⟨0, 1 / 2, 1 / 2⟩, []⟩ := by
    rw [acceptScan_congr unitConfig idling.latestOdom idling.haveOdom]
    decide +kernel
  have stepped : step unitConfig mapper (cloudAt 1 []) = _ := step_cloud_of_some accepted
  rw [stepped, processScan, absorbScan_of_filtered_nil _ _ rfl, PointcloudMapper.maybeCleanup]
  have advanced : mapper.scanSequence + 1 = UInt64.ofNat (n + 1) := by
    rw [idling.sequence, UInt64.ofNat_add]
    rfl
  split
  next => exact ⟨idling.latestOdom, idling.haveOdom, by simp [idling.voxels], advanced⟩
  next => exact ⟨idling.latestOdom, idling.haveOdom, idling.voxels, advanced⟩

private theorem idling_run (n : ℕ) : Idling n (run unitConfig (idleHistory n)) := by
  induction n with
  | zero => exact ⟨rfl, rfl, rfl, rfl⟩
  | succ n ih =>
      rw [idleHistory, List.replicate_succ', ← List.cons_append, run_append]
      exact idling_step ih

private theorem automatonRun_idleHistory (key : VoxelKey) (n : ℕ) :
    automatonRun unitConfig key (idleHistory n) = none := by
  induction n with
  | zero => rfl
  | succ n ih =>
      have idling := idling_run n
      have accepted : acceptScan unitConfig (run unitConfig (idleHistory n))
          ⟨⟨1, "camera_init"⟩, []⟩ = some ⟨⟨1, "camera_init"⟩, ⟨0, 1 / 2, 1 / 2⟩, []⟩ := by
        rw [acceptScan_congr unitConfig idling.latestOdom idling.haveOdom]
        decide +kernel
      have extended : idleHistory (n + 1) = idleHistory n ++ [cloudAt 1 []] := by
        rw [idleHistory, List.replicate_succ', ← List.cons_append]
        rfl
      have fed : symbols unitConfig key (run unitConfig (idleHistory n)) (cloudAt 1 []) = _ :=
        congrArg (fun scan => (Option.toList scan).map fun scan => Symbol.scan
          (observed unitConfig scan key) scan.header.stamp
          (sweeps unitConfig (run unitConfig (idleHistory n)) scan)) accepted
      rw [extended, automatonRun_concat, ih, fed]
      rfl

private theorem acceptScan_lateCloud (n : ℕ) :
    acceptScan unitConfig (run unitConfig (idleHistory n))
      ⟨⟨1, "camera_init"⟩, [some ⟨5 / 2, 1 / 2, 1 / 2, 1⟩]⟩ = some lateScan := by
  have idling := idling_run n
  rw [acceptScan_congr unitConfig idling.latestOdom idling.haveOdom]
  decide +kernel

/-- The automaton counts the hit of the last cloud. -/
private theorem automatonRun_lateHistory (n : ℕ) :
    (automatonRun unitConfig ⟨2, 0, 0⟩ (lateHistory n)).map Belief.hitScans = some 1 := by
  have isObserved : observed unitConfig lateScan ⟨2, 0, 0⟩ = .hit := by decide +kernel
  have fed : symbols unitConfig ⟨2, 0, 0⟩ (run unitConfig (idleHistory n))
      (cloudAt 1 [⟨5 / 2, 1 / 2, 1 / 2⟩]) = [.scan .hit 1
        (sweeps unitConfig (run unitConfig (idleHistory n)) lateScan)] := by
    change (acceptScan unitConfig (run unitConfig (idleHistory n))
      ⟨⟨1, "camera_init"⟩, [some ⟨5 / 2, 1 / 2, 1 / 2, 1⟩]⟩).toList.map _ = _
    rw [acceptScan_lateCloud, ← isObserved]
    rfl
  rw [lateHistory, automatonRun_concat, automatonRun_idleHistory, fed]
  cases sweeps unitConfig (run unitConfig (idleHistory n)) lateScan with
  | true => decide +kernel
  | false => decide +kernel

/-- The table does not count the hit when the scan number is the value of an
untouched marker. -/
private theorem beliefAt_lateHistory {n : ℕ} (last : UInt64.ofNat (n + 1) = unmarked) :
    ((run unitConfig (lateHistory n)).beliefAt ⟨2, 0, 0⟩).map Belief.hitScans = some 0 := by
  have idling := idling_run n
  have stepped : run unitConfig (lateHistory n) =
      processScan unitConfig (run unitConfig (idleHistory n)) lateScan := by
    rw [lateHistory, run_append]
    exact step_cloud_of_some (acceptScan_lateCloud n)
  have isHit : evidence unitConfig lateScan ⟨2, 0, 0⟩ = .hit := by decide +kernel
  have marked : (run unitConfig (idleHistory n)).scanSequence + 1 = unmarked := by
    rw [idling.sequence, ← last, UInt64.ofNat_add]
    rfl
  have enabled : unitConfig.dynamicFilterEnable = true := rfl
  obtain ⟨generation, processed⟩ :=
    lookup_processScan enabled (run unitConfig (idleHistory n)) lateScan ⟨2, 0, 0⟩
  rw [isHit, marked, idling.voxels] at processed
  have kept : swept unitConfig (run unitConfig (idleHistory n)) lateScan
      (({ generation := generation } : OccupancyVoxelState ℚ).hit unitConfig unmarked 1) =
        false := by
    refine Bool.and_eq_false_imp.mpr fun _ => ?_
    simp [OccupancyVoxelState.expired, unitConfig, lateScan]
  have found : (run unitConfig (lateHistory n)).temporalVoxels.lookup ⟨2, 0, 0⟩ =
      some (({ generation := generation } : OccupancyVoxelState ℚ).hit unitConfig unmarked 1) := by
    rw [stepped, processed]
    exact Option.filter_some_pos ((congrArg Bool.not kept).trans rfl)
  rw [PointcloudMapper.beliefAt, found]
  rfl

end Departures

/-- Two runs on which the entry of the table is not the state of the automaton.
The sample loop takes the voxel `noPreviousKey` for the previous sample, so a ray
that starts in it does not lower it; and scan number `2 ^ 64 - 1` carries the
value of an untouched marker, so a voxel that it creates gets no hit. -/
theorem beliefAt_ne_automatonRun :
    (run unitConfig startKeyHistory).beliefAt noPreviousKey ≠
        automatonRun unitConfig noPreviousKey startKeyHistory ∧
    (run unitConfig (lateHistory (2 ^ 64 - 2))).beliefAt ⟨2, 0, 0⟩ ≠
        automatonRun unitConfig ⟨2, 0, 0⟩ (lateHistory (2 ^ 64 - 2)) := by
  refine ⟨by decide +kernel, ?_⟩
  have last : UInt64.ofNat (2 ^ 64 - 2 + 1) = unmarked := by decide
  have uncounted := beliefAt_lateHistory last
  have counted := automatonRun_lateHistory (2 ^ 64 - 2)
  intro equal
  rw [equal, counted] at uncounted
  exact absurd uncounted (by decide)

end ScoutStack
