import ScoutStack.Mapper.Automaton
import ScoutStack.Mapper.Confirmed
import Mathlib.Analysis.Complex.ExponentialBounds
import Mathlib.Analysis.SpecialFunctions.Log.Basic
import Mathlib.Analysis.Real.Sqrt

/-!
# Both decisions are reachable

Clearing and confirmation each come within a bound that does not depend on the
past, provided that the thresholds lie inside the saturation limits.  The loader
clamps each probability to `[0.001, 0.999]`, which leaves log-odds of up to 6.9 on
either side; with a threshold beyond four the decision never comes.
-/

namespace ScoutStack

variable {K : Type*} [Field K] [LinearOrder K]

/-- Enough scans in a row that miss a voxel. -/
structure EnoughMisses [FloorRing K] (cfg : Config K) (key : VoxelKey) (scans : List (Scan K)) :
    Prop where
  missed : ∀ scan ∈ scans, key ∈ missedKeys cfg scan
  nonempty : 1 ≤ scans.length
  evidence : (4 - cfg.clearingLogOdds) / -cfg.missLogOdds ≤ scans.length

/-- Enough scans in a row that hit a voxel, over a long enough span. -/
structure EnoughHits [FloorRing K] (cfg : Config K) (key : VoxelKey) (scans : List (Scan K)) :
    Prop where
  hit : ∀ scan ∈ scans, key ∈ occupiedThisScan cfg scan
  stamped : ∀ scan ∈ scans, scan.header.stamp ≠ 0
  hits : cfg.minHitScans ≤ scans.length
  evidence : (cfg.occupiedLogOdds + 4) / cfg.hitLogOdds ≤ scans.length
  span : ∀ first ∈ scans.head?, ∀ last ∈ scans.getLast?,
    cfg.minObservationSpan ≤ toSec last.header.stamp first.header.stamp

/-! ## Misses in a row -/

/-- What is left of an entry after misses in a row. -/
structure Sinking (cfg : Config K) (scans : List (Scan K)) (state : OccupancyVoxelState K) :
    Prop where
  logOdds : state.logOdds ≤ 4 + scans.length * cfg.missLogOdds
  live : scans ≠ [] → cfg.clearingLogOdds < state.logOdds

/-! ## Hits in a row -/

/-- What hits in a row make of an entry with the given number of earlier hits; the
first of them has the given stamp. -/
structure Climbing (cfg : Config K) (earlier : UInt32) (start : Time) (scans : List (Scan K))
    (state : OccupancyVoxelState K) : Prop where
  logOdds : min 4 (-4 + scans.length * cfg.hitLogOdds) ≤ state.logOdds
  hitScans : state.hitScans = earlier + UInt32.ofNat scans.length
  firstHit : state.firstHit ≤ start
  started : scans ≠ [] → state.firstHit ≠ 0
  lastHit : ∀ last ∈ scans.getLast?, state.lastHit = last.header.stamp

section Entry

variable [IsStrictOrderedRing K] {cfg : Config K} {number : UInt64} {scans : List (Scan K)}
  {scan : Scan K} {state : OccupancyVoxelState K}

/-- A threshold inside the saturation limits is not skipped by saturation. -/
theorem Sinking.miss (sinking : Sinking cfg scans state) (inside : -4 ≤ cfg.clearingLogOdds)
    (unmarkedMiss : state.lastMissScan ≠ number) {left : OccupancyVoxelState K}
    (survives : state.miss cfg number scan.header.stamp = some left) :
    Sinking cfg (scans ++ [scan]) left := by
  have before := sinking.logOdds
  unfold OccupancyVoxelState.miss at survives
  rw [if_neg unmarkedMiss] at survives
  split at survives
  next => cases survives
  next above =>
    cases survives
    have live : cfg.clearingLogOdds < max minLogOdds (state.logOdds + cfg.missLogOdds) :=
      not_le.mp above
    have unsaturated : cfg.clearingLogOdds < state.logOdds + cfg.missLogOdds := by
      rcases lt_max_iff.mp live with saturated | lowered
      · exact absurd (inside.trans_lt saturated) (lt_irrefl _)
      · exact lowered
    have lowered : max minLogOdds (state.logOdds + cfg.missLogOdds) =
        state.logOdds + cfg.missLogOdds :=
      max_eq_right (inside.trans unsaturated.le)
    constructor
    · change max minLogOdds (state.logOdds + cfg.missLogOdds) ≤ _
      rw [lowered, List.length_append, List.length_singleton]
      push_cast
      linarith
    · intro _
      exact live

/-- Enough misses leave nothing. -/
theorem Sinking.not_enough (sinking : Sinking cfg scans state) (nonempty : scans ≠ []) :
    (scans.length : K) < (4 - cfg.clearingLogOdds) / -cfg.missLogOdds := by
  have negative := cfg.missLogOdds_neg
  have bound := sinking.logOdds
  have live := sinking.live nonempty
  rw [lt_div_iff₀ (by linarith)]
  linarith

/-- One step of a saturating sum. -/
theorem climb_step {count gain total : K} (positive : 0 < gain)
    (bound : min 4 (-4 + count * gain) ≤ total) :
    min 4 (-4 + (count + 1) * gain) ≤ min 4 (total + gain) := by
  apply le_min
  · exact min_le_left _ _
  · rcases min_le_iff.mp bound with full | climbing
    · apply (min_le_left _ _).trans
      linarith
    · apply (min_le_right _ _).trans
      linarith

omit [IsStrictOrderedRing K] in
/-- A voxel does not expire in the scan that hits it. -/
theorem expired_hit (patient : 0 ≤ cfg.candidateTimeout) (number : UInt64) (stamp : Time)
    (state : OccupancyVoxelState K) :
    (state.hit cfg number stamp).expired cfg stamp = false := by
  have recent : ¬(toSec stamp stamp : K) > cfg.candidateTimeout := by
    rw [toSec_self]
    exact not_lt.mpr patient
  rw [OccupancyVoxelState.expired, OccupancyVoxelState.hit_lastSeen, decide_eq_false recent,
    Bool.and_false]

theorem climbing_fresh (cfg : Config K) (start : Time) (generation : UInt64) :
    Climbing cfg 0 start [] ({ generation := generation } : OccupancyVoxelState K) := by
  refine ⟨?_, rfl, Nat.zero_le _, fun nonempty => absurd rfl nonempty,
    fun last member => by cases member⟩
  rw [List.length_nil, Nat.cast_zero, zero_mul, add_zero]
  apply (min_le_right _ _).trans
  change (-4 : K) ≤ 0
  norm_num

theorem Climbing.hit {earlier : UInt32} {start : Time}
    (climbing : Climbing cfg earlier start scans state)
    (unmarkedHit : state.lastHitScan ≠ number) (stamped : scan.header.stamp ≠ 0)
    (starts : scans = [] → scan.header.stamp = start) :
    Climbing cfg earlier start (scans ++ [scan]) (state.hit cfg number scan.header.stamp) := by
  rw [OccupancyVoxelState.hit_of_unmarked cfg _ unmarkedHit]
  constructor
  · rw [List.length_append, List.length_singleton]
    push_cast
    exact climb_step cfg.hitLogOdds_pos climbing.logOdds
  · rw [List.length_append, List.length_singleton, UInt32.ofNat_add, ← UInt32.add_assoc,
      ← climbing.hitScans]
    rfl
  · dsimp only
    split
    next never =>
      apply le_of_eq
      apply starts
      by_contra nonempty
      exact climbing.started nonempty never
    next => exact climbing.firstHit
  · intro _
    dsimp only
    split
    next => exact stamped
    next started => exact started
  · intro last member
    rw [List.getLast?_append, List.getLast?_singleton, Option.some_or] at member
    obtain rfl := Option.some.inj member
    rfl

omit [IsStrictOrderedRing K] in
/-- The counter shows at least the hits in a row, as long as it does not wrap. -/
theorem Climbing.length_le {earlier : UInt32} {start : Time}
    (climbing : Climbing cfg earlier start scans state)
    (room : earlier.toNat + scans.length < 2 ^ 32) :
    scans.length ≤ state.hitScans.toNat := by
  rw [climbing.hitScans, UInt32.toNat_add, UInt32.toNat_ofNat', Nat.add_mod_mod,
    Nat.mod_eq_of_lt room]
  exact Nat.le_add_left _ _

/-- Enough hits confirm. -/
theorem Climbing.isStatic [FloorRing K] {key : VoxelKey}
    (enabled : cfg.dynamicFilterEnable = true) {earlier : UInt32} {start : Time}
    (climbing : Climbing cfg earlier start scans state) (inside : cfg.occupiedLogOdds ≤ 4)
    (room : earlier.toNat + scans.length < 2 ^ 32) (enough : EnoughHits cfg key scans)
    (starts : ∀ first ∈ scans.head?, first.header.stamp = start) :
    isStatic cfg state = true := by
  have positive := cfg.hitLogOdds_pos
  have nonempty : scans ≠ [] := by
    rintro rfl
    exact absurd cfg.minHitScans_pos (Nat.not_lt.mpr enough.hits)
  have begins : scans.head nonempty ∈ scans.head? := by
    rw [List.head?_eq_some_head nonempty]
    rfl
  have ends : scans.getLast nonempty ∈ scans.getLast? := by
    rw [List.getLast?_eq_some_getLast nonempty]
    rfl
  have lastHit := climbing.lastHit _ ends
  have span := enough.span _ begins _ ends
  have evidence := enough.evidence
  rw [starts _ begins] at span
  rw [div_le_iff₀ positive] at evidence
  rw [isStatic_iff enabled]
  refine ⟨enough.hits.trans (climbing.length_le room), ?_, climbing.started nonempty, ?_, ?_⟩
  · apply le_trans _ climbing.logOdds
    apply le_min inside
    linarith
  · rw [lastHit]
    exact enough.stamped _ (List.getLast_mem nonempty)
  · rw [lastHit]
    exact span.trans (toSec_le_toSec_right _ climbing.firstHit)

end Entry

/-! ## Runs -/

section Runs

variable [IsStrictOrderedRing K] [FloorRing K] {cfg : Config K} {key : VoxelKey}
  {before after : List (Callback K)}

omit [IsStrictOrderedRing K] in
/-- The scan counter has room for every scan of a history with few scans. -/
theorem room_of_front (few : FewScans cfg (before ++ after)) {callbacks : List (Callback K)}
    {msg : PointCloud2 K} {scan : Scan K} (front : callbacks ++ [.cloud msg] <+: after)
    (accepted : acceptScan cfg (run cfg (before ++ callbacks)) msg = some scan) :
    (run cfg (before ++ callbacks)).scanSequence.toNat + 1 < 2 ^ 64 - 1 := by
  have fewFront := few.of_front (append_front front)
  exact (counted_run fewFront.of_append).room fewFront accepted

/-- What is left at a key while every scan misses it. -/
theorem sinking_run (enabled : cfg.dynamicFilterEnable = true)
    (few : FewScans cfg (before ++ after)) (inside : -4 ≤ cfg.clearingLogOdds)
    (missed : ∀ scan ∈ scansFrom cfg (run cfg before) after, key ∈ missedKeys cfg scan) :
    ∀ state ∈ (run cfg (before ++ after)).temporalVoxels.lookup key,
      Sinking cfg (scansFrom cfg (run cfg before) after) state := by
  apply slot_run fun scans slot => ∀ state ∈ slot, Sinking cfg scans state
  · intro state present
    have saturated := (recorded_run enabled present).saturated
    constructor
    · rw [List.length_nil, Nat.cast_zero, zero_mul, add_zero]
      exact saturated.2
    · exact fun nonempty => absurd rfl nonempty
  · intro callbacks msg scan front accepted held state present
    have room := room_of_front few front accepted
    have member : scan ∈ scansFrom cfg (run cfg before) after :=
      (scansFrom_front before front accepted).subset (by simp)
    have isMissed := evidence_eq_miss_iff.mpr (missed scan member)
    obtain ⟨_, processed⟩ :=
      lookup_processScan enabled (run cfg (before ++ callbacks)) scan key
    rw [processed, isMissed, Option.mem_def, Option.filter_eq_some_iff] at present
    obtain ⟨old, found, survives⟩ := Option.bind_eq_some_iff.mp present.1
    have past := markersPast_run enabled (few.of_front (append_front front)).of_append key old
      found
    exact (held old found).miss inside (past.2.ne_nextScan room) survives
  · intro _ scans slot _ state present
    cases present

/-- The hits that the slot has counted so far. -/
def earlierHits (slot : Option (OccupancyVoxelState K)) : UInt32 :=
  slot.elim 0 OccupancyVoxelState.hitScans

/-- What is at a key while every scan hits it. -/
def ClimbingSlot (cfg : Config K) (earlier : UInt32) (start : Time) (scans : List (Scan K))
    (slot : Option (OccupancyVoxelState K)) : Prop :=
  (slot = none → scans = [] ∧ earlier = 0) ∧
    ∀ state ∈ slot, Climbing cfg earlier start scans state

/-- A scan that hits the key adds one to the hits in a row. -/
theorem ClimbingSlot.processScan (enabled : cfg.dynamicFilterEnable = true)
    (patient : 0 ≤ cfg.candidateTimeout) {mapper : PointcloudMapper K} {scan : Scan K}
    (isHit : key ∈ occupiedThisScan cfg scan) (past : MarkersPast mapper)
    (room : mapper.scanSequence.toNat + 1 < 2 ^ 64 - 1) (stamped : scan.header.stamp ≠ 0)
    {earlier : UInt32} {start : Time} {scans : List (Scan K)}
    (starts : scans = [] → scan.header.stamp = start)
    (climbing : ClimbingSlot cfg earlier start scans (mapper.temporalVoxels.lookup key)) :
    ClimbingSlot cfg earlier start (scans ++ [scan])
      ((processScan cfg mapper scan).temporalVoxels.lookup key) := by
  obtain ⟨fresh, processed⟩ := lookup_processScan enabled mapper scan key
  rw [evidence_eq_hit_iff.mpr isHit] at processed
  have kept : ∀ state : OccupancyVoxelState K, (!swept cfg mapper scan
      (state.hit cfg (mapper.scanSequence + 1) scan.header.stamp)) = true := by
    intro state
    rw [swept, expired_hit patient, Bool.and_false]
    rfl
  have left := processed.trans (Option.filter_some_pos (kept _))
  rw [left]
  constructor
  · intro absent
    cases absent
  · intro state same
    obtain rfl := Option.some.inj same
    cases present : mapper.temporalVoxels.lookup key with
    | none =>
        obtain ⟨rfl, rfl⟩ := climbing.1 present
        exact (climbing_fresh cfg start fresh).hit (unmarked_ne_nextScan room) stamped starts
    | some state =>
        exact (climbing.2 state present).hit ((past key state present).1.ne_nextScan room)
          stamped starts

/-- What is at a key while every scan hits it. -/
theorem climbing_run (enabled : cfg.dynamicFilterEnable = true)
    (few : FewScans cfg (before ++ after)) (patient : 0 ≤ cfg.candidateTimeout)
    (noReset : ∀ callback ∈ after, callback ≠ .resetMap)
    (hit : ∀ scan ∈ scansFrom cfg (run cfg before) after, key ∈ occupiedThisScan cfg scan)
    (stamped : ∀ scan ∈ scansFrom cfg (run cfg before) after, scan.header.stamp ≠ 0)
    {start : Time}
    (starts : ∀ first ∈ (scansFrom cfg (run cfg before) after).head?, first.header.stamp = start)
    (notAhead : ∀ state ∈ (run cfg before).temporalVoxels.lookup key, state.firstHit ≤ start) :
    ClimbingSlot cfg (earlierHits ((run cfg before).temporalVoxels.lookup key)) start
      (scansFrom cfg (run cfg before) after)
      ((run cfg (before ++ after)).temporalVoxels.lookup key) := by
  apply slot_run fun scans slot => ClimbingSlot cfg
    (earlierHits ((run cfg before).temporalVoxels.lookup key)) start scans slot
  · constructor
    · intro absent
      rw [absent]
      exact ⟨rfl, rfl⟩
    · intro state present
      have saturated := (recorded_run enabled present).saturated
      refine ⟨?_, ?_, notAhead state present, fun nonempty => absurd rfl nonempty,
        fun last member => by cases member⟩
      · rw [List.length_nil, Nat.cast_zero, zero_mul, add_zero]
        exact (min_le_right _ _).trans saturated.1
      · rw [Option.mem_def.mp present]
        exact (UInt32.add_zero _).symm
  · intro callbacks msg scan front accepted climbing
    have scansFront := scansFrom_front before front accepted
    have member := scansFront.subset (List.mem_append_right _ (List.mem_singleton_self scan))
    have atStart : scansFrom cfg (run cfg before) callbacks = [] → scan.header.stamp = start := by
      intro noScan
      obtain ⟨rest, split⟩ := scansFront
      apply starts
      rw [← split, noScan]
      rfl
    exact climbing.processScan enabled patient (hit scan member)
      (markersPast_run enabled (few.of_front (append_front front)).of_append)
      (room_of_front few front accepted) (stamped scan member) atStart
  · intro reset
    exact absurd rfl (noReset .resetMap reset)

/-- The hits counted before and the hits in a row are hits of the whole history. -/
theorem earlierHits_add_length_le (enabled : cfg.dynamicFilterEnable = true)
    (hit : ∀ scan ∈ scansFrom cfg (run cfg before) after, key ∈ occupiedThisScan cfg scan) :
    (earlierHits ((run cfg before).temporalVoxels.lookup key)).toNat +
        (scansFrom cfg (run cfg before) after).length ≤
      hitCount cfg key (scansFrom cfg {} (before ++ after)) := by
  have earlier : (earlierHits ((run cfg before).temporalVoxels.lookup key)).toNat ≤
      hitCount cfg key (scansFrom cfg {} before) := by
    cases present : (run cfg before).temporalVoxels.lookup key with
    | none => exact Nat.zero_le _
    | some state => exact (recorded_run enabled present).hitScans
  have later : hitCount cfg key (scansFrom cfg (run cfg before) after) =
      (scansFrom cfg (run cfg before) after).length := by
    rw [hitCount, List.countP_eq_length]
    intro scan member
    exact decide_eq_true (hit scan member)
  have all : hitCount cfg key (scansFrom cfg {} (before ++ after)) =
      hitCount cfg key (scansFrom cfg {} before) +
        hitCount cfg key (scansFrom cfg (run cfg before) after) := by
    rw [scansFrom_append, hitCount, List.countP_append]
    rfl
  omega

/-- With thresholds inside the saturation limits both decisions come: enough misses in
a row leave no voxel at the key, and enough hits in a row make it static, whatever
came before. -/
theorem decisions_reached (enabled : cfg.dynamicFilterEnable = true)
    (few : FewScans cfg (before ++ after)) :
    (-4 ≤ cfg.clearingLogOdds →
      EnoughMisses cfg key (scansFrom cfg (run cfg before) after) →
      (run cfg (before ++ after)).temporalVoxels.lookup key = none) ∧
    (cfg.occupiedLogOdds ≤ 4 → 0 ≤ cfg.candidateTimeout →
      EnoughHits cfg key (scansFrom cfg (run cfg before) after) →
      hitCount cfg key (scansFrom cfg {} (before ++ after)) < 2 ^ 32 →
      (∀ callback ∈ after, callback ≠ .resetMap) →
      (∀ first ∈ (scansFrom cfg (run cfg before) after).head?,
        ∀ state ∈ (run cfg before).temporalVoxels.lookup key,
          state.firstHit ≤ first.header.stamp) →
      ∃ state, (run cfg (before ++ after)).temporalVoxels.lookup key = some state ∧
        isStatic cfg state = true) := by
  constructor
  · intro inside enough
    cases present : (run cfg (before ++ after)).temporalVoxels.lookup key with
    | none => rfl
    | some state =>
        have sinking := sinking_run enabled few inside enough.missed state present
        have nonempty : scansFrom cfg (run cfg before) after ≠ [] := by
          intro empty
          have atLeastOne := enough.nonempty
          rw [empty, List.length_nil] at atLeastOne
          exact absurd atLeastOne (Nat.not_succ_le_zero 0)
        exact absurd enough.evidence (not_le.mpr (sinking.not_enough nonempty))
  · intro inside patient enough fewHits noReset notAhead
    cases begins : (scansFrom cfg (run cfg before) after).head? with
    | none =>
        have hits := enough.hits
        rw [List.head?_eq_none_iff.mp begins] at hits
        exact absurd cfg.minHitScans_pos (Nat.not_lt.mpr hits)
    | some first =>
        have starts : ∀ other ∈ (scansFrom cfg (run cfg before) after).head?,
            other.header.stamp = first.header.stamp := by
          intro other member
          rw [begins] at member
          rw [Option.some.inj member]
        have room := (earlierHits_add_length_le enabled enough.hit).trans_lt fewHits
        have climbing := climbing_run enabled few patient noReset enough.hit enough.stamped starts
          (notAhead first begins)
        cases present : (run cfg (before ++ after)).temporalVoxels.lookup key with
        | none =>
            rw [(climbing.1 present).1] at begins
            cases begins
        | some state =>
            exact ⟨state, rfl, (climbing.2 state present).isStatic enabled inside room enough
              starts⟩

end Runs

/-- Five misses after a hit, and five hits. -/
theorem decisions_reached_unit :
    (run unitConfig (watching [(1, [insideVoxel])] ++
      watching (List.replicate 5 (1, [behindVoxel])))).temporalVoxels.lookup ⟨2, 0, 0⟩ = none ∧
    ∃ state, (run unitConfig (watching [] ++
        watching (List.replicate 5 (1, [insideVoxel])))).temporalVoxels.lookup ⟨2, 0, 0⟩ =
          some state ∧
      isStatic unitConfig state = true := by
  constructor
  · apply (decisions_reached rfl (fewScans_of_length (by decide))).1
    · decide +kernel
    · constructor
      · decide +kernel
      · decide +kernel
      · decide +kernel
  · apply (decisions_reached rfl (fewScans_of_length (by decide))).2
    · decide +kernel
    · decide +kernel
    · constructor
      · decide +kernel
      · decide +kernel
      · decide +kernel
      · decide +kernel
      · decide +kernel
    · decide +kernel
    · simp [watching, odometryAt, cloudAt]
    · decide +kernel

/-! ## Thresholds beyond the saturation limits -/

section Beyond

variable [FloorRing K] {cfg : Config K} {key : VoxelKey}

/-- The voxel at the key is live and was seen at the given time. -/
def SeenAt (key : VoxelKey) (stamp : Time) (mapper : PointcloudMapper K) : Prop :=
  ∃ state, mapper.temporalVoxels.lookup key = some state ∧ state.lastSeen = stamp

omit [FloorRing K] in
/-- With a clearing threshold below the saturation limit a miss never clears. -/
theorem miss_ne_none (below : cfg.clearingLogOdds < -4) (number : UInt64) (stamp : Time)
    (state : OccupancyVoxelState K) : ∃ left, state.miss cfg number stamp = some left ∧
      (left.lastSeen = stamp ∨ left.lastSeen = state.lastSeen) := by
  have above : ¬(state.lower cfg number stamp).logOdds ≤ cfg.clearingLogOdds :=
    not_le.mpr (below.trans_le (le_max_left _ _))
  unfold OccupancyVoxelState.miss
  split
  next => exact ⟨state, rfl, .inr rfl⟩
  next => exact ⟨_, rfl, .inl rfl⟩

/-- While the clock stands still such a voxel stays. -/
theorem seenAt_processScan (enabled : cfg.dynamicFilterEnable = true)
    (below : cfg.clearingLogOdds < -4) (patient : 0 ≤ cfg.candidateTimeout)
    {mapper : PointcloudMapper K} {scan : Scan K}
    (seen : key ∈ occupiedThisScan cfg scan ∨ SeenAt key scan.header.stamp mapper) :
    SeenAt key scan.header.stamp (processScan cfg mapper scan) := by
  obtain ⟨fresh, processed⟩ := lookup_processScan enabled mapper scan key
  have absorbed : ∃ state, (evidence cfg scan key).apply cfg (mapper.scanSequence + 1)
      scan.header.stamp fresh (mapper.temporalVoxels.lookup key) = some state ∧
        state.lastSeen = scan.header.stamp := by
    cases isEvidence : evidence cfg scan key with
    | hit => exact ⟨_, rfl, OccupancyVoxelState.hit_lastSeen _ _ _ _⟩
    | miss =>
        have free := not_occupied_of_mem_missedKeys (evidence_eq_miss_iff.mp isEvidence)
        obtain ⟨state, found, same⟩ := seen.resolve_left free
        obtain ⟨left, survives, seenNow⟩ :=
          miss_ne_none below (mapper.scanSequence + 1) scan.header.stamp state
        rw [found]
        refine ⟨left, survives, ?_⟩
        rcases seenNow with now | before
        · exact now
        · exact before.trans same
    | none =>
        have free : key ∉ occupiedThisScan cfg scan := by
          intro occupied
          rw [evidence_eq_hit_iff.mpr occupied] at isEvidence
          cases isEvidence
        exact seen.resolve_left free
  obtain ⟨state, applied, same⟩ := absorbed
  have recent : ¬(toSec scan.header.stamp state.lastSeen : K) > cfg.candidateTimeout := by
    rw [same, toSec_self]
    exact not_lt.mpr patient
  have kept : (!swept cfg mapper scan state) = true := by
    rw [swept, OccupancyVoxelState.expired, decide_eq_false recent, Bool.and_false,
      Bool.and_false]
    rfl
  rw [applied] at processed
  exact ⟨state, processed.trans (Option.filter_some_pos kept), same⟩

/-- With a confirmation threshold above the saturation limit no voxel is ever static. -/
theorem isStatic_eq_false [IsStrictOrderedRing K] (enabled : cfg.dynamicFilterEnable = true)
    (above : 4 < cfg.occupiedLogOdds) {callbacks : List (Callback K)}
    {state : OccupancyVoxelState K}
    (found : (run cfg callbacks).temporalVoxels.lookup key = some state) :
    isStatic cfg state = false := by
  have saturated := (recorded_run enabled found).saturated
  rw [Bool.eq_false_iff]
  intro static
  rw [isStatic_iff enabled] at static
  exact absurd (static.2.1.trans saturated.2) (not_le.mpr above)

end Beyond

/-! ## Probabilities at the clamping limits -/

section Extreme

theorem realLogSign : LogSign Real.log where
  pos := Real.log_pos
  neg := fun positive below => Real.log_neg positive below

/-- Hits and confirmation at 0.999, misses and clearing at 0.001. -/
noncomputable def extremeParameters : Parameters ℝ :=
  loadParameters Real.log realLogSign
    { minRange := 0
      radiusFilterEnable := false
      temporalVoxelSize := 1
      hitProbability := 999 / 1000
      missProbability := 1 / 1000
      occupiedProbability := 999 / 1000
      clearingProbability := 1 / 1000
      minHitScans := 1
      minObservationSpan := 0
      rayStride := 1
      rayEndpointMargin := 1 }

/-- The node over the reals, with point filters that pass everything through. -/
noncomputable def extremeConfig : Config ℝ :=
  { extremeParameters with
    sqrt := Real.sqrt
    outsideInt := fun _ => -2 ^ 31
    voxelGrid := fun _ cloud => cloud
    radiusOutlierRemoval := fun _ _ cloud => cloud
    hasParentPath := fun _ => false }

theorem four_lt_log : 4 < Real.log 999 := by
  rw [Real.lt_log_iff_exp_lt (by norm_num)]
  have power : Real.exp 4 = Real.exp 1 ^ 4 := by
    rw [← Real.exp_nat_mul]
    norm_num
  have small : Real.exp 1 ^ 4 < 3 ^ 4 :=
    pow_lt_pow_left₀ (Real.exp_one_lt_d9.trans (by norm_num)) (Real.exp_pos 1).le (by norm_num)
  rw [power]
  exact small.trans (by norm_num)

theorem extreme_high : probabilityToLogOdds Real.log (clampProbability (999 / 1000)) =
    Real.log 999 := by
  have clamped : clampProbability (999 / 1000 : ℝ) = 999 / 1000 := by
    rw [clampProbability, min_self, max_eq_right (by norm_num)]
  rw [probabilityToLogOdds, clamped]
  norm_num

theorem extreme_low : probabilityToLogOdds Real.log (clampProbability (1 / 1000)) =
    -Real.log 999 := by
  have clamped : clampProbability (1 / 1000 : ℝ) = 1 / 1000 := by
    rw [clampProbability, min_eq_right (by norm_num), max_self]
  rw [probabilityToLogOdds, clamped, ← Real.log_inv]
  norm_num

theorem extreme_checked : checkedLogOdds Real.log (999 / 1000) (1 / 1000) =
    (Real.log 999, -Real.log 999) := by
  have large := four_lt_log
  have valid : ¬(Real.log 999 ≤ 0 ∨ -Real.log 999 ≥ 0) := by
    rw [not_or]
    constructor
    · linarith
    · linarith
  rw [checkedLogOdds, extreme_high, extreme_low]
  exact if_neg valid

theorem extreme_hit : extremeConfig.hitLogOdds = Real.log 999 :=
  congrArg Prod.fst extreme_checked

theorem extreme_miss : extremeConfig.missLogOdds = -Real.log 999 :=
  congrArg Prod.snd extreme_checked

theorem extreme_occupied : extremeConfig.occupiedLogOdds = Real.log 999 := extreme_high

theorem extreme_clearing : extremeConfig.clearingLogOdds = -Real.log 999 := extreme_low

theorem extreme_temporalVoxelSize : extremeConfig.temporalVoxelSize = 1 :=
  max_eq_right (by norm_num)

theorem extreme_rayEndpointMargin : extremeConfig.rayEndpointMargin = 1 := by
  change max (max (1 / 100) 1) 1 = (1 : ℝ)
  norm_num

theorem extreme_maxClearingRange : extremeConfig.maxClearingRange = 20 := by
  change max (max (1 / 100) 1) 20 = (20 : ℝ)
  norm_num

/-- The pose of the sensor. -/
noncomputable def restingOdometry : Odometry ℝ :=
  ⟨⟨1, "camera_init"⟩, ⟨1 / 2, 1 / 2, 1 / 2⟩, ⟨1, 0, 0, 0⟩⟩

/-- A cloud with one point at the given distance in front of the sensor. -/
noncomputable def cloudInFront (distance : ℝ) : PointCloud2 ℝ :=
  ⟨⟨1, "camera_init"⟩, [some ⟨1 / 2 + distance, 1 / 2, 1 / 2, 1⟩]⟩

/-- What the node makes of it. -/
noncomputable def scanInFront (distance : ℝ) : Scan ℝ :=
  ⟨⟨1, "camera_init"⟩, ⟨1 / 2, 1 / 2, 1 / 2⟩, [⟨1 / 2 + distance, 1 / 2, 1 / 2, 1⟩]⟩

theorem getBodyTransform_resting {mapper : PointcloudMapper ℝ}
    (latest : mapper.latestOdom = restingOdometry) (received : mapper.haveOdom = true) :
    getBodyTransform extremeConfig mapper 1 = some (⟨1 / 2, 1 / 2, 1 / 2⟩, ⟨1, 0, 0, 0⟩) := by
  have recent : ¬|(toSec 1 restingOdometry.header.stamp : ℝ)| > extremeConfig.maxOdomAge := by
    change ¬|(toSec 1 1 : ℝ)| > 1 / 5
    rw [toSec_self]
    norm_num
  have norm : extremeConfig.sqrt restingOdometry.orientation.squaredNorm = 1 := by
    change Real.sqrt (1 * 1 + 0 * 0 + 0 * 0 + 0 * 0) = 1
    norm_num
  have normalised : restingOdometry.orientation.divide 1 = ⟨1, 0, 0, 0⟩ := by
    simp [restingOdometry, Quaternion.divide]
  have long : ¬(1 : ℝ) < 1 / 1000000 := by norm_num
  unfold getBodyTransform
  rw [received, latest]
  dsimp only
  rw [norm, normalised, Bool.not_true, if_neg Bool.false_ne_true, if_neg recent, if_neg long]
  rfl

theorem keepsPoint_inFront {distance : ℝ} (near : 0 ≤ distance) (inRange : distance ≤ 50) :
    keepsPoint extremeConfig ⟨1 / 2, 1 / 2, 1 / 2⟩ ⟨1, 0, 0, 0⟩
      ⟨1 / 2 + distance, 1 / 2, 1 / 2, 1⟩ = true := by
  have forward : Point.position ⟨1 / 2 + distance, 1 / 2, 1 / 2, 1⟩ - ⟨1 / 2, 1 / 2, 1 / 2⟩ =
      (⟨distance, 0, 0⟩ : Vector3 ℝ) :=
    Vector3.ext (add_sub_cancel_left _ _) (sub_self _) (sub_self _)
  have unrotated : (Quaternion.conjugate (⟨1, 0, 0, 0⟩ : Quaternion ℝ)).rotate ⟨distance, 0, 0⟩ =
      ⟨distance, 0, 0⟩ := by
    apply Vector3.ext <;>
      simp [Quaternion.conjugate, Quaternion.rotate, Vector3.cross, Vector3.scale]
  have square : Vector3.squaredNorm (⟨distance, 0, 0⟩ : Vector3 ℝ) = distance * distance := by
    simp [Vector3.squaredNorm]
  have minRange : extremeConfig.minRange = 0 := max_self 0
  have maxRange : extremeConfig.maxRange = 50 := by
    change max (max 0 0) 50 = (50 : ℝ)
    norm_num
  have notNear : ¬distance * distance < 0 * 0 := by nlinarith
  have notFar : ¬distance * distance > 50 * 50 := by nlinarith
  unfold keepsPoint
  rw [forward, unrotated]
  dsimp only
  rw [square, minRange, maxRange]
  simp only [decide_eq_false notNear, decide_eq_false notFar]
  rfl

theorem acceptScan_cloudInFront {mapper : PointcloudMapper ℝ}
    (latest : mapper.latestOdom = restingOdometry) (received : mapper.haveOdom = true)
    {distance : ℝ} (near : 0 ≤ distance) (inRange : distance ≤ 50) :
    acceptScan extremeConfig mapper (cloudInFront distance) = some (scanInFront distance) := by
  have filtered : prefilter extremeConfig (cloudInFront distance).points ⟨1 / 2, 1 / 2, 1 / 2⟩
      ⟨1, 0, 0, 0⟩ = [⟨1 / 2 + distance, 1 / 2, 1 / 2, 1⟩] := by
    have kept := keepsPoint_inFront near inRange
    change [(⟨1 / 2 + distance, 1 / 2, 1 / 2, 1⟩ : Point ℝ)].filter _ = _
    rw [List.filter_singleton, kept]
    rfl
  have transform := getBodyTransform_resting latest received
  have sameFrame : ¬(mapper.latestOdom.header.frameId ≠ "" ∧
      (cloudInFront distance).header.frameId ≠ "" ∧
      mapper.latestOdom.header.frameId ≠ (cloudInFront distance).header.frameId) := by
    rw [latest]
    exact fun differ => differ.2.2 rfl
  unfold acceptScan
  change getBodyTransform extremeConfig mapper (cloudInFront distance).header.stamp = _ at transform
  rw [transform]
  dsimp only
  rw [if_neg sameFrame, filtered]
  rfl

/-- The sensor is at rest. -/
structure Resting (mapper : PointcloudMapper ℝ) : Prop where
  latestOdom : mapper.latestOdom = restingOdometry
  haveOdom : mapper.haveOdom = true

/-- Clouds with one point each, at the given distances. -/
noncomputable def clouds (distances : List ℝ) : List (Callback ℝ) :=
  distances.map fun distance => .cloud (cloudInFront distance)

/-- The first odometry, and such clouds. -/
noncomputable def facing (distances : List ℝ) : List (Callback ℝ) :=
  .odometry restingOdometry :: clouds distances

theorem resting_start : Resting (run extremeConfig (facing [])) := ⟨rfl, rfl⟩

theorem Resting.scansFrom_clouds {mapper : PointcloudMapper ℝ} (resting : Resting mapper)
    {distances : List ℝ} (inRange : ∀ distance ∈ distances, 0 ≤ distance ∧ distance ≤ 50) :
    scansFrom extremeConfig mapper (clouds distances) = distances.map scanInFront := by
  apply ScoutStack.scansFrom_clouds
  intro distance member
  obtain ⟨near, far⟩ := inRange distance member
  exact acceptScan_cloudInFront resting.latestOdom resting.haveOdom near far

theorem Resting.step_cloud {mapper : PointcloudMapper ℝ} (resting : Resting mapper)
    {distance : ℝ} (near : 0 ≤ distance) (inRange : distance ≤ 50) :
    step extremeConfig mapper (.cloud (cloudInFront distance)) =
        processScan extremeConfig mapper (scanInFront distance) ∧
      Resting (processScan extremeConfig mapper (scanInFront distance)) := by
  have accepted := acceptScan_cloudInFront resting.latestOdom resting.haveOdom near inRange
  have kept := processScan_odometry extremeConfig mapper (scanInFront distance)
  exact ⟨step_cloud_of_some accepted, kept.1.trans resting.latestOdom,
    kept.2.trans resting.haveOdom⟩

/-- A cloud keeps the voxels that were seen, and sees those that it hits. -/
theorem Resting.seenAt_cloud {mapper : PointcloudMapper ℝ} (resting : Resting mapper)
    {distance : ℝ} (near : 0 ≤ distance) (inRange : distance ≤ 50) {key : VoxelKey}
    (seen : key ∈ occupiedThisScan extremeConfig (scanInFront distance) ∨ SeenAt key 1 mapper) :
    Resting (step extremeConfig mapper (.cloud (cloudInFront distance))) ∧
      SeenAt key 1 (step extremeConfig mapper (.cloud (cloudInFront distance))) := by
  have below : extremeConfig.clearingLogOdds < -4 := by
    rw [extreme_clearing]
    linarith [four_lt_log]
  have patient : 0 ≤ extremeConfig.candidateTimeout := by
    change (0 : ℝ) ≤ 3
    norm_num
  obtain ⟨stepped, stays⟩ := resting.step_cloud near inRange
  rw [stepped]
  exact ⟨stays, seenAt_processScan rfl below patient seen⟩

/-- Any number of clouds keeps the voxels that were seen. -/
theorem Resting.seenAt_clouds {distances : List ℝ}
    (inRange : ∀ distance ∈ distances, 0 ≤ distance ∧ distance ≤ 50)
    {mapper : PointcloudMapper ℝ} (resting : Resting mapper) {key : VoxelKey}
    (seen : SeenAt key 1 mapper) :
    SeenAt key 1 (runFrom extremeConfig mapper (clouds distances)) := by
  induction distances generalizing mapper with
  | nil => exact seen
  | cons distance distances ih =>
      obtain ⟨near, far⟩ := inRange distance List.mem_cons_self
      obtain ⟨stays, seenStill⟩ := resting.seenAt_cloud near far (.inr seen)
      exact ih (fun other member => inRange other (List.mem_cons_of_mem _ member)) stays seenStill

theorem coarseKey_inFront (distance : ℝ) :
    coarseKey extremeConfig ⟨1 / 2 + distance, 1 / 2, 1 / 2, 1⟩ = ⟨⌊1 / 2 + distance⌋, 0, 0⟩ := by
  rw [coarseKey, extreme_temporalVoxelSize, voxelKey, div_one, div_one, div_one]
  have floor : ⌊(1 / 2 : ℝ)⌋ = 0 := by norm_num
  change VoxelKey.mk ⌊1 / 2 + distance⌋ ⌊(1 / 2 : ℝ)⌋ ⌊(1 / 2 : ℝ)⌋ = _
  rw [floor]

theorem occupied_inFront (distance : ℝ) :
    occupiedThisScan extremeConfig (scanInFront distance) = {⟨⌊1 / 2 + distance⌋, 0, 0⟩} := by
  rw [occupiedThisScan, scanInFront, List.map_singleton, coarseKey_inFront]
  rfl

/-- The ray to a point four metres ahead passes through the voxel two metres ahead. -/
theorem mem_rayKeys_inFront :
    (⟨2, 0, 0⟩ : VoxelKey) ∈ rayKeys extremeConfig ⟨1 / 2, 1 / 2, 1 / 2⟩
      ⟨1 / 2 + 4, 1 / 2, 1 / 2, 1⟩ := by
  have forward : Point.position ⟨1 / 2 + 4, 1 / 2, 1 / 2, 1⟩ - ⟨1 / 2, 1 / 2, 1 / 2⟩ =
      (⟨4, 0, 0⟩ : Vector3 ℝ) :=
    Vector3.ext (add_sub_cancel_left _ _) (sub_self _) (sub_self _)
  have norm : extremeConfig.norm ⟨4, 0, 0⟩ = 4 := by
    change Real.sqrt (4 * 4 + 0 * 0 + 0 * 0) = 4
    rw [mul_zero, add_zero, add_zero]
    exact Real.sqrt_mul_self (by norm_num)
  unfold rayKeys
  rw [forward]
  dsimp only
  rw [norm, extreme_rayEndpointMargin, extreme_temporalVoxelSize, extreme_maxClearingRange,
    if_neg (by norm_num), if_neg (by norm_num), List.mem_map]
  refine ⟨2, ?_, ?_⟩
  · have floor : ⌊min (20 : ℝ) (4 - 1) / 1⌋ = 3 := by norm_num
    rw [floor]
    decide
  · norm_num [voxelKey, Vector3.divide, Vector3.scale]

theorem mem_missedKeys_inFront :
    (⟨2, 0, 0⟩ : VoxelKey) ∈ missedKeys extremeConfig (scanInFront 4) := by
  have free : (⟨2, 0, 0⟩ : VoxelKey) ∉ occupiedThisScan extremeConfig (scanInFront 4) := by
    have floor : ⌊(1 / 2 + 4 : ℝ)⌋ = 4 := by norm_num
    rw [occupied_inFront, floor]
    decide
  have traced : (⟨1 / 2 + 4, 1 / 2, 1 / 2, 1⟩ : Point ℝ) ∈
      tracedRays extremeConfig (scanInFront 4) := by
    exact List.mem_singleton_self _
  have traces : ¬(!extremeConfig.dynamicFilterEnable || (scanInFront 4).filtered.isEmpty) = true :=
    Bool.false_ne_true
  rw [missedKeys, if_neg traces, List.mem_flatMap]
  refine ⟨_, traced, ?_⟩
  rw [PointcloudMapper.mem_missedAlong_iff (by decide)]
  exact ⟨mem_rayKeys_inFront, free⟩

theorem mem_occupied_inFront :
    (⟨2, 0, 0⟩ : VoxelKey) ∈ occupiedThisScan extremeConfig (scanInFront 2) := by
  have floor : ⌊(1 / 2 + 2 : ℝ)⌋ = 2 := by norm_num
  rw [occupied_inFront, floor]
  exact Finset.mem_singleton_self _

theorem seenAt_facing : Resting (run extremeConfig (facing [2])) ∧
    SeenAt ⟨2, 0, 0⟩ 1 (run extremeConfig (facing [2])) :=
  resting_start.seenAt_cloud (by norm_num) (by norm_num) (.inl mem_occupied_inFront)

/-- Two of the scans that see through the voxel are enough by the bound. -/
theorem enoughMisses_extreme : EnoughMisses extremeConfig ⟨2, 0, 0⟩
    (scansFrom extremeConfig (run extremeConfig (facing [2])) (clouds [4, 4])) := by
  have large := four_lt_log
  rw [seenAt_facing.1.scansFrom_clouds (by norm_num)]
  constructor
  · intro scan member
    have same : scan = scanInFront 4 := by simpa using member
    rw [same]
    exact mem_missedKeys_inFront
  · exact Nat.le_succ 1
  · rw [extreme_clearing, extreme_miss, neg_neg, div_le_iff₀ (by linarith)]
    change 4 - -Real.log 999 ≤ ((2 : ℕ) : ℝ) * Real.log 999
    push_cast
    linarith

/-- Two of the scans that hit the voxel are enough by the bound. -/
theorem enoughHits_extreme : EnoughHits extremeConfig ⟨2, 0, 0⟩
    (scansFrom extremeConfig (run extremeConfig (facing [])) (clouds [2, 2])) := by
  have large := four_lt_log
  have every : ∀ scan ∈ [2, 2].map scanInFront, scan = scanInFront 2 := by simp
  rw [resting_start.scansFrom_clouds (by norm_num)]
  constructor
  · intro scan member
    rw [every scan member]
    exact mem_occupied_inFront
  · intro scan member
    rw [every scan member]
    exact Nat.one_ne_zero
  · exact Nat.le_succ 1
  · rw [extreme_occupied, extreme_hit, div_le_iff₀ (by linarith)]
    change Real.log 999 + 4 ≤ ((2 : ℕ) : ℝ) * Real.log 999
    push_cast
    linarith
  · intro first begins last ends
    rw [every first (List.mem_of_mem_head? begins), every last (List.mem_of_mem_getLast? ends),
      toSec_self]
    change max 0 0 ≤ (0 : ℝ)
    rw [max_self]

end Extreme

/-! ## Hits that are not enough -/

/-- Enough hits in a row, without going back in time, that leave the voxel
unconfirmed. -/
def Unconfirmed [FloorRing K] (cfg : Config K) (key : VoxelKey)
    (before after : List (Callback K)) : Prop :=
  0 ≤ cfg.candidateTimeout ∧ EnoughHits cfg key (scansFrom cfg (run cfg before) after) ∧
    Chronological (scansFrom cfg (run cfg before) after) ∧
    ∀ state ∈ (run cfg (before ++ after)).temporalVoxels.lookup key, isStatic cfg state = false

theorem unconfirmed_extreme : Unconfirmed extremeConfig ⟨2, 0, 0⟩ (facing []) (clouds [2, 2]) := by
  refine ⟨?_, enoughHits_extreme, ?_, ?_⟩
  · change (0 : ℝ) ≤ 3
    norm_num
  · rw [resting_start.scansFrom_clouds (by norm_num)]
    simp [Chronological, scanInFront]
  · intro state found
    apply isStatic_eq_false rfl _ found
    rw [extreme_occupied]
    exact four_lt_log

/-- A voxel whose first hit carries a later stamp than the hits in a row. -/
theorem unconfirmed_span : Unconfirmed spanConfig ⟨2, 0, 0⟩
    (watching [(10 ^ 10, [insideVoxel])])
    (watching ([1, 2, 3, 4, 5].map fun second => (second * 10 ^ 9, [insideVoxel]))) := by
  refine ⟨?_, ⟨?_, ?_, ?_, ?_, ?_⟩, ?_, ?_⟩
  all_goals decide +kernel

/-- A reset among the hits in a row. -/
theorem unconfirmed_reset : Unconfirmed unitConfig ⟨2, 0, 0⟩ []
    (watching (List.replicate 4 (1, [insideVoxel])) ++ [.resetMap] ++
      watching [(1, [insideVoxel])]) := by
  refine ⟨?_, ⟨?_, ?_, ?_, ?_, ?_⟩, ?_, ?_⟩
  all_goals decide +kernel

/-- The first odometry of the sensor at rest. -/
def restingHistory : List (Callback ℚ) := [odometryAt 1 ⟨0, 1 / 2, 1 / 2⟩]

/-- The same cloud over and over. -/
def insideClouds (n : ℕ) : List (Callback ℚ) := List.replicate n (cloudAt 1 [insideVoxel])

/-- What the node makes of it. -/
def insideScan : Scan ℚ :=
  ⟨⟨1, "camera_init"⟩, ⟨0, 1 / 2, 1 / 2⟩, [⟨5 / 2, 1 / 2, 1 / 2, 1⟩]⟩

theorem scansFrom_insideClouds (n : ℕ) :
    scansFrom unitConfig (run unitConfig restingHistory) (insideClouds n) =
      List.replicate n insideScan := by
  have accepted : acceptScan unitConfig (run unitConfig restingHistory)
      ⟨⟨1, "camera_init"⟩, [some ⟨5 / 2, 1 / 2, 1 / 2, 1⟩]⟩ = some insideScan := by decide +kernel
  have scanned : scansFrom unitConfig (run unitConfig restingHistory)
      ((List.replicate n ()).map fun _ => .cloud _) =
        (List.replicate n ()).map fun _ => insideScan :=
    scansFrom_clouds fun _ _ => accepted
  rw [List.map_replicate, List.map_replicate] at scanned
  exact scanned

/-- The hit counter after the same cloud over and over. -/
theorem hitScans_insideClouds {n : ℕ} (short : n < 2 ^ 64 - 2) :
    ∀ state ∈ (run unitConfig (restingHistory ++ insideClouds n)).temporalVoxels.lookup ⟨2, 0, 0⟩,
      state.hitScans = UInt32.ofNat n := by
  have few : FewScans unitConfig (restingHistory ++ insideClouds n) := by
    apply fewScans_of_length
    rw [List.length_append, insideClouds, List.length_replicate]
    change 1 + n < _
    omega
  have scans := scansFrom_insideClouds n
  have every : ∀ scan ∈ scansFrom unitConfig (run unitConfig restingHistory) (insideClouds n),
      scan = insideScan := by
    rw [scans]
    exact fun scan member => List.eq_of_mem_replicate member
  have climbing : ClimbingSlot unitConfig 0 1
      (scansFrom unitConfig (run unitConfig restingHistory) (insideClouds n))
      ((run unitConfig (restingHistory ++ insideClouds n)).temporalVoxels.lookup ⟨2, 0, 0⟩) := by
    apply climbing_run rfl few
    · decide +kernel
    · intro callback member
      rw [List.eq_of_mem_replicate member]
      exact fun same => by cases same
    · intro scan member
      rw [every scan member]
      decide +kernel
    · intro scan member
      rw [every scan member]
      decide
    · intro first begins
      rw [every first (List.mem_of_mem_head? begins)]
      rfl
    · intro state found
      cases found
  intro state found
  have counted := (climbing.2 state found).hitScans
  rw [scans, List.length_replicate, UInt32.zero_add] at counted
  exact counted

theorem enoughHits_insideScan {n : ℕ} (enough : 5 ≤ n) :
    EnoughHits unitConfig ⟨2, 0, 0⟩ (List.replicate n insideScan) := by
  have every : ∀ scan ∈ List.replicate n insideScan, scan = insideScan :=
    fun scan member => List.eq_of_mem_replicate member
  constructor
  · intro scan member
    rw [every scan member]
    decide +kernel
  · intro scan member
    rw [every scan member]
    decide
  · rw [List.length_replicate]
    exact (by decide : 2 ≤ 5).trans enough
  · have bound : ((5 : ℕ) : ℚ) ≤ n := Nat.cast_le.mpr enough
    rw [List.length_replicate]
    apply le_trans _ bound
    decide +kernel
  · intro first begins last ends
    rw [every first (List.mem_of_mem_head? begins), every last (List.mem_of_mem_getLast? ends)]
    decide +kernel

/-- As many hits as bring the 32-bit counter back to zero. -/
theorem unconfirmed_wrapped {n : ℕ} (enough : 5 ≤ n) (short : n < 2 ^ 64 - 2)
    (wrapped : UInt32.ofNat n = 0) :
    Unconfirmed unitConfig ⟨2, 0, 0⟩ restingHistory (insideClouds n) := by
  have scans := scansFrom_insideClouds n
  refine ⟨by decide +kernel, ?_, ?_, ?_⟩
  · rw [scans]
    exact enoughHits_insideScan enough
  · rw [scans]
    exact List.pairwise_replicate.mpr (.inr le_rfl)
  · intro state found
    have counted := hitScans_insideClouds short state found
    rw [wrapped] at counted
    rw [Bool.eq_false_iff]
    intro static
    rw [isStatic_iff rfl, counted] at static
    exact absurd static.1 (by decide)

/-- Both decisions can fail to come: a threshold beyond the saturation limit is never
reached; and hits do not confirm a voxel whose first hit carries a later stamp, one
that a reset has erased in between, or one whose hit counter wraps. -/
theorem decisions_not_reached :
    (SeenAt ⟨2, 0, 0⟩ 1 (run extremeConfig (facing [2])) ∧
      EnoughMisses extremeConfig ⟨2, 0, 0⟩
        (scansFrom extremeConfig (run extremeConfig (facing [2])) (clouds [4, 4])) ∧
      SeenAt ⟨2, 0, 0⟩ 1 (run extremeConfig (facing [2] ++ clouds [4, 4]))) ∧
    Unconfirmed extremeConfig ⟨2, 0, 0⟩ (facing []) (clouds [2, 2]) ∧
    Unconfirmed spanConfig ⟨2, 0, 0⟩ (watching [(10 ^ 10, [insideVoxel])])
      (watching ([1, 2, 3, 4, 5].map fun second => (second * 10 ^ 9, [insideVoxel]))) ∧
    Unconfirmed unitConfig ⟨2, 0, 0⟩ []
      (watching (List.replicate 4 (1, [insideVoxel])) ++ [.resetMap] ++
        watching [(1, [insideVoxel])]) ∧
    Unconfirmed unitConfig ⟨2, 0, 0⟩ restingHistory (insideClouds (2 ^ 32)) := by
  refine ⟨⟨seenAt_facing.2, enoughMisses_extreme, ?_⟩, unconfirmed_extreme, unconfirmed_span,
    unconfirmed_reset, ?_⟩
  · rw [run_append]
    exact seenAt_facing.1.seenAt_clouds (by norm_num) seenAt_facing.2
  · exact unconfirmed_wrapped (by decide) (by decide) (by decide)

end ScoutStack
