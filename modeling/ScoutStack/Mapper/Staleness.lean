import ScoutStack.Mapper.Confirmed

/-!
# Staleness of candidate voxels

A sweep bounds the age of every candidate by the timeout, and the throttle bounds
the time since the last sweep by the cleanup period.  In between an entry only
changes when it is hit or missed, which makes it new again: a voxel that was
spared while it was static has just been missed when it becomes a candidate.
-/

namespace ScoutStack

variable {K : Type*} [Field K] [LinearOrder K]

/-- At the given time of the last sweep, an entry is static, or it has been seen
since, or it was young enough to be spared. -/
structure OccupancyVoxelState.Timely (cfg : Config K) (clock : Time)
    (state : OccupancyVoxelState K) : Prop where
  seen : state.lastSeen ≠ 0
  spared : isStatic cfg state = true ∨ clock ≤ state.lastSeen ∨
    (toSec clock state.lastSeen : K) ≤ cfg.candidateTimeout

/-- The latest sweep happened at the stamp of some scan, if ever, and left no old
candidate. -/
structure Punctual (cfg : Config K) (scans : List (Scan K)) (mapper : PointcloudMapper K) :
    Prop where
  clock : StampOf scans mapper.lastCleanup
  timely : ∀ key state, mapper.temporalVoxels.lookup key = some state →
    state.Timely cfg mapper.lastCleanup

section Entry

variable {cfg : Config K} {clock : Time} {state : OccupancyVoxelState K}

theorem timely_of_seen {stamp : Time} (seen : state.lastSeen = stamp) (positive : 0 < stamp)
    (ordered : clock ≤ stamp) : state.Timely cfg clock := by
  constructor
  · rw [seen]
    exact Nat.ne_of_gt positive
  · rw [seen]
    exact .inr (.inl ordered)

/-- What a sweep leaves is timely as of now. -/
theorem OccupancyVoxelState.Timely.of_not_expired (timely : state.Timely cfg clock) {now : Time}
    (kept : state.expired cfg now = false) : state.Timely cfg now := by
  constructor
  · exact timely.seen
  · cases static : isStatic cfg state with
    | true => exact .inl rfl
    | false =>
        have young : (toSec now state.lastSeen : K) ≤ cfg.candidateTimeout := by
          simpa [OccupancyVoxelState.expired, static, Time.isZero, timely.seen] using kept
        exact .inr (.inr young)

/-- The age of a candidate is at most the timeout and the time since the last sweep. -/
theorem OccupancyVoxelState.Timely.age_le [IsStrictOrderedRing K]
    (timely : state.Timely cfg clock) (candidate : isStatic cfg state = false) {now : Time}
    (recent : (toSec now clock : K) ≤ max cfg.cleanupPeriod 0) :
    (toSec now state.lastSeen : K) ≤ max cfg.candidateTimeout 0 + max cfg.cleanupPeriod 0 := by
  have split : (toSec now state.lastSeen : K) = toSec clock state.lastSeen + toSec now clock := by
    simp only [toSec]
    ring
  have before : (toSec clock state.lastSeen : K) ≤ max cfg.candidateTimeout 0 := by
    rcases timely.spared with static | since | young
    · rw [candidate] at static
      cases static
    · have order : (toSec clock state.lastSeen : K) ≤ toSec state.lastSeen state.lastSeen :=
        toSec_le_toSec_left state.lastSeen since
      rw [toSec_self] at order
      exact order.trans (le_max_right _ _)
    · exact young.trans (le_max_left _ _)
  rw [split]
  exact add_le_add before recent

end Entry

variable [FloorRing K] {cfg : Config K}

/-- The loops of a scan leave timely entries: those they touch are seen now. -/
theorem timely_absorbScan (enabled : cfg.dynamicFilterEnable = true)
    {mapper : PointcloudMapper K} {scan : Scan K} (positive : 0 < scan.header.stamp)
    (ordered : mapper.lastCleanup ≤ scan.header.stamp)
    (timely : ∀ key state, mapper.temporalVoxels.lookup key = some state →
      state.Timely cfg mapper.lastCleanup)
    {key : VoxelKey} {state : OccupancyVoxelState K}
    (found : (absorbScan cfg mapper scan).temporalVoxels.lookup key = some state) :
    state.Timely cfg mapper.lastCleanup := by
  obtain ⟨generation, absorbed⟩ := lookup_absorbScan enabled mapper scan key
  rw [found] at absorbed
  cases isEvidence : evidence cfg scan key with
  | hit =>
      rw [isEvidence] at absorbed
      obtain rfl := Option.some.inj absorbed
      exact timely_of_seen (OccupancyVoxelState.hit_lastSeen _ _ _ _) positive ordered
  | miss =>
      rw [isEvidence] at absorbed
      obtain ⟨current, present, left⟩ := Option.bind_eq_some_iff.mp absorbed.symm
      rcases OccupancyVoxelState.miss_eq_some left with rfl | rfl
      · exact timely key _ present
      · exact timely_of_seen rfl positive ordered
  | none =>
      rw [isEvidence] at absorbed
      exact timely key state absorbed.symm

/-- A scan that is not behind the last sweep keeps the mapper punctual. -/
theorem Punctual.processScan (enabled : cfg.dynamicFilterEnable = true)
    {mapper : PointcloudMapper K} {scans : List (Scan K)} {scan : Scan K}
    (punctual : Punctual cfg scans mapper) (ordered : Chronological (scans ++ [scan]))
    (positive : 0 < scan.header.stamp) :
    Punctual cfg (scans ++ [scan]) (ScoutStack.processScan cfg mapper scan) := by
  have behind := punctual.clock.le ordered
  have clock := processScan_lastCleanup cfg mapper scan
  constructor
  · rw [clock]
    split
    next => exact .inr ⟨scan, by simp, rfl⟩
    next => exact punctual.clock.extend scan
  · intro key state found
    rw [ScoutStack.processScan, lookup_maybeCleanup, Option.filter_eq_some_iff] at found
    obtain ⟨present, kept⟩ := found
    have timely := timely_absorbScan enabled positive behind punctual.timely present
    rw [clock]
    split
    next due =>
      apply timely.of_not_expired
      have sweeping : (absorbScan cfg mapper scan).cleanupDue cfg scan.header.stamp = true := due
      simpa [sweeping] using kept
    next => exact timely

/-- Every history with positive stamps that do not decrease leaves the mapper punctual. -/
theorem punctual_run (enabled : cfg.dynamicFilterEnable = true) {callbacks : List (Callback K)}
    (ordered : Chronological (scansFrom cfg {} callbacks))
    (positive : ∀ scan ∈ scansFrom cfg {} callbacks, 0 < scan.header.stamp) :
    Punctual cfg (scansFrom cfg {} callbacks) (run cfg callbacks) := by
  induction callbacks using List.reverseRecOn with
  | nil =>
      constructor
      · exact .inl rfl
      · intro key state found
        cases found
  | append_singleton callbacks callback ih =>
      have scans : scansFrom cfg {} (callbacks ++ [callback]) =
          scansFrom cfg {} callbacks ++ acceptedScan cfg (run cfg callbacks) callback := by
        rw [scansFrom_append, scansFrom_cons, scansFrom_nil, List.append_nil]
        rfl
      rw [scans] at ordered positive ⊢
      have punctual := ih (ordered.of_front (List.prefix_append _ _))
        (fun scan member => positive scan (List.mem_append_left _ member))
      have moved := transition_run cfg callbacks callback
      generalize run cfg (callbacks ++ [callback]) = next at moved
      cases moved with
      | odometry msg => simpa using ⟨punctual.clock, punctual.timely⟩
      | rejected msg rejected => simpa [acceptedScan_cloud_of_none rejected] using punctual
      | scan msg scan accepted =>
          rw [acceptedScan_cloud_of_some accepted] at ordered positive ⊢
          exact punctual.processScan enabled ordered (positive scan (by simp))
      | idle _ builds => simpa [acceptedScan_of_buildsMap builds] using punctual
      | build _ dirty builds =>
          rw [acceptedScan_of_buildsMap builds, List.append_nil]
          exact ⟨punctual.clock, punctual.timely⟩
      | reset =>
          -- a reset keeps the time of the last sweep
          rw [acceptedScan_resetMap, List.append_nil]
          constructor
          · exact punctual.clock
          · intro key state found
            cases found

/-- After a scan the last sweep is at most one cleanup period ago. -/
theorem toSec_lastCleanup_le (mapper : PointcloudMapper K) (scan : Scan K) :
    (toSec scan.header.stamp (processScan cfg mapper scan).lastCleanup : K) ≤
      max cfg.cleanupPeriod 0 := by
  rw [processScan_lastCleanup]
  split
  next =>
    rw [toSec_self]
    exact le_max_right _ _
  next idle =>
    obtain ⟨_, _, _, _, _, absorbed⟩ := absorbScan_frame cfg mapper scan
    have throttled : (toSec scan.header.stamp mapper.lastCleanup : K) < cfg.cleanupPeriod := by
      simp only [sweeps, PointcloudMapper.cleanupDue, absorbed, Bool.not_eq_true,
        Bool.not_eq_false', Bool.and_eq_true, decide_eq_true_eq] at idle
      exact idle.1.2
    exact throttled.le.trans (le_max_left _ _)

variable [IsStrictOrderedRing K]

/-- While accepted clouds carry positive stamps that do not decrease, a voxel that is not
static at the end of a `cloudCallback` was seen at most the candidate timeout and the
cleanup period before the stamp of that cloud. -/
theorem candidate_age_le (enabled : cfg.dynamicFilterEnable = true)
    {callbacks : List (Callback K)} {msg : PointCloud2 K} {scan : Scan K}
    (accepted : acceptScan cfg (run cfg callbacks) msg = some scan)
    (ordered : Chronological (scansFrom cfg {} (callbacks ++ [.cloud msg])))
    (positive : ∀ scan ∈ scansFrom cfg {} (callbacks ++ [.cloud msg]), 0 < scan.header.stamp)
    {key : VoxelKey} {state : OccupancyVoxelState K}
    (found : (run cfg (callbacks ++ [.cloud msg])).temporalVoxels.lookup key = some state)
    (candidate : isStatic cfg state = false) :
    (toSec scan.header.stamp state.lastSeen : K) ≤
      max cfg.candidateTimeout 0 + max cfg.cleanupPeriod 0 := by
  have timely := (punctual_run enabled ordered positive).timely key state found
  have stepped : run cfg (callbacks ++ [.cloud msg]) = processScan cfg (run cfg callbacks) scan := by
    rw [run_append, runFrom_cons, runFrom_nil, step_cloud_of_some accepted]
  rw [stepped] at timely
  exact timely.age_le candidate (toSec_lastCleanup_le _ _)

/-- One hit, and a second later the odometry for a cloud elsewhere. -/
def candidateHistory : List (Callback ℚ) :=
  unitHistory ++ [odometryAt (10 ^ 9) ⟨0, 1 / 2, 1 / 2⟩]

theorem candidate_age_le_unit :
    (toSec (10 ^ 9) 1 : ℚ) ≤ max unitConfig.candidateTimeout 0 + max unitConfig.cleanupPeriod 0 := by
  have accepted : acceptScan unitConfig (run unitConfig candidateHistory)
      ⟨⟨10 ^ 9, "camera_init"⟩, [some ⟨0, 9 / 2, 1 / 2, 1⟩]⟩ =
        some ⟨⟨10 ^ 9, "camera_init"⟩, ⟨0, 1 / 2, 1 / 2⟩, [⟨0, 9 / 2, 1 / 2, 1⟩]⟩ := by
    decide +kernel
  have found : (run unitConfig (candidateHistory ++ [.cloud
      ⟨⟨10 ^ 9, "camera_init"⟩, [some ⟨0, 9 / 2, 1 / 2, 1⟩]⟩])).temporalVoxels.lookup ⟨2, 0, 0⟩ =
        some ⟨1, 1, 0, 1, unmarked, 1, 1, 1, 1⟩ := by decide +kernel
  have recorded : scansFrom unitConfig {} (candidateHistory ++ [.cloud
      ⟨⟨10 ^ 9, "camera_init"⟩, [some ⟨0, 9 / 2, 1 / 2, 1⟩]⟩]) =
        [⟨⟨1, "camera_init"⟩, ⟨0, 1 / 2, 1 / 2⟩, [⟨5 / 2, 1 / 2, 1 / 2, 1⟩]⟩,
          ⟨⟨10 ^ 9, "camera_init"⟩, ⟨0, 1 / 2, 1 / 2⟩, [⟨0, 9 / 2, 1 / 2, 1⟩]⟩] := by
    decide +kernel
  apply candidate_age_le rfl accepted ?_ ?_ found (by decide +kernel)
  · rw [recorded]
    simp [Chronological]
  · rw [recorded]
    simp

end ScoutStack
