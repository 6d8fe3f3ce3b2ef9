import ScoutStack.Mapper.Scan

/-!
# What one callback can do

`Transition` lists the ways a callback changes the mapper: an odometry message
is stored, a scan is absorbed, the map is built, everything is cleared, or
nothing happens.  Invariants are proved by cases on it.
-/

namespace ScoutStack

variable {K : Type*} [Field K] [LinearOrder K] [FloorRing K]

/-- The callbacks that at most build the map cloud. -/
def Callback.buildsMap : Callback K → Bool
  | .publishMapTimer | .saveMap _ | .autosaveTimer _ => true
  | .odometry _ | .cloud _ | .resetMap => false

/-- The ways in which one callback changes the mapper. -/
inductive Transition (cfg : Config K) (mapper : PointcloudMapper K) :
    Callback K → PointcloudMapper K → Prop where
  | odometry (msg : Odometry K) :
      Transition cfg mapper (.odometry msg) (mapper.odomCallback msg)
  | rejected (msg : PointCloud2 K) : acceptScan cfg mapper msg = none →
      Transition cfg mapper (.cloud msg) mapper
  | scan (msg : PointCloud2 K) (scan : Scan K) : acceptScan cfg mapper msg = some scan →
      Transition cfg mapper (.cloud msg) (processScan cfg mapper scan)
  | idle (callback : Callback K) : callback.buildsMap = true →
      Transition cfg mapper callback mapper
  | build (callback : Callback K) (dirty : Bool) : callback.buildsMap = true →
      Transition cfg mapper callback { (mapper.buildMapCloud cfg).1 with dirty := dirty }
  | reset : Transition cfg mapper .resetMap mapper.resetMap

omit [FloorRing K] in
/-- A save either fails and leaves the built mapper, or writes the whole map cloud
and clears the dirty flag. -/
theorem saveMapToDisk_cases (cfg : Config K) (mapper : PointcloudMapper K) (disk : Disk) :
    (mapper.saveMapToDisk cfg disk).success = false ∧
        (mapper.saveMapToDisk cfg disk).written = none ∧
        (mapper.saveMapToDisk cfg disk).mapper = (mapper.buildMapCloud cfg).1 ∨
      (mapper.saveMapToDisk cfg disk).success = true ∧
        (mapper.saveMapToDisk cfg disk).written = some (mapper.buildMapCloud cfg).2 ∧
        (mapper.saveMapToDisk cfg disk).mapper =
          { (mapper.buildMapCloud cfg).1 with dirty := false } := by
  unfold PointcloudMapper.saveMapToDisk
  dsimp only
  split
  next => exact .inl ⟨rfl, rfl, rfl⟩
  next =>
    split
    next => exact .inl ⟨rfl, rfl, rfl⟩
    next =>
      split
      next => exact .inl ⟨rfl, rfl, rfl⟩
      next =>
        split
        next => exact .inl ⟨rfl, rfl, rfl⟩
        next => exact .inr ⟨rfl, rfl, rfl⟩

omit [FloorRing K] in
theorem saveMapToDisk_mapper (cfg : Config K) (mapper : PointcloudMapper K) (disk : Disk) :
    ∃ dirty, (mapper.saveMapToDisk cfg disk).mapper =
      { (mapper.buildMapCloud cfg).1 with dirty := dirty } := by
  rcases saveMapToDisk_cases cfg mapper disk with ⟨_, _, left⟩ | ⟨_, _, left⟩
  · exact ⟨_, left⟩
  · exact ⟨_, left⟩

theorem step_odometry (cfg : Config K) (mapper : PointcloudMapper K) (msg : Odometry K) :
    step cfg mapper (.odometry msg) = mapper.odomCallback msg := rfl

theorem step_resetMap (cfg : Config K) (mapper : PointcloudMapper K) :
    step cfg mapper .resetMap = mapper.resetMap := rfl

theorem step_cloud_of_none {cfg : Config K} {mapper : PointcloudMapper K}
    {msg : PointCloud2 K} (rejected : acceptScan cfg mapper msg = none) :
    step cfg mapper (.cloud msg) = mapper := by
  simp [step, react, PointcloudMapper.cloudCallback, rejected]

theorem step_cloud_of_some {cfg : Config K} {mapper : PointcloudMapper K}
    {msg : PointCloud2 K} {scan : Scan K} (accepted : acceptScan cfg mapper msg = some scan) :
    step cfg mapper (.cloud msg) = processScan cfg mapper scan := by
  simp [step, react, PointcloudMapper.cloudCallback, accepted]

theorem transition (cfg : Config K) (mapper : PointcloudMapper K) (callback : Callback K) :
    Transition cfg mapper callback (step cfg mapper callback) := by
  cases callback with
  | odometry msg => exact .odometry msg
  | cloud msg =>
      cases accepted : acceptScan cfg mapper msg with
      | none =>
          rw [step_cloud_of_none accepted]
          exact .rejected msg accepted
      | some scan =>
          rw [step_cloud_of_some accepted]
          exact .scan msg scan accepted
  | publishMapTimer =>
      unfold step react PointcloudMapper.publishMapTimer
      dsimp only
      split
      next => exact .idle _ rfl
      next => exact .build _ (mapper.buildMapCloud cfg).1.dirty rfl
  | saveMap disk =>
      obtain ⟨dirty, saved⟩ := saveMapToDisk_mapper cfg mapper disk
      unfold step react PointcloudMapper.saveMap
      dsimp only
      rw [saved]
      exact .build _ dirty rfl
  | autosaveTimer disk =>
      obtain ⟨dirty, saved⟩ := saveMapToDisk_mapper cfg mapper disk
      unfold step react PointcloudMapper.autosaveTimer
      dsimp only
      split
      next => exact .idle _ rfl
      next =>
        dsimp only
        rw [saved]
        exact .build _ dirty rfl
  | resetMap => exact .reset

/-- A callback that at most builds the map only touches the fine map and the flag. -/
theorem step_of_buildsMap (cfg : Config K) (mapper : PointcloudMapper K) {callback : Callback K}
    (builds : callback.buildsMap = true) : ∃ fine dirty,
      step cfg mapper callback = { mapper with mapVoxels := fine, dirty := dirty } := by
  have moved := transition cfg mapper callback
  generalize step cfg mapper callback = after at moved
  cases moved with
  | odometry | rejected | scan | reset => cases builds
  | idle => exact ⟨mapper.mapVoxels, mapper.dirty, rfl⟩
  | build _ dirty => exact ⟨(mapper.buildMapCloud cfg).1.mapVoxels, dirty, rfl⟩

omit [FloorRing K] in
/-- Acceptance of a message only depends on the latest odometry. -/
theorem acceptScan_congr (cfg : Config K) {left right : PointcloudMapper K}
    (sameOdom : left.latestOdom = right.latestOdom)
    (sameFlag : left.haveOdom = right.haveOdom) (msg : PointCloud2 K) :
    acceptScan cfg left msg = acceptScan cfg right msg := by
  simp only [acceptScan, getBodyTransform, sameOdom, sameFlag]

/-! ## Runs, extended by one callback -/

section Runs

variable (cfg : Config K) (mapper : PointcloudMapper K) (callbacks : List (Callback K))
  (callback : Callback K)

@[simp] theorem run_nil : run cfg [] = {} := rfl

@[simp] theorem run_append (more : List (Callback K)) :
    run cfg (callbacks ++ more) = runFrom cfg (run cfg callbacks) more :=
  Machine.run_append _ _ _ _

@[simp] theorem runFrom_nil : runFrom cfg mapper [] = mapper := rfl

@[simp] theorem runFrom_cons :
    runFrom cfg mapper (callback :: callbacks) =
      runFrom cfg (step cfg mapper callback) callbacks := rfl

@[simp] theorem runFrom_append (more : List (Callback K)) :
    runFrom cfg mapper (callbacks ++ more) =
      runFrom cfg (runFrom cfg mapper callbacks) more :=
  Machine.run_append _ _ _ _

@[simp] theorem scansFrom_nil : scansFrom cfg mapper [] = [] := rfl

@[simp] theorem scansFrom_cons :
    scansFrom cfg mapper (callback :: callbacks) =
      acceptedScan cfg mapper callback ++ scansFrom cfg (step cfg mapper callback) callbacks :=
  rfl

@[simp] theorem scansFrom_append (more : List (Callback K)) :
    scansFrom cfg mapper (callbacks ++ more) =
      scansFrom cfg mapper callbacks ++ scansFrom cfg (runFrom cfg mapper callbacks) more :=
  Machine.collect_append _ _ _ _ _

@[simp] theorem pointsFrom_nil : pointsFrom cfg mapper [] = [] := rfl

@[simp] theorem pointsFrom_append (more : List (Callback K)) :
    pointsFrom cfg mapper (callbacks ++ more) =
      pointsFrom cfg mapper callbacks ++ pointsFrom cfg (runFrom cfg mapper callbacks) more := by
  simp [pointsFrom]

/-- The points of the last callback come last. -/
theorem pointsFrom_concat (before after : List (Callback K)) :
    pointsFrom cfg (run cfg before) (after ++ [callback]) =
      pointsFrom cfg (run cfg before) after ++
        (acceptedScan cfg (run cfg (before ++ after)) callback).flatMap Scan.filtered := by
  rw [pointsFrom_append, run_append]
  simp [pointsFrom]

/-- The last callback of a history makes one of the transitions. -/
theorem transition_run :
    Transition cfg (run cfg callbacks) callback (run cfg (callbacks ++ [callback])) := by
  rw [run_append, runFrom_cons, runFrom_nil]
  exact transition cfg (run cfg callbacks) callback

end Runs

section Accepted

omit [FloorRing K]

@[simp] theorem acceptedScan_odometry (cfg : Config K) (mapper : PointcloudMapper K)
    (msg : Odometry K) : acceptedScan cfg mapper (.odometry msg) = [] := rfl

@[simp] theorem acceptedScan_resetMap (cfg : Config K) (mapper : PointcloudMapper K) :
    acceptedScan cfg mapper .resetMap = [] := rfl

theorem acceptedScan_cloud_of_some {cfg : Config K} {mapper : PointcloudMapper K}
    {msg : PointCloud2 K} {scan : Scan K} (accepted : acceptScan cfg mapper msg = some scan) :
    acceptedScan cfg mapper (.cloud msg) = [scan] := by
  rw [acceptedScan, accepted]
  rfl

theorem acceptedScan_cloud_of_none {cfg : Config K} {mapper : PointcloudMapper K}
    {msg : PointCloud2 K} (rejected : acceptScan cfg mapper msg = none) :
    acceptedScan cfg mapper (.cloud msg) = [] := by
  rw [acceptedScan, rejected]
  rfl

theorem acceptedScan_of_buildsMap {cfg : Config K} {mapper : PointcloudMapper K}
    {callback : Callback K} (builds : callback.buildsMap = true) :
    acceptedScan cfg mapper callback = [] := by
  cases callback with
  | publishMapTimer | saveMap | autosaveTimer => rfl
  | odometry | cloud | resetMap => cases builds

/-- A callback with a scan delivers the message that the scan comes from. -/
theorem exists_msg_of_mem_acceptedScan {cfg : Config K} {mapper : PointcloudMapper K}
    {callback : Callback K} {scan : Scan K} (member : scan ∈ acceptedScan cfg mapper callback) :
    ∃ msg, callback = .cloud msg ∧ acceptScan cfg mapper msg = some scan := by
  cases callback with
  | cloud msg => exact ⟨msg, rfl, Option.mem_toList.mp member⟩
  | odometry | publishMapTimer | saveMap | autosaveTimer | resetMap => cases member

end Accepted

/-! ## Scan numbers -/

/-- Fewer than `2 ^ 64 - 1` scans are accepted between two resets, so the scan
counter neither wraps nor reaches the value of an untouched marker. -/
def FewScans (cfg : Config K) (callbacks : List (Callback K)) : Prop :=
  ∀ before segment after, callbacks = before ++ segment ++ after →
    (∀ callback ∈ segment, callback ≠ .resetMap) →
    (scansFrom cfg (run cfg before) segment).length < 2 ^ 64 - 1

theorem FewScans.of_append {cfg : Config K} {callbacks more : List (Callback K)}
    (few : FewScans cfg (callbacks ++ more)) : FewScans cfg callbacks := by
  intro before segment after split noReset
  exact few before segment (after ++ more) (by simp [split]) noReset

theorem scansFrom_length_le (cfg : Config K) (mapper : PointcloudMapper K)
    (callbacks : List (Callback K)) :
    (scansFrom cfg mapper callbacks).length ≤ callbacks.length := by
  induction callbacks generalizing mapper with
  | nil => simp
  | cons callback callbacks ih =>
      have atMostOne : (acceptedScan cfg mapper callback).length ≤ 1 := by
        cases callback with
        | cloud msg => exact Option.length_toList_le
        | odometry | publishMapTimer | saveMap | autosaveTimer | resetMap => simp [acceptedScan]
      have rest := ih (step cfg mapper callback)
      simp only [scansFrom_cons, List.length_append, List.length_cons]
      omega

/-- A short history accepts few scans. -/
theorem fewScans_of_length {cfg : Config K} {callbacks : List (Callback K)}
    (short : callbacks.length < 2 ^ 64 - 1) : FewScans cfg callbacks := by
  intro before segment after split _
  have bound := scansFrom_length_le cfg (run cfg before) segment
  have length := congrArg List.length split
  simp only [List.length_append] at length
  omega

/-- The scan counter is the number of scans since the last reset. -/
def Counted (cfg : Config K) (callbacks : List (Callback K)) : Prop :=
  ∃ before segment, callbacks = before ++ segment ∧
    (∀ callback ∈ segment, callback ≠ .resetMap) ∧
    (run cfg callbacks).scanSequence.toNat = (scansFrom cfg (run cfg before) segment).length

/-- A counter that is the number of scans has room for the next one. -/
theorem Counted.room {cfg : Config K} {callbacks : List (Callback K)}
    (counted : Counted cfg callbacks) {msg : PointCloud2 K}
    (few : FewScans cfg (callbacks ++ [.cloud msg])) {scan : Scan K}
    (accepted : acceptScan cfg (run cfg callbacks) msg = some scan) :
    (run cfg callbacks).scanSequence.toNat + 1 < 2 ^ 64 - 1 := by
  obtain ⟨before, segment, split, noReset, count⟩ := counted
  have bound := few before (segment ++ [.cloud msg]) [] (by simp [split]) (by
    intro callback member
    rcases List.mem_append.mp member with old | new
    · exact noReset callback old
    · rw [List.mem_singleton.mp new]
      simp)
  have atEnd : runFrom cfg (run cfg before) segment = run cfg callbacks := by
    rw [split, run_append]
  rw [scansFrom_append, atEnd, scansFrom_cons, acceptedScan_cloud_of_some accepted] at bound
  simp only [List.length_append, List.length_singleton, scansFrom_nil, List.append_nil] at bound
  omega

theorem processScan_scanSequence (cfg : Config K) (mapper : PointcloudMapper K)
    (scan : Scan K) : (processScan cfg mapper scan).scanSequence = mapper.scanSequence + 1 := by
  obtain ⟨_, _, _, _, _, absorbed⟩ := absorbScan_frame cfg mapper scan
  obtain ⟨_, _, frame⟩ := maybeCleanup_frame cfg (absorbScan cfg mapper scan) scan.header.stamp
  rw [processScan, frame, absorbed]

/-- A scan leaves the odometry alone. -/
theorem processScan_odometry (cfg : Config K) (mapper : PointcloudMapper K) (scan : Scan K) :
    (processScan cfg mapper scan).latestOdom = mapper.latestOdom ∧
      (processScan cfg mapper scan).haveOdom = mapper.haveOdom := by
  obtain ⟨_, _, _, _, _, absorbed⟩ := absorbScan_frame cfg mapper scan
  obtain ⟨_, _, frame⟩ := maybeCleanup_frame cfg (absorbScan cfg mapper scan) scan.header.stamp
  rw [processScan, frame, absorbed]
  exact ⟨rfl, rfl⟩

/-- A scan sets the clock of the sweep exactly when it sweeps. -/
theorem processScan_lastCleanup (cfg : Config K) (mapper : PointcloudMapper K)
    (scan : Scan K) :
    (processScan cfg mapper scan).lastCleanup =
      if sweeps cfg mapper scan then scan.header.stamp else mapper.lastCleanup := by
  obtain ⟨_, _, _, _, _, absorbed⟩ := absorbScan_frame cfg mapper scan
  rw [processScan, PointcloudMapper.maybeCleanup, sweeps]
  split
  next => rfl
  next => rw [absorbed]

/-- Clouds that are acceptable under the latest odometry are all accepted, one after
another. -/
theorem scansFrom_clouds {ι : Type*} {cfg : Config K} {mapper : PointcloudMapper K}
    {items : List ι} {msgOf : ι → PointCloud2 K} {scanOf : ι → Scan K}
    (accepted : ∀ item ∈ items, acceptScan cfg mapper (msgOf item) = some (scanOf item)) :
    scansFrom cfg mapper (items.map fun item => .cloud (msgOf item)) = items.map scanOf := by
  induction items generalizing mapper with
  | nil => rfl
  | cons item items ih =>
      have now := accepted item List.mem_cons_self
      obtain ⟨sameOdom, sameFlag⟩ := processScan_odometry cfg mapper (scanOf item)
      have rest : scansFrom cfg (processScan cfg mapper (scanOf item))
          (items.map fun item => .cloud (msgOf item)) = items.map scanOf := by
        apply ih
        intro later member
        rw [acceptScan_congr cfg sameOdom sameFlag]
        exact accepted later (List.mem_cons_of_mem _ member)
      rw [List.map_cons, List.map_cons, scansFrom_cons, acceptedScan_cloud_of_some now,
        step_cloud_of_some now, rest]
      rfl

/-- The number of the next scan, while the counter has room. -/
theorem toNat_nextScan {scan : UInt64} (room : scan.toNat + 1 < 2 ^ 64 - 1) :
    (scan + 1).toNat = scan.toNat + 1 := by
  rw [UInt64.toNat_add, UInt64.toNat_one]
  omega

/-- Extending the counted segment by a callback that is not a reset. -/
private theorem Counted.extend {cfg : Config K} {callbacks : List (Callback K)}
    {callback : Callback K} (counted : Counted cfg callbacks) (noReset : callback ≠ .resetMap)
    (advanced : (step cfg (run cfg callbacks) callback).scanSequence.toNat =
      (run cfg callbacks).scanSequence.toNat +
        (acceptedScan cfg (run cfg callbacks) callback).length) :
    Counted cfg (callbacks ++ [callback]) := by
  obtain ⟨before, segment, split, noResetBefore, count⟩ := counted
  have atEnd : runFrom cfg (run cfg before) segment = run cfg callbacks := by
    rw [split, run_append]
  refine ⟨before, segment ++ [callback], by simp [split], ?_, ?_⟩
  · intro other member
    rcases List.mem_append.mp member with old | new
    · exact noResetBefore other old
    · rw [List.mem_singleton.mp new]
      exact noReset
  · rw [run_append, runFrom_cons, runFrom_nil, scansFrom_append, atEnd, scansFrom_cons,
      advanced, count]
    simp

theorem counted_run {cfg : Config K} {callbacks : List (Callback K)}
    (few : FewScans cfg callbacks) : Counted cfg callbacks := by
  induction callbacks using List.reverseRecOn with
  | nil => exact ⟨[], [], rfl, by simp, rfl⟩
  | append_singleton callbacks callback ih =>
      have counted := ih few.of_append
      have moved := transition cfg (run cfg callbacks) callback
      generalize next : step cfg (run cfg callbacks) callback = after at moved
      cases moved with
      | odometry msg =>
          refine counted.extend (by simp) ?_
          rw [next]
          rfl
      | rejected msg rejected =>
          refine counted.extend (by simp) ?_
          rw [next, acceptedScan_cloud_of_none rejected]
          rfl
      | scan msg scan accepted =>
          refine counted.extend (by simp) ?_
          rw [next, acceptedScan_cloud_of_some accepted, processScan_scanSequence]
          exact toNat_nextScan (counted.room few accepted)
      | idle _ builds =>
          refine counted.extend (by rintro rfl; cases builds) ?_
          rw [next, acceptedScan_of_buildsMap builds]
          rfl
      | build _ dirty builds =>
          refine counted.extend (by rintro rfl; cases builds) ?_
          rw [next, acceptedScan_of_buildsMap builds]
          rfl
      | reset =>
          refine ⟨callbacks ++ [.resetMap], [], by simp, by simp, ?_⟩
          rw [run_append, runFrom_cons, runFrom_nil, next]
          rfl

/-! ## One entry along a run -/

omit [Field K] [LinearOrder K] [FloorRing K] in
theorem append_front {before callbacks after : List (Callback K)} {callback : Callback K}
    (front : callbacks ++ [callback] <+: after) :
    before ++ callbacks ++ [callback] <+: before ++ after := by
  rw [List.append_assoc]
  exact (List.prefix_append_right_inj before).mpr front

/-- The scans up to and including the one of a message. -/
theorem scansFrom_front {cfg : Config K} (before : List (Callback K))
    {callbacks after : List (Callback K)} {msg : PointCloud2 K} {scan : Scan K}
    (front : callbacks ++ [.cloud msg] <+: after)
    (accepted : acceptScan cfg (run cfg (before ++ callbacks)) msg = some scan) :
    scansFrom cfg (run cfg before) callbacks ++ [scan] <+:
      scansFrom cfg (run cfg before) after := by
  obtain ⟨rest, rfl⟩ := front
  have atEnd : runFrom cfg (run cfg before) callbacks = run cfg (before ++ callbacks) :=
    (run_append cfg before callbacks).symm
  rw [scansFrom_append, scansFrom_append, atEnd, scansFrom_cons, scansFrom_nil, List.append_nil,
    acceptedScan_cloud_of_some accepted]
  exact List.prefix_append _ _

theorem FewScans.of_front {cfg : Config K} {front callbacks : List (Callback K)}
    (few : FewScans cfg callbacks) (isFront : front <+: callbacks) : FewScans cfg front := by
  obtain ⟨rest, rfl⟩ := isFront
  exact few.of_append

/-- The slot at one key during a run: what holds at its start, passes through every
scan and survives a reset holds at its end.  The predicate may speak of the scans
that were accepted since the start. -/
theorem slot_run {cfg : Config K} {before after : List (Callback K)} {key : VoxelKey}
    (holds : List (Scan K) → Option (OccupancyVoxelState K) → Prop)
    (start : holds [] ((run cfg before).temporalVoxels.lookup key))
    (scanned : ∀ callbacks msg scan, callbacks ++ [.cloud msg] <+: after →
      acceptScan cfg (run cfg (before ++ callbacks)) msg = some scan →
      holds (scansFrom cfg (run cfg before) callbacks)
        ((run cfg (before ++ callbacks)).temporalVoxels.lookup key) →
      holds (scansFrom cfg (run cfg before) callbacks ++ [scan])
        ((processScan cfg (run cfg (before ++ callbacks)) scan).temporalVoxels.lookup key))
    (reset : .resetMap ∈ after → ∀ scans slot, holds scans slot → holds scans none) :
    holds (scansFrom cfg (run cfg before) after)
      ((run cfg (before ++ after)).temporalVoxels.lookup key) := by
  induction after using List.reverseRecOn with
  | nil =>
      rw [List.append_nil]
      exact start
  | append_singleton after callback ih =>
      have soFar := ih
        (fun callbacks msg scan front =>
          scanned callbacks msg scan (front.trans (List.prefix_append _ _)))
        (fun member => reset (List.mem_append_left _ member))
      have atEnd : runFrom cfg (run cfg before) after = run cfg (before ++ after) :=
        (run_append cfg before after).symm
      rw [scansFrom_append, atEnd, scansFrom_cons, scansFrom_nil, List.append_nil,
        ← List.append_assoc]
      have moved := transition_run cfg (before ++ after) callback
      generalize run cfg (before ++ after ++ [callback]) = next at moved
      cases moved with
      | odometry msg =>
          rw [acceptedScan_odometry, List.append_nil]
          exact soFar
      | rejected msg rejected =>
          rw [acceptedScan_cloud_of_none rejected, List.append_nil]
          exact soFar
      | scan msg scan accepted =>
          rw [acceptedScan_cloud_of_some accepted]
          exact scanned after msg scan (List.prefix_refl _) accepted soFar
      | idle _ builds | build _ _ builds =>
          rw [acceptedScan_of_buildsMap builds, List.append_nil]
          exact soFar
      | reset =>
          rw [acceptedScan_resetMap, List.append_nil]
          exact reset (by simp) _ _ soFar

/-- What holds of a fresh entry and passes through the hits and misses of its key
holds of the entry after every run. -/
theorem entry_run {cfg : Config K} (enabled : cfg.dynamicFilterEnable = true) {key : VoxelKey}
    (holds : List (Scan K) → OccupancyVoxelState K → Prop)
    (fresh : ∀ scans generation, holds scans { generation := generation })
    (hit : ∀ scans scan number state, key ∈ occupiedThisScan cfg scan → holds scans state →
      holds (scans ++ [scan]) (state.hit cfg number scan.header.stamp))
    (missed : ∀ scans scan number state, key ∈ missedKeys cfg scan → holds scans state →
      holds (scans ++ [scan]) (state.lower cfg number scan.header.stamp))
    (kept : ∀ scans scan state, holds scans state → holds (scans ++ [scan]) state)
    {callbacks : List (Callback K)} {state : OccupancyVoxelState K}
    (found : (run cfg callbacks).temporalVoxels.lookup key = some state) :
    holds (scansFrom cfg {} callbacks) state := by
  have every : ∀ state ∈ (run cfg ([] ++ callbacks)).temporalVoxels.lookup key,
      holds (scansFrom cfg {} callbacks) state := by
    apply slot_run fun scans slot => ∀ state ∈ slot, holds scans state
    · intro state present
      cases present
    · intro before msg scan _ accepted held state present
      refine entry_processScan enabled (holds (scansFrom cfg {} before))
        (holds (scansFrom cfg {} before ++ [scan])) held (fresh _) ?_ ?_ ?_ present
      · intro isHit current currentHolds
        exact hit _ _ _ _ (evidence_eq_hit_iff.mp isHit) currentHolds
      · intro isMissed current left currentHolds remains
        rcases OccupancyVoxelState.miss_eq_some remains with rfl | rfl
        · exact kept _ _ _ currentHolds
        · exact missed _ _ _ _ (evidence_eq_miss_iff.mp isMissed) currentHolds
      · intro _ current currentHolds
        exact kept _ _ _ currentHolds
    · intro _ scans slot _ state present
      cases present
  exact every state found

end ScoutStack
