import ScoutStack.Mapper.Generations

/-!
# Publishing and saving are transparent

A build of the map only touches the fine map and the dirty flag.  What a scan
puts out does not depend on either.  What a later build returns does not depend
on the entries that an earlier one has collected, because a point that lands in
such an entry would have replaced it.
-/

namespace ScoutStack

variable {K : Type*} [Field K] [LinearOrder K]

/-! ## Mappers with the same coarse table -/

/-- Two mappers that differ at most in the fine map and the dirty flag. -/
def SameCoarse (left right : PointcloudMapper K) : Prop :=
  ∃ fine dirty, right = { left with mapVoxels := fine, dirty := dirty }

namespace SameCoarse

variable {left right : PointcloudMapper K}

omit [LinearOrder K] in
theorem refl (mapper : PointcloudMapper K) : SameCoarse mapper mapper :=
  ⟨mapper.mapVoxels, mapper.dirty, rfl⟩

omit [LinearOrder K] in
theorem symm (same : SameCoarse left right) : SameCoarse right left := by
  obtain ⟨fine, dirty, rfl⟩ := same
  exact ⟨left.mapVoxels, left.dirty, rfl⟩

omit [LinearOrder K] in
theorem trans {other : PointcloudMapper K} (first : SameCoarse left right)
    (second : SameCoarse right other) : SameCoarse left other := by
  obtain ⟨_, _, rfl⟩ := first
  obtain ⟨fine, dirty, rfl⟩ := second
  exact ⟨fine, dirty, rfl⟩

theorem updateHit (same : SameCoarse left right) (cfg : Config K) (key : VoxelKey)
    (stamp : Time) : SameCoarse (left.updateHit cfg key stamp) (right.updateHit cfg key stamp) := by
  obtain ⟨fine, dirty, rfl⟩ := same
  rw [PointcloudMapper.updateHit_eq, PointcloudMapper.updateHit_eq]
  exact ⟨fine, dirty, rfl⟩

theorem updateMiss (same : SameCoarse left right) (cfg : Config K) (key : VoxelKey)
    (stamp : Time) :
    SameCoarse (left.updateMiss cfg key stamp) (right.updateMiss cfg key stamp) := by
  obtain ⟨fine, dirty, rfl⟩ := same
  unfold PointcloudMapper.updateMiss
  dsimp only
  split
  next => exact ⟨fine, dirty, rfl⟩
  next =>
    split
    next => exact ⟨fine, dirty, rfl⟩
    next =>
      split
      next => exact ⟨fine, true, rfl⟩
      next => exact ⟨fine, dirty, rfl⟩

theorem updateMisses (same : SameCoarse left right) (cfg : Config K) (stamp : Time)
    (keys : List VoxelKey) :
    SameCoarse (left.updateMisses cfg stamp keys) (right.updateMisses cfg stamp keys) := by
  induction keys generalizing left right with
  | nil => exact same
  | cons key keys ih => exact ih (same.updateMiss cfg key stamp)

theorem maybeCleanup (same : SameCoarse left right) (cfg : Config K) (now : Time) :
    SameCoarse (left.maybeCleanup cfg now) (right.maybeCleanup cfg now) := by
  obtain ⟨fine, dirty, rfl⟩ := same
  have sameDue : PointcloudMapper.cleanupDue cfg
      { left with mapVoxels := fine, dirty := dirty } now = left.cleanupDue cfg now := rfl
  rw [PointcloudMapper.maybeCleanup, PointcloudMapper.maybeCleanup, sameDue]
  split
  next => exact ⟨fine, dirty, rfl⟩
  next => exact ⟨fine, dirty, rfl⟩

theorem build (cfg : Config K) (mapper : PointcloudMapper K) (dirty : Bool) :
    SameCoarse mapper { (mapper.buildMapCloud cfg).1 with dirty := dirty } :=
  ⟨(mapper.buildMapCloud cfg).1.mapVoxels, dirty, rfl⟩

end SameCoarse

/-! ## Scans -/

variable [FloorRing K]

/-- Two point loops with the same coarse table and the same clouds. -/
structure LoopAlike (left right : PointLoop K) : Prop where
  mapper : SameCoarse left.mapper right.mapper
  staticScan : left.staticScan = right.staticScan
  dynamicScan : left.dynamicScan = right.dynamicScan

theorem SameCoarse.addToMap {left right : PointcloudMapper K} (same : SameCoarse left right)
    (cfg : Config K) (occupancy : OccupancyVoxelState K) (other : OccupancyVoxelState K)
    (point : Point K) :
    SameCoarse (left.addToMap cfg occupancy point) (right.addToMap cfg other point) := by
  obtain ⟨fine, dirty, rfl⟩ := same
  exact ⟨_, true, rfl⟩

theorem LoopAlike.processPoint {left right : PointLoop K} (alike : LoopAlike left right)
    (cfg : Config K) (stamp : Time) (point : Point K) :
    LoopAlike (processPoint cfg stamp left point) (processPoint cfg stamp right point) := by
  obtain ⟨leftStatic, leftDynamic⟩ := processPoint_scans cfg stamp left point
  obtain ⟨rightStatic, rightDynamic⟩ := processPoint_scans cfg stamp right point
  have filed : pointIsStatic cfg left.mapper stamp point =
      pointIsStatic cfg right.mapper stamp point := by
    obtain ⟨_, _, frame⟩ := alike.mapper
    rw [frame]
    rfl
  constructor
  · cases enabled : cfg.dynamicFilterEnable with
    | true =>
        rw [processPoint_mapper enabled, processPoint_mapper enabled]
        exact (alike.mapper.updateHit cfg (coarseKey cfg point) stamp).addToMap cfg _ _ point
    | false =>
        obtain ⟨_, leftAdded⟩ := processPoint_mapper_disabled enabled stamp left point
        obtain ⟨_, rightAdded⟩ := processPoint_mapper_disabled enabled stamp right point
        rw [leftAdded, rightAdded]
        exact alike.mapper.addToMap cfg _ _ point
  · rw [leftStatic, rightStatic, filed, alike.staticScan]
  · rw [leftDynamic, rightDynamic, filed, alike.dynamicScan]

theorem LoopAlike.foldl {left right : PointLoop K} (alike : LoopAlike left right)
    (cfg : Config K) (stamp : Time) (points : Cloud K) :
    LoopAlike (points.foldl (ScoutStack.processPoint cfg stamp) left)
      (points.foldl (ScoutStack.processPoint cfg stamp) right) := by
  induction points generalizing left right with
  | nil => exact alike
  | cons point points ih => exact ih (alike.processPoint cfg stamp point)

namespace SameCoarse

variable {left right : PointcloudMapper K}

theorem processPoints (same : SameCoarse left right) (cfg : Config K) (scan : Scan K) :
    LoopAlike (processPoints cfg left scan) (processPoints cfg right scan) := by
  obtain ⟨fine, dirty, rfl⟩ := same
  have started : SameCoarse { left with scanSequence := left.scanSequence + 1 }
      { left with
        mapVoxels := fine, dirty := dirty, scanSequence := left.scanSequence + 1 } :=
    ⟨fine, dirty, rfl⟩
  apply LoopAlike.foldl
  exact ⟨started, rfl, rfl⟩

theorem absorbScan (same : SameCoarse left right) (cfg : Config K) (scan : Scan K) :
    SameCoarse (absorbScan cfg left scan) (absorbScan cfg right scan) := by
  have misses := (same.processPoints cfg scan).mapper.updateMisses cfg scan.header.stamp
    (missedKeys cfg scan)
  rw [← updateFreeSpace_eq, ← updateFreeSpace_eq] at misses
  obtain ⟨fine, dirty, frame⟩ := misses
  rw [ScoutStack.absorbScan, ScoutStack.absorbScan, frame]
  exact ⟨fine, dirty, rfl⟩

theorem processScan (same : SameCoarse left right) (cfg : Config K) (scan : Scan K) :
    SameCoarse (processScan cfg left scan) (processScan cfg right scan) :=
  (same.absorbScan cfg scan).maybeCleanup cfg scan.header.stamp

omit [FloorRing K] in
/-- Both mappers accept the same messages. -/
theorem acceptScan (same : SameCoarse left right) (cfg : Config K) (msg : PointCloud2 K) :
    ScoutStack.acceptScan cfg left msg = ScoutStack.acceptScan cfg right msg := by
  obtain ⟨_, _, rfl⟩ := same
  rfl

/-- A callback that builds no map keeps the coarse tables the same and puts out the
same. -/
theorem react (same : SameCoarse left right) (cfg : Config K) {callback : Callback K}
    (core : callback.buildsMap = false) :
    SameCoarse (step cfg left callback) (step cfg right callback) ∧
      (react cfg left callback).2 = (react cfg right callback).2 := by
  cases callback with
  | odometry msg =>
      obtain ⟨fine, dirty, rfl⟩ := same
      exact ⟨⟨fine, dirty, rfl⟩, rfl⟩
  | cloud msg =>
      have sameScan := same.acceptScan cfg msg
      unfold step ScoutStack.react PointcloudMapper.cloudCallback
      dsimp only
      rw [sameScan]
      cases ScoutStack.acceptScan cfg right msg with
      | none => exact ⟨same, rfl⟩
      | some scan =>
          have loops := same.processPoints cfg scan
          constructor
          · exact same.processScan cfg scan
          · dsimp only
            rw [loops.staticScan, loops.dynamicScan]
  | resetMap =>
      obtain ⟨fine, dirty, rfl⟩ := same
      exact ⟨⟨∅, false, rfl⟩, rfl⟩
  | publishMapTimer | saveMap | autosaveTimer => cases core

/-- A callback that builds the map keeps the coarse table. -/
theorem silent (same : SameCoarse left right) (cfg : Config K) {callback : Callback K}
    (builds : callback.buildsMap = true) : SameCoarse (step cfg left callback) right := by
  obtain ⟨fine, dirty, stepped⟩ := step_of_buildsMap cfg left builds
  rw [stepped]
  exact (symm ⟨fine, dirty, rfl⟩).trans same

end SameCoarse

/-! ## What a build would leave of the fine map -/

section Kept

variable {cfg : Config K} {mapper : PointcloudMapper K} {count : ℕ}

/-- The generations are numbered, if the node uses them at all. -/
def Sound (cfg : Config K) (count : ℕ) (mapper : PointcloudMapper K) : Prop :=
  cfg.dynamicFilterEnable = true → Numbered count mapper

/-- A point does not tell a collectable entry from none. -/
theorem storePoint_kept (sound : Sound cfg count mapper) {point : Point K}
    (room : cfg.dynamicFilterEnable = true → count + creates cfg mapper point ≤ 2 ^ 64)
    (key : VoxelKey) :
    storePoint cfg (pointGeneration cfg mapper point) point (mapper.kept cfg key) =
      storePoint cfg (pointGeneration cfg mapper point) point (mapper.mapVoxels.lookup key) := by
  unfold PointcloudMapper.kept
  cases found : mapper.mapVoxels.lookup key with
  | none => rfl
  | some entry =>
      cases collected : mapper.collects cfg entry with
      | false => simp [Option.filter_some, collected]
      | true =>
          have replaced : entry.sampleCount = 0 ∨
              entry.occupancyGeneration ≠ pointGeneration cfg mapper point := by
            cases enabled : cfg.dynamicFilterEnable with
            | false =>
                exact .inl ((PointcloudMapper.collects_iff_of_disabled enabled entry).mp collected)
            | true =>
                have numbered := sound enabled
                rcases (PointcloudMapper.collects_iff enabled entry).mp collected with empty | dead
                · exact .inl empty
                · apply Or.inr
                  intro same
                  have live := numbered.live_of_generation enabled (room enabled)
                    (numbered.fine key entry found) same
                  rw [numbered.owner key entry _ found live] at dead
                  exact dead live
          have claimed : entry.claim (coarseKey cfg point) (pointGeneration cfg mapper point) =
              MapVoxelState.claim {} (coarseKey cfg point) (pointGeneration cfg mapper point) := by
            rw [MapVoxelState.claim, MapVoxelState.claim, if_pos replaced, if_pos (.inl rfl)]
          simp [storePoint, Option.filter_some, collected, claimed]

/-- A point collects no other entry and brings none back. -/
theorem collects_processPoint {loop : PointLoop K} (sound : Sound cfg count loop.mapper)
    {point : Point K}
    (room : cfg.dynamicFilterEnable = true → count + creates cfg loop.mapper point ≤ 2 ^ 64)
    (stamp : Time) {key : VoxelKey} {entry : MapVoxelState K}
    (found : loop.mapper.mapVoxels.lookup key = some entry) :
    (processPoint cfg stamp loop point).mapper.collects cfg entry =
      loop.mapper.collects cfg entry := by
  rw [Bool.eq_iff_iff]
  cases enabled : cfg.dynamicFilterEnable with
  | false =>
      rw [PointcloudMapper.collects_iff_of_disabled enabled,
        PointcloudMapper.collects_iff_of_disabled enabled]
  | true =>
      have numbered := sound enabled
      rw [PointcloudMapper.collects_iff enabled, PointcloudMapper.collects_iff enabled]
      apply or_congr Iff.rfl
      apply not_congr
      constructor
      · exact numbered.live_of_live_processPoint enabled (room enabled)
          (numbered.fine key entry found)
      · exact live_processPoint_of_live enabled stamp point

/-- What a point makes of the kept entries. -/
theorem kept_processPoint {loop : PointLoop K} (sound : Sound cfg count loop.mapper)
    {point : Point K}
    (room : cfg.dynamicFilterEnable = true → count + creates cfg loop.mapper point ≤ 2 ^ 64)
    (stamp : Time) (key : VoxelKey) :
    (processPoint cfg stamp loop point).mapper.kept cfg key =
      if key = fineKey cfg point then
        (some (storePoint cfg (pointGeneration cfg loop.mapper point) point
          (loop.mapper.kept cfg key))).filter fun entry =>
            !(processPoint cfg stamp loop point).mapper.collects cfg entry
      else loop.mapper.kept cfg key := by
  rw [storePoint_kept sound room, PointcloudMapper.kept, lookup_mapVoxels_processPoint]
  split
  next => rfl
  next =>
    unfold PointcloudMapper.kept
    cases found : loop.mapper.mapVoxels.lookup key with
    | none => rfl
    | some entry =>
        rw [Option.filter_some, Option.filter_some, collects_processPoint sound room stamp found]

/-- What the rest of a scan makes of the kept entries. -/
theorem kept_processScan (scan : Scan K) (key : VoxelKey) :
    (processScan cfg mapper scan).kept cfg key =
      ((processPoints cfg mapper scan).mapper.kept cfg key).filter fun entry =>
        !(processScan cfg mapper scan).collects cfg entry := by
  unfold PointcloudMapper.kept
  rw [processScan_mapVoxels, Option.filter_filter]
  congr 1
  funext entry
  cases collected : (processPoints cfg mapper scan).mapper.collects cfg entry with
  | false => simp
  | true =>
      have stays : (processScan cfg mapper scan).collects cfg entry = true :=
        PointcloudMapper.collects_mono (fun _ _ => live_of_live_processScan scan) collected
      simp [stays]

end Kept

/-! ## Two mappers side by side -/

/-- Two mappers that a build would leave with the same entries. -/
structure Alike (cfg : Config K) (left right : PointcloudMapper K) : Prop where
  coarse : SameCoarse left right
  kept : ∀ key, left.kept cfg key = right.kept cfg key

namespace Alike

variable {cfg : Config K} {left right : PointcloudMapper K} {count : ℕ}

omit [FloorRing K] in
theorem refl (cfg : Config K) (mapper : PointcloudMapper K) : Alike cfg mapper mapper :=
  ⟨.refl mapper, fun _ => rfl⟩

omit [FloorRing K] in
theorem symm (alike : Alike cfg left right) : Alike cfg right left :=
  ⟨alike.coarse.symm, fun key => (alike.kept key).symm⟩

omit [FloorRing K] in
theorem trans {other : PointcloudMapper K} (first : Alike cfg left right)
    (second : Alike cfg right other) : Alike cfg left other :=
  ⟨first.coarse.trans second.coarse, fun key => (first.kept key).trans (second.kept key)⟩

omit [FloorRing K] in
/-- Both mappers collect the same entries. -/
theorem collects (alike : Alike cfg left right) (entry : MapVoxelState K) :
    left.collects cfg entry = right.collects cfg entry := by
  obtain ⟨_, _, rfl⟩ := alike.coarse
  rfl

omit [FloorRing K] in
/-- Both mappers return the same points. -/
theorem map_perm (alike : Alike cfg left right) :
    (left.buildMapCloud cfg).2.Perm (right.buildMapCloud cfg).2 := by
  have emits : left.emits cfg = right.emits cfg := by
    obtain ⟨_, _, rfl⟩ := alike.coarse
    rfl
  apply PointcloudMapper.buildMapCloud_perm
  intro key
  rw [← PointcloudMapper.bind_kept, ← PointcloudMapper.bind_kept, alike.kept, emits]

omit [FloorRing K] in
/-- A build leaves a mapper that is like the one it found. -/
theorem build (cfg : Config K) (mapper : PointcloudMapper K) (dirty : Bool) :
    Alike cfg mapper { (mapper.buildMapCloud cfg).1 with dirty := dirty } := by
  constructor
  · exact .build cfg mapper dirty
  · intro key
    change mapper.kept cfg key = ((mapper.buildMapCloud cfg).1.mapVoxels.lookup key).filter
      fun entry => !mapper.collects cfg entry
    rw [PointcloudMapper.lookup_buildMapCloud, PointcloudMapper.kept, Option.filter_filter]
    simp only [Bool.and_self]

/-- A point keeps the mappers alike. -/
theorem processPoint {left right : PointLoop K} (alike : Alike cfg left.mapper right.mapper)
    (loops : LoopAlike left right) (leftSound : Sound cfg count left.mapper)
    (rightSound : Sound cfg count right.mapper) {point : Point K}
    (room : cfg.dynamicFilterEnable = true → count + creates cfg left.mapper point ≤ 2 ^ 64)
    (stamp : Time) :
    Alike cfg (ScoutStack.processPoint cfg stamp left point).mapper
      (ScoutStack.processPoint cfg stamp right point).mapper := by
  have coarse := (loops.processPoint cfg stamp point).mapper
  have sameGeneration : pointGeneration cfg left.mapper point =
      pointGeneration cfg right.mapper point := by
    obtain ⟨_, _, frame⟩ := alike.coarse
    rw [frame]
    rfl
  have sameCreates : creates cfg left.mapper point = creates cfg right.mapper point := by
    obtain ⟨_, _, frame⟩ := alike.coarse
    rw [frame]
    rfl
  have sameCollects : ∀ entry, (ScoutStack.processPoint cfg stamp left point).mapper.collects cfg
      entry = (ScoutStack.processPoint cfg stamp right point).mapper.collects cfg entry := by
    intro entry
    obtain ⟨_, _, frame⟩ := coarse
    rw [frame]
    rfl
  refine ⟨coarse, ?_⟩
  intro key
  rw [kept_processPoint leftSound room, kept_processPoint rightSound (sameCreates ▸ room),
    alike.kept, sameGeneration]
  simp only [sameCollects]

/-- A point loop keeps the mappers alike. -/
theorem foldl {left right : PointLoop K} (alike : Alike cfg left.mapper right.mapper)
    (loops : LoopAlike left right) (leftSound : Sound cfg count left.mapper)
    (rightSound : Sound cfg count right.mapper) (stamp : Time) (points : Cloud K)
    (room : cfg.dynamicFilterEnable = true →
      count + (left.mapper.temporalVoxels.newKeys (points.map (coarseKey cfg))).card ≤ 2 ^ 64) :
    Alike cfg (points.foldl (ScoutStack.processPoint cfg stamp) left).mapper
      (points.foldl (ScoutStack.processPoint cfg stamp) right).mapper := by
  induction points generalizing count left right with
  | nil => exact alike
  | cons point points ih =>
      have rest : cfg.dynamicFilterEnable = true →
          count + creates cfg left.mapper point +
            ((ScoutStack.processPoint cfg stamp left point).mapper.temporalVoxels.newKeys
              (points.map (coarseKey cfg))).card ≤ 2 ^ 64 := by
        intro enabled
        have all := room enabled
        rw [card_newKeys_processPoint enabled stamp, ← Nat.add_assoc] at all
        exact all
      have first : cfg.dynamicFilterEnable = true →
          count + creates cfg left.mapper point ≤ 2 ^ 64 :=
        fun enabled => (Nat.le_add_right _ _).trans (rest enabled)
      have sameCreates : creates cfg left.mapper point = creates cfg right.mapper point := by
        obtain ⟨_, _, frame⟩ := alike.coarse
        rw [frame]
        rfl
      apply ih (alike.processPoint loops leftSound rightSound first stamp)
        (loops.processPoint cfg stamp point)
      · exact fun enabled => (leftSound enabled).processPoint enabled stamp (first enabled)
      · intro enabled
        have firstToo := first enabled
        rw [sameCreates] at firstToo ⊢
        exact (rightSound enabled).processPoint enabled stamp firstToo
      · exact rest

/-- A scan keeps the mappers alike. -/
theorem processScan (alike : Alike cfg left right) (leftSound : Sound cfg count left)
    (rightSound : Sound cfg count right) (scan : Scan K)
    (room : count + created cfg left scan ≤ 2 ^ 64) :
    Alike cfg (ScoutStack.processScan cfg left scan) (ScoutStack.processScan cfg right scan) := by
  have started : Alike cfg { left with scanSequence := left.scanSequence + 1 }
      { right with scanSequence := right.scanSequence + 1 } := by
    refine ⟨?_, alike.kept⟩
    obtain ⟨fine, dirty, frame⟩ := alike.coarse
    rw [frame]
    exact ⟨fine, dirty, rfl⟩
  have loops : LoopAlike ⟨{ left with scanSequence := left.scanSequence + 1 }, [], []⟩
      ⟨{ right with scanSequence := right.scanSequence + 1 }, [], []⟩ :=
    ⟨started.coarse, rfl, rfl⟩
  have looped : Alike cfg (processPoints cfg left scan).mapper
      (processPoints cfg right scan).mapper := by
    apply started.foldl loops
    · exact fun enabled => (leftSound enabled).loop_start
    · exact fun enabled => (rightSound enabled).loop_start
    · intro enabled
      rw [created, if_pos enabled] at room
      exact room
  have coarse := alike.coarse.processScan cfg scan
  refine ⟨coarse, ?_⟩
  intro key
  have sameCollects : ∀ entry, (ScoutStack.processScan cfg left scan).collects cfg entry =
      (ScoutStack.processScan cfg right scan).collects cfg entry := by
    intro entry
    obtain ⟨_, _, frame⟩ := coarse
    rw [frame]
    rfl
  rw [kept_processScan, kept_processScan, looped.kept]
  simp only [sameCollects]

end Alike

/-! ## Histories with the same scans, odometry and resets -/

section Histories

variable {cfg : Config K} {callbacks callbacks' : List (Callback K)}

/-- The callbacks that build no map. -/
def core (callbacks : List (Callback K)) : List (Callback K) :=
  callbacks.filter fun callback => !callback.buildsMap

omit [Field K] [LinearOrder K] [FloorRing K] in
theorem core_append (first second : List (Callback K)) :
    core (first ++ second) = core first ++ core second :=
  List.filter_append _ _

theorem silent_step (left right : PointcloudMapper K) (callback : Callback K)
    (builds : (!callback.buildsMap) = false) (same : SameCoarse left right) :
    SameCoarse (step cfg left callback) right :=
  same.silent cfg (by simpa using builds)

theorem loud_step (left right : PointcloudMapper K) (callback : Callback K)
    (loud : (!callback.buildsMap) = true) (same : SameCoarse left right) :
    SameCoarse (step cfg left callback) (step cfg right callback) :=
  (same.react cfg (by simpa using loud)).1

/-- Builds create no voxel. -/
theorem creations_core (cfg : Config K) (callbacks : List (Callback K)) :
    creations cfg callbacks = creations cfg (core callbacks) := by
  apply congrArg List.sum
  apply Machine.collect_filter_eq silent_step loud_step _ _ (.refl {}) callbacks
  · intro mapper callback builds
    rw [acceptedScan_of_buildsMap (by simpa using builds)]
    rfl
  · rintro left _ callback - ⟨fine, dirty, rfl⟩
    rfl

/-- A callback that builds the map puts out no scan. -/
theorem noScan_of_buildsMap {mapper : PointcloudMapper K} {callback : Callback K}
    (builds : callback.buildsMap = true) :
    (react cfg mapper callback).2.filter Output.isScan = [] := by
  have files : ∀ result : SaveResult K,
      (SaveResult.files cfg result).filter Output.isScan = [] := by
    intro result
    unfold SaveResult.files
    cases result.written with
    | none => rfl
    | some cloud => rfl
  cases callback with
  | publishMapTimer =>
      unfold react PointcloudMapper.publishMapTimer
      dsimp only
      split
      next => rfl
      next => rfl
  | saveMap disk =>
      unfold react PointcloudMapper.saveMap
      dsimp only
      rw [List.filter_append, files]
      rfl
  | autosaveTimer disk =>
      unfold react PointcloudMapper.autosaveTimer
      dsimp only
      split
      next => rfl
      next => exact files _
  | odometry | cloud | resetMap => cases builds

/-- Builds put out no scan and change none. -/
theorem scans_core (cfg : Config K) (callbacks : List (Callback K)) :
    (outputsFrom cfg {} callbacks).filter Output.isScan =
      (outputsFrom cfg {} (core callbacks)).filter Output.isScan := by
  rw [outputsFrom, outputsFrom, Machine.filter_collect, Machine.filter_collect]
  apply Machine.collect_filter_eq silent_step loud_step _ _ (.refl {}) callbacks
  · intro mapper callback builds
    exact noScan_of_buildsMap (by simpa using builds)
  · intro left right callback loud same
    rw [(same.react cfg (by simpa using loud)).2]

omit [FloorRing K] in
theorem Alike.odometry {left right : PointcloudMapper K} (alike : Alike cfg left right)
    (msg : Odometry K) : Alike cfg (left.odomCallback msg) (right.odomCallback msg) := by
  refine ⟨?_, alike.kept⟩
  obtain ⟨fine, dirty, frame⟩ := alike.coarse
  rw [frame]
  exact ⟨fine, dirty, rfl⟩

omit [FloorRing K] in
theorem Alike.reset {left right : PointcloudMapper K} (alike : Alike cfg left right) :
    Alike cfg left.resetMap right.resetMap := by
  refine ⟨?_, fun _ => rfl⟩
  obtain ⟨fine, dirty, frame⟩ := alike.coarse
  rw [frame]
  exact ⟨∅, false, rfl⟩

/-- Builds leave a mapper that is like the one without them. -/
theorem alike_core (few : creations cfg callbacks ≤ 2 ^ 64) :
    Alike cfg (run cfg callbacks) (run cfg (core callbacks)) := by
  induction callbacks using List.reverseRecOn with
  | nil => exact .refl cfg {}
  | append_singleton callbacks callback ih =>
      rw [creations_concat] at few
      have fewBefore := (Nat.le_add_right _ _).trans few
      have alike := ih fewBefore
      have leftSound : Sound cfg (creations cfg callbacks) (run cfg callbacks) :=
        fun enabled => numbered_run enabled fewBefore
      have rightSound : Sound cfg (creations cfg callbacks) (run cfg (core callbacks)) := by
        intro enabled
        rw [creations_core] at fewBefore ⊢
        exact numbered_run enabled fewBefore
      rw [core_append, run_append cfg (core callbacks)]
      have moved := transition_run cfg callbacks callback
      generalize run cfg (callbacks ++ [callback]) = next at moved
      cases moved with
      | odometry msg => exact alike.odometry msg
      | rejected msg rejected =>
          have rejectedToo := (alike.coarse.acceptScan cfg msg).symm.trans rejected
          have stepped : runFrom cfg (run cfg (core callbacks)) (core [.cloud msg]) =
              run cfg (core callbacks) := step_cloud_of_none rejectedToo
          rw [stepped]
          exact alike
      | scan msg scan accepted =>
          have acceptedToo := (alike.coarse.acceptScan cfg msg).symm.trans accepted
          have stepped : runFrom cfg (run cfg (core callbacks)) (core [.cloud msg]) =
              processScan cfg (run cfg (core callbacks)) scan := step_cloud_of_some acceptedToo
          rw [acceptedScan_cloud_of_some accepted, List.map_singleton, List.sum_singleton] at few
          rw [stepped]
          exact alike.processScan leftSound rightSound scan few
      | idle _ builds =>
          have silent : core [callback] = [] := by simp [core, builds]
          rw [silent]
          exact alike
      | build _ dirty builds =>
          have silent : core [callback] = [] := by simp [core, builds]
          rw [silent]
          exact (Alike.build cfg _ dirty).symm.trans alike
      | reset => exact alike.reset

/-- Histories with the same core leave mappers that are alike. -/
theorem alike_run (sameCore : core callbacks = core callbacks')
    (few : creations cfg callbacks ≤ 2 ^ 64) :
    Alike cfg (run cfg callbacks) (run cfg callbacks') := by
  have fewToo : creations cfg callbacks' ≤ 2 ^ 64 := by
    rw [creations_core, ← sameCore, ← creations_core]
    exact few
  have first := alike_core few
  rw [sameCore] at first
  exact first.trans (alike_core fewToo).symm

/-- Alike mappers answer alike; an autosave is a matter of the dirty flag. -/
theorem Alike.react {left right : PointcloudMapper K} (alike : Alike cfg left right)
    {callback : Callback K} (prompted : ∀ disk, callback ≠ .autosaveTimer disk) :
    List.Forall₂ Output.Same (react cfg left callback).2 (react cfg right callback).2 := by
  cases builds : callback.buildsMap with
  | false =>
      rw [(alike.coarse.react cfg builds).2]
      exact List.forall₂_same.mpr fun output _ => .refl output
  | true =>
      cases callback with
      | publishMapTimer =>
          obtain ⟨_, _, frame⟩ := alike.coarse
          have points := alike.map_perm
          unfold ScoutStack.react PointcloudMapper.publishMapTimer
          dsimp only
          have sameFrame : right.frameId = left.frameId := by rw [frame]
          have sameStamp : right.lastCloudStamp = left.lastCloudStamp := by rw [frame]
          rw [sameFrame, sameStamp]
          split
          next => exact .nil
          next => exact .cons (.staticMap _ points) .nil
      | saveMap disk =>
          obtain ⟨success, message, files, _⟩ :=
            PointcloudMapper.saveMapToDisk_of_perm alike.map_perm disk
          unfold ScoutStack.react PointcloudMapper.saveMap
          dsimp only
          rw [success, message]
          exact List.rel_append files (.cons (.refl _) .nil)
      | autosaveTimer disk => exact absurd rfl (prompted disk)
      | odometry | cloud | resetMap => cases builds

/-- What the node puts out, autosaves apart. -/
def promptedOutputs (cfg : Config K) (mapper : PointcloudMapper K)
    (callbacks : List (Callback K)) : List (Output K) :=
  Machine.collect (step cfg) (fun mapper callback =>
    match callback with
    | .autosaveTimer _ => []
    | callback => (react cfg mapper callback).2) mapper callbacks

theorem promptedOutputs_concat (mapper : PointcloudMapper K) (callback : Callback K) :
    promptedOutputs cfg mapper (callbacks ++ [callback]) =
      promptedOutputs cfg mapper callbacks ++
        match callback with
        | .autosaveTimer _ => []
        | callback => (react cfg (runFrom cfg mapper callbacks) callback).2 := by
  rw [promptedOutputs, Machine.collect_append, Machine.collect_cons, Machine.collect_nil,
    List.append_nil]
  rfl

/-- After two histories with the same core the node puts out the same. -/
theorem promptedOutputs_same (sameCore : core callbacks = core callbacks')
    {after : List (Callback K)} (few : creations cfg (callbacks ++ after) ≤ 2 ^ 64) :
    List.Forall₂ Output.Same (promptedOutputs cfg (run cfg callbacks) after)
      (promptedOutputs cfg (run cfg callbacks') after) := by
  induction after using List.reverseRecOn with
  | nil => exact .nil
  | append_singleton after callback ih =>
      rw [← List.append_assoc, creations_concat] at few
      have fewBefore := (Nat.le_add_right _ _).trans few
      have alike : Alike cfg (run cfg (callbacks ++ after)) (run cfg (callbacks' ++ after)) := by
        apply alike_run _ fewBefore
        rw [core_append, core_append, sameCore]
      rw [promptedOutputs_concat, promptedOutputs_concat, ← run_append, ← run_append]
      apply List.rel_append (ih fewBefore)
      cases callback with
      | autosaveTimer disk => exact .nil
      | odometry | cloud | publishMapTimer | saveMap | resetMap =>
          exact alike.react fun _ same => by cases same

/-- Timers and saves do not show in the scans, nor, while no generation comes round
again, in the map cloud or in any later answer; and a build collects exactly the empty
entries and, with the dynamic filter on, those of a voxel that is not live. -/
theorem builds_transparent (cfg : Config K) (sameCore : core callbacks = core callbacks') :
    (outputsFrom cfg {} callbacks).filter Output.isScan =
        (outputsFrom cfg {} callbacks').filter Output.isScan ∧
      (creations cfg callbacks ≤ 2 ^ 64 →
        ((run cfg callbacks).buildMapCloud cfg).2.Perm
          ((run cfg callbacks').buildMapCloud cfg).2) ∧
      (∀ after, creations cfg (callbacks ++ after) ≤ 2 ^ 64 →
        List.Forall₂ Output.Same (promptedOutputs cfg (run cfg callbacks) after)
          (promptedOutputs cfg (run cfg callbacks') after)) ∧
      ∀ fine entry,
        ((run cfg callbacks).buildMapCloud cfg).1.mapVoxels.lookup fine = some entry ↔
          (run cfg callbacks).mapVoxels.lookup fine = some entry ∧ entry.sampleCount ≠ 0 ∧
            (cfg.dynamicFilterEnable = true →
              (run cfg callbacks).Live entry.occupancyKey entry.occupancyGeneration) := by
  refine ⟨?_, ?_, ?_, ?_⟩
  · rw [scans_core, sameCore, ← scans_core]
  · intro few
    exact (alike_run sameCore few).map_perm
  · intro after few
    exact promptedOutputs_same sameCore few
  · intro fine entry
    rw [PointcloudMapper.lookup_buildMapCloud, PointcloudMapper.kept, Option.filter_eq_some_iff,
      Bool.not_eq_true', ← Bool.not_eq_true]
    apply and_congr_right
    intro _
    cases enabled : cfg.dynamicFilterEnable with
    | true =>
        rw [PointcloudMapper.collects_iff enabled, not_or, not_not]
        simp
    | false =>
        rw [PointcloudMapper.collects_iff_of_disabled enabled]
        simp

end Histories

/-- A voxel is confirmed, with the map published and saved in between. -/
theorem builds_transparent_unit :
    ((run unitConfig (unitHistory ++ [.publishMapTimer, .saveMap {}] ++
        watching [(1, [insideVoxel])])).buildMapCloud unitConfig).2.Perm
      ((run unitConfig (unitHistory ++ watching [(1, [insideVoxel])])).buildMapCloud
        unitConfig).2 := by
  have sameCore : core (unitHistory ++ [.publishMapTimer, .saveMap {}] ++
      watching [(1, [insideVoxel])]) = core (unitHistory ++ watching [(1, [insideVoxel])]) := rfl
  exact (builds_transparent unitConfig sameCore).2.1 (by decide +kernel)

/-! ## Where builds show -/

section Visible

/-- A confirmed voxel and a candidate; the map is saved, and the candidate expires in a
scan without points. -/
def expiredHistory : List (Callback ℚ) :=
  watching [(1, [insideVoxel]), (1, [insideVoxel, elsewhere])] ++ [.saveMap {}] ++
    watching [(10 ^ 10, [])]

theorem unfiltered_kept : ∃ fine entry,
    ((run unfilteredConfig unitHistory).buildMapCloud unfilteredConfig).1.mapVoxels.lookup fine =
        some entry ∧
      ¬(run unfilteredConfig unitHistory).Live entry.occupancyKey entry.occupancyGeneration := by
  refine ⟨⟨2, 0, 0⟩, ⟨⟨5 / 2, 1 / 2, 1 / 2⟩, 1, 1, ⟨2, 0, 0⟩, 1⟩, by decide +kernel, ?_⟩
  have absent : (run unfilteredConfig unitHistory).temporalVoxels.lookup ⟨2, 0, 0⟩ = none := by
    decide +kernel
  rintro ⟨state, found, _⟩
  rw [absent] at found
  cases found

theorem autosave_differs :
    (react unitConfig (run unitConfig (expiredHistory ++ [.publishMapTimer]))
        (.autosaveTimer {})).2 ≠
      (react unitConfig (run unitConfig expiredHistory) (.autosaveTimer {})).2 := by
  decide +kernel

/-! ### A generation comes round again -/

/-- Coarse and fine key of the voxel that is hit again. -/
def againKey : VoxelKey := ⟨0, 4, 0⟩

/-- The point of the later hits. -/
def againPoint : Vector3 ℚ := ⟨0, 19 / 4, 1 / 2⟩

/-- The voxel of the first generation, which expires at once. -/
def firstLife : List (Callback ℚ) := churnStart ++ [cloudAt 2 [elsewhere]]

/-- Two later hits. -/
def secondLife : List (Callback ℚ) := [cloudAt 1 [againPoint], cloudAt 1 [againPoint]]

/-- The fine map apart from the voxel that is hit again. -/
structure Apart (entry : Option (MapVoxelState ℚ)) (mapper : PointcloudMapper ℚ) : Prop where
  here : mapper.mapVoxels.lookup againKey = entry
  others : ∀ key other, key ≠ againKey → mapper.mapVoxels.lookup key = some other →
    other.occupancyKey ≠ againKey

/-- A cloud elsewhere leaves the fine voxel alone. -/
theorem Apart.processScan {entry : Option (MapVoxelState ℚ)} {mapper : PointcloudMapper ℚ}
    (apart : Apart entry mapper) (stamp : Time) :
    Apart entry (ScoutStack.processScan churnConfig mapper (pointScan stamp insideVoxel)) := by
  constructor
  · have away : againKey ≠ voxelKey insideVoxel 1 := by decide +kernel
    rw [mapVoxels_pointScan, if_neg away]
    exact apart.here
  · intro key other elsewhere found
    rw [mapVoxels_pointScan] at found
    split at found
    next =>
      obtain rfl := Option.some.inj found
      have own : coarseKey churnConfig
          ⟨insideVoxel.x, insideVoxel.y, insideVoxel.z, 1⟩ ≠ againKey := by decide +kernel
      rcases storePoint_cases churnConfig (mapper.entryFor key).generation
        ⟨insideVoxel.x, insideVoxel.y, insideVoxel.z, 1⟩ (mapper.mapVoxels.lookup key) with
        started | ⟨old, present, _, _, added⟩
      · rw [started]
        exact own
      · rw [added]
        exact apart.others key old elsewhere present
    next => exact apart.others key other elsewhere found

theorem Apart.churn {entry : Option (MapVoxelState ℚ)} {count : ℕ}
    {callbacks : List (Callback ℚ)} (idle : Idle count (run churnConfig callbacks))
    (apart : Apart entry (run churnConfig callbacks)) (n : ℕ) :
    Apart entry (run churnConfig (callbacks ++ ScoutStack.churn n)) := by
  induction n with
  | zero =>
      rw [ScoutStack.churn, List.replicate_zero, List.append_nil]
      exact apart
  | succ n ih =>
      rw [(run_churn_succ (idle_churn idle n).1).1]
      exact ih.processScan 2

/-- A later hit, sample included. -/
def againSample (generation : UInt64) (entry : Option (MapVoxelState ℚ)) : MapVoxelState ℚ :=
  storePoint churnConfig generation ⟨againPoint.x, againPoint.y, againPoint.z, 1⟩ entry

/-- Everything a later hit does. -/
theorem processScan_again {mapper : PointcloudMapper ℚ} {state : OccupancyVoxelState ℚ}
    {entry : Option (MapVoxelState ℚ)}
    (only : ∀ key, key ≠ againKey → mapper.temporalVoxels.lookup key = none)
    (clock : mapper.lastCleanup = 2) (present : mapper.entryFor againKey = state)
    (apart : Apart entry mapper) :
    (processScan churnConfig mapper (pointScan 1 againPoint)).lastCleanup = 2 ∧
      (∀ key, (processScan churnConfig mapper (pointScan 1 againPoint)).temporalVoxels.lookup key =
        if key = againKey then some (state.hit churnConfig (mapper.scanSequence + 1) 1)
        else none) ∧
      Apart (some (againSample state.generation entry))
        (processScan churnConfig mapper (pointScan 1 againPoint)) := by
  have here : voxelKey againPoint 1 = againKey := by decide +kernel
  rw [← here] at only
  obtain ⟨clockToo, coarse⟩ := processScan_late only clock
  refine ⟨clockToo, ?_, ?_, ?_⟩
  · intro key
    rw [coarse, here]
    split
    next same => rw [same, present]
    next => rfl
  · rw [mapVoxels_pointScan, if_pos here.symm, present, apart.here]
    rfl
  · intro key other elsewhere found
    rw [mapVoxels_pointScan, here, if_neg elsewhere] at found
    exact apart.others key other elsewhere found

/-- The voxel after its first and its second later hit. -/
def hitOnce : OccupancyVoxelState ℚ :=
  ({ generation := 1 } : OccupancyVoxelState ℚ).hit churnConfig 1 1

def hitTwice : OccupancyVoxelState ℚ := hitOnce.hit churnConfig 2 1

/-- The two tables after the later hits, when generation one comes round again. -/
theorem tables_secondLife {count : ℕ} {callbacks : List (Callback ℚ)}
    (idle : Idle count (run churnConfig callbacks)) (positive : count ≠ 0)
    (round : UInt64.ofNat count = 0) {entry : Option (MapVoxelState ℚ)}
    (apart : Apart entry (run churnConfig callbacks)) :
    (∀ key, (run churnConfig (callbacks ++ secondLife)).temporalVoxels.lookup key =
        if key = againKey then some hitTwice else none) ∧
      Apart (some (againSample 1 (some (againSample 1 entry))))
        (run churnConfig (callbacks ++ secondLife)) := by
  generalize start : run churnConfig callbacks = mapper at idle apart
  have accepted : acceptScan churnConfig mapper
      ⟨⟨1, "camera_init"⟩, [some ⟨0, 19 / 4, 1 / 2, 1⟩]⟩ = some (pointScan 1 againPoint) := by
    apply idle.acceptScan
    decide +kernel
  obtain ⟨sameOdom, sameFlag⟩ := processScan_odometry churnConfig mapper (pointScan 1 againPoint)
  have acceptedToo := (acceptScan_congr churnConfig sameOdom sameFlag _).trans accepted
  have ends : run churnConfig (callbacks ++ secondLife) = processScan churnConfig
      (processScan churnConfig mapper (pointScan 1 againPoint)) (pointScan 1 againPoint) := by
    rw [run_append, start]
    change step churnConfig (step churnConfig mapper (cloudAt 1 [againPoint])) _ = _
    have first : step churnConfig mapper (cloudAt 1 [againPoint]) = _ :=
      step_cloud_of_some accepted
    rw [first]
    exact step_cloud_of_some acceptedToo
  have fresh : mapper.entryFor againKey = { generation := 1 } := by
    rw [idle.entryFor, UInt64.ofNat_add, round]
    rfl
  have clock : mapper.lastCleanup = 2 := by
    rw [idle.clock, if_neg positive]
  obtain ⟨clockOnce, coarseOnce, apartOnce⟩ :=
    processScan_again (fun key _ => idle.voxels key) clock fresh apart
  have sequence := processScan_scanSequence churnConfig mapper (pointScan 1 againPoint)
  rw [idle.sequence, round] at sequence coarseOnce
  generalize processScan churnConfig mapper (pointScan 1 againPoint) = middle at *
  have once : middle.entryFor againKey = hitOnce := by
    rw [PointcloudMapper.entryFor, coarseOnce, if_pos rfl]
    rfl
  have only : ∀ key, key ≠ againKey → middle.temporalVoxels.lookup key = none := by
    intro key elsewhere
    rw [coarseOnce, if_neg elsewhere]
  obtain ⟨_, coarseTwice, apartTwice⟩ := processScan_again only clockOnce once apartOnce
  rw [sequence] at coarseTwice
  rw [ends]
  exact ⟨coarseTwice, apartTwice⟩

/-- The only point of the map cloud is the mean of the entry that is hit again. -/
theorem mem_map_secondLife {count : ℕ} {callbacks : List (Callback ℚ)}
    (idle : Idle count (run churnConfig callbacks)) (positive : count ≠ 0)
    (round : UInt64.ofNat count = 0) {entry : Option (MapVoxelState ℚ)}
    (apart : Apart entry (run churnConfig callbacks)) (point : Point ℚ) :
    point ∈ ((run churnConfig (callbacks ++ secondLife)).buildMapCloud churnConfig).2 ↔
      PointcloudMapper.emits churnConfig (run churnConfig (callbacks ++ secondLife))
        (againSample 1 (some (againSample 1 entry))) = some point := by
  obtain ⟨coarse, apartTwice⟩ := tables_secondLife idle positive round apart
  rw [PointcloudMapper.mem_buildMapCloud]
  constructor
  · rintro ⟨key, other, found, emitted⟩
    by_cases same : key = againKey
    · rw [same, apartTwice.here] at found
      rw [Option.some.inj found]
      exact emitted
    · have gone := apartTwice.others key other same found
      rw [PointcloudMapper.emits_eq_some_iff rfl] at emitted
      obtain ⟨_, _, occupancy, present, _⟩ := emitted
      rw [coarse, if_neg gone] at present
      cases present
  · intro emitted
    exact ⟨againKey, _, apartTwice.here, emitted⟩

theorem idle_firstLife : Idle 1 (run churnConfig firstLife) := by
  have message : acceptScan churnConfig (run churnConfig churnStart)
      ⟨⟨2, "camera_init"⟩, [some ⟨0, 9 / 2, 1 / 2, 1⟩]⟩ = some (pointScan 2 elsewhere) := by
    decide +kernel
  have stepped : run churnConfig firstLife =
      processScan churnConfig (run churnConfig churnStart) (pointScan 2 elsewhere) := by
    rw [firstLife, run_append]
    exact step_cloud_of_some message
  rw [stepped]
  exact idle_start.processScan elsewhere

/-- A build leaves the mapper idle. -/
theorem idle_published {count : ℕ} {callbacks : List (Callback ℚ)}
    (idle : Idle count (run churnConfig callbacks)) :
    Idle count (run churnConfig (callbacks ++ [.publishMapTimer])) := by
  obtain ⟨fine, dirty, stepped⟩ :=
    step_of_buildsMap churnConfig (run churnConfig callbacks)
      (rfl : (Callback.publishMapTimer : Callback ℚ).buildsMap = true)
  rw [run_append, runFrom_cons, runFrom_nil, stepped]
  exact ⟨idle.latestOdom, idle.haveOdom, idle.voxels, idle.next, idle.sequence, idle.clock⟩

/-- The entry of the first life. -/
def staleEntry : MapVoxelState ℚ := ⟨⟨0, 9 / 2, 1 / 2⟩, 1, 1, againKey, 1⟩

theorem apart_firstLife : Apart (some staleEntry) (run churnConfig firstLife) := by
  have entries : (run churnConfig firstLife).mapVoxels.entries = [⟨againKey, staleEntry⟩] := by
    decide +kernel
  constructor
  · decide +kernel
  · intro key other elsewhere found
    rw [← Table.mem_entries_iff, entries, List.mem_singleton] at found
    cases found
    exact absurd rfl elsewhere

theorem apart_published :
    Apart none (run churnConfig (firstLife ++ [.publishMapTimer])) := by
  have entries :
      (run churnConfig (firstLife ++ [.publishMapTimer])).mapVoxels.entries = [] := by
    decide +kernel
  constructor
  · decide +kernel
  · intro key other _ found
    rw [← Table.mem_entries_iff, entries] at found
    cases found

/-- The point that the entry adds to the map cloud. -/
theorem emits_secondLife {mapper : PointcloudMapper ℚ}
    (coarse : mapper.temporalVoxels.lookup againKey = some hitTwice) {entry : MapVoxelState ℚ}
    (counted : entry.sampleCount ≠ 0) (sameKey : entry.occupancyKey = againKey)
    (sameGeneration : entry.occupancyGeneration = 1) :
    mapper.emits churnConfig entry = some entry.mean := by
  rw [PointcloudMapper.emits_eq_some_iff rfl, sameKey]
  exact ⟨counted, rfl, hitTwice, coarse, sameGeneration ▸ rfl, by decide +kernel⟩

/-- After as many voxels as there are generations, a build in the first life shows. -/
theorem build_shows {n : ℕ} (round : UInt64.ofNat (1 + n) = 0) :
    ¬((run churnConfig (firstLife ++ [.publishMapTimer] ++ churn n ++ secondLife)).buildMapCloud
        churnConfig).2.Perm
      ((run churnConfig (firstLife ++ churn n ++ secondLife)).buildMapCloud churnConfig).2 := by
  have positive : 1 + n ≠ 0 := by omega
  have idle := (idle_churn idle_firstLife n).1
  have apart := apart_firstLife.churn idle_firstLife n
  have idleToo := (idle_churn (idle_published idle_firstLife) n).1
  have apartToo := apart_published.churn (idle_published idle_firstLife) n
  have coarse := (tables_secondLife idle positive round apart).1 againKey
  rw [if_pos rfl] at coarse
  have emitted : (againSample 1 (some (againSample 1 (some staleEntry)))).mean ∈
      ((run churnConfig (firstLife ++ churn n ++ secondLife)).buildMapCloud churnConfig).2 := by
    rw [mem_map_secondLife idle positive round apart]
    exact emits_secondLife coarse (by decide +kernel) (by decide +kernel) (by decide +kernel)
  have coarseToo := (tables_secondLife idleToo positive round apartToo).1 againKey
  rw [if_pos rfl] at coarseToo
  intro same
  have emittedToo := (same.mem_iff).mpr emitted
  have only :
      PointcloudMapper.emits churnConfig _ (againSample 1 (some (againSample 1 none))) = _ :=
    emits_secondLife coarseToo (by decide +kernel) (by decide +kernel) (by decide +kernel)
  rw [mem_map_secondLife idleToo positive round apartToo, only] at emittedToo
  have means : (againSample 1 (some (againSample 1 none))).mean ≠
      (againSample 1 (some (againSample 1 (some staleEntry)))).mean := by decide +kernel
  exact means (Option.some.inj emittedToo)

end Visible

/-- Builds can show: without the dynamic filter they collect no entry of a voxel that is
not live; the dirty flag that they set makes the next autosave write a file; and once
a generation has come round again, a stale entry that was not collected is taken for
one of the new voxel. -/
theorem builds_not_transparent :
    (∃ fine entry,
      ((run unfilteredConfig unitHistory).buildMapCloud unfilteredConfig).1.mapVoxels.lookup fine =
          some entry ∧
        ¬(run unfilteredConfig unitHistory).Live entry.occupancyKey entry.occupancyGeneration) ∧
    (react unitConfig (run unitConfig (expiredHistory ++ [.publishMapTimer]))
        (.autosaveTimer {})).2 ≠
      (react unitConfig (run unitConfig expiredHistory) (.autosaveTimer {})).2 ∧
    core (firstLife ++ [.publishMapTimer] ++ churn (2 ^ 64 - 1) ++ secondLife) =
        core (firstLife ++ churn (2 ^ 64 - 1) ++ secondLife) ∧
      ¬((run churnConfig (firstLife ++ [.publishMapTimer] ++ churn (2 ^ 64 - 1) ++
          secondLife)).buildMapCloud churnConfig).2.Perm
        ((run churnConfig (firstLife ++ churn (2 ^ 64 - 1) ++ secondLife)).buildMapCloud
          churnConfig).2 := by
  refine ⟨unfiltered_kept, autosave_differs, ?_, build_shows (by decide)⟩
  have silent : core [(.publishMapTimer : Callback ℚ)] = [] := rfl
  rw [core_append, core_append, core_append, core_append, core_append, silent, List.append_nil]

end ScoutStack
