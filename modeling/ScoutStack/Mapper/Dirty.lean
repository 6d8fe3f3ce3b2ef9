import ScoutStack.Mapper.MapCloud

/-!
# The dirty flag

While the dirty flag is off, the map cloud is the one that was last written.
Every scan with a point sets the flag; a scan without points only sweeps, which
leaves the cloud; a build leaves the cloud and can only set the flag; and a save
clears it only after it has written the cloud.
-/

namespace ScoutStack

variable {K : Type*} [Field K] [LinearOrder K]

/-- The cloud of a file. -/
def Output.file : Output K → Option (Cloud K)
  | .pcdFile _ cloud => some cloud
  | .staticScan .. | .dynamicScan .. | .staticMap .. | .saveResponse .. => none

section Ghost

variable [FloorRing K]

/-- The cloud last written since the last reset, after one more callback. -/
def savedAfter (cfg : Config K) (mapper : PointcloudMapper K) (saved : Cloud K)
    (callback : Callback K) : Cloud K :=
  match callback with
  | .resetMap => []
  | _ => ((react cfg mapper callback).2.findSome? Output.file).getD saved

/-- The cloud written by the most recent successful save since the last reset or
the start, and the empty cloud when there has been none. -/
def lastSaved (cfg : Config K) (callbacks : List (Callback K)) : Cloud K :=
  (Machine.run (fun (state : PointcloudMapper K × Cloud K) callback =>
    (step cfg state.1 callback, savedAfter cfg state.1 state.2 callback)) ({}, []) callbacks).2

private theorem ghost_mapper (cfg : Config K) (callbacks : List (Callback K)) :
    (Machine.run (fun (state : PointcloudMapper K × Cloud K) callback =>
      (step cfg state.1 callback, savedAfter cfg state.1 state.2 callback)) ({}, [])
      callbacks).1 = run cfg callbacks := by
  induction callbacks using List.reverseRecOn with
  | nil => rfl
  | append_singleton callbacks callback ih =>
      rw [Machine.run_append, run_append, Machine.run_cons, Machine.run_nil, ih]
      rfl

theorem lastSaved_concat (cfg : Config K) (callbacks : List (Callback K))
    (callback : Callback K) :
    lastSaved cfg (callbacks ++ [callback]) =
      savedAfter cfg (run cfg callbacks) (lastSaved cfg callbacks) callback := by
  rw [lastSaved, Machine.run_append, Machine.run_cons, Machine.run_nil, ghost_mapper]
  rfl

end Ghost

/-- While the flag is off, the map cloud is the saved one. -/
def Clean (cfg : Config K) (mapper : PointcloudMapper K) (saved : Cloud K) : Prop :=
  mapper.dirty = false → (mapper.buildMapCloud cfg).2.Perm saved

namespace PointcloudMapper

theorem updateMiss_dirty (cfg : Config K) {mapper : PointcloudMapper K} (key : VoxelKey)
    (stamp : Time) (dirty : mapper.dirty = true) :
    (mapper.updateMiss cfg key stamp).dirty = true := by
  unfold updateMiss
  split
  next => exact dirty
  next =>
    split
    next => exact dirty
    next =>
      dsimp only
      split
      next => rfl
      next => exact dirty

theorem updateMisses_dirty (cfg : Config K) (stamp : Time) (keys : List VoxelKey)
    {mapper : PointcloudMapper K} (dirty : mapper.dirty = true) :
    (mapper.updateMisses cfg stamp keys).dirty = true := by
  induction keys generalizing mapper with
  | nil => exact dirty
  | cons key keys ih => exact ih (updateMiss_dirty cfg key stamp dirty)

theorem maybeCleanup_dirty (cfg : Config K) (mapper : PointcloudMapper K) (now : Time) :
    (mapper.maybeCleanup cfg now).dirty = mapper.dirty := by
  obtain ⟨_, _, frame⟩ := maybeCleanup_frame cfg mapper now
  rw [frame]

end PointcloudMapper

open PointcloudMapper

/-- Building the map keeps the flag honest. -/
theorem Clean.build {cfg : Config K} {mapper : PointcloudMapper K} {saved : Cloud K}
    (clean : Clean cfg mapper saved) : Clean cfg (mapper.buildMapCloud cfg).1 saved := by
  intro off
  have wasOff : mapper.dirty = false := (Bool.or_eq_false_iff.mp off).1
  have same : ((mapper.buildMapCloud cfg).1.buildMapCloud cfg).2.Perm
      (mapper.buildMapCloud cfg).2 :=
    buildMapCloud_built_perm cfg mapper (mapper.buildMapCloud cfg).1.dirty
  exact same.trans (clean wasOff)

/-- A save keeps the flag honest about the file it leaves. -/
theorem Clean.save {cfg : Config K} {mapper : PointcloudMapper K} {saved : Cloud K}
    (clean : Clean cfg mapper saved) (disk : Disk) :
    Clean cfg (mapper.saveMapToDisk cfg disk).mapper
      ((mapper.saveMapToDisk cfg disk).written.getD saved) := by
  rcases saveMapToDisk_cases cfg mapper disk with ⟨_, written, left⟩ | ⟨_, written, left⟩
  · rw [written, left]
    exact clean.build
  · rw [written, left]
    intro _
    exact buildMapCloud_built_perm cfg mapper false

section Scans

variable [FloorRing K]

/-- A scan with a point leaves the mapper dirty. -/
theorem processScan_dirty (cfg : Config K) (mapper : PointcloudMapper K) {scan : Scan K}
    (points : scan.filtered ≠ []) : (processScan cfg mapper scan).dirty = true := by
  have loop : (processPoints cfg mapper scan).mapper.dirty = true := by
    obtain ⟨_, _, _, frame⟩ := foldl_processPoint_frame cfg scan.header.stamp scan.filtered
      ⟨{ mapper with scanSequence := mapper.scanSequence + 1 }, [], []⟩
    rw [processPoints, frame]
    simp [points]
  rw [processScan, maybeCleanup_dirty, absorbScan, updateFreeSpace_eq]
  exact updateMisses_dirty cfg scan.header.stamp (missedKeys cfg scan) loop

/-- A scan keeps the flag honest. -/
theorem Clean.processScan {cfg : Config K} {mapper : PointcloudMapper K} {saved : Cloud K}
    (clean : Clean cfg mapper saved) (scan : Scan K) :
    Clean cfg (processScan cfg mapper scan) saved := by
  intro off
  by_cases points : scan.filtered = []
  · have absorbed := absorbScan_of_filtered_nil cfg mapper points
    have sameCloud : ((absorbScan cfg mapper scan).buildMapCloud cfg).2 =
        (mapper.buildMapCloud cfg).2 := by
      rw [absorbed]
      rfl
    have swept := buildMapCloud_maybeCleanup_perm cfg (absorbScan cfg mapper scan)
      scan.header.stamp
    rw [sameCloud] at swept
    have wasOff : mapper.dirty = false := by
      rw [ScoutStack.processScan, maybeCleanup_dirty, absorbed] at off
      exact off
    exact swept.trans (clean wasOff)
  · rw [processScan_dirty cfg mapper points] at off
    cases off

/-! ## Runs -/

omit [FloorRing K] in
private theorem findSome_files (cfg : Config K) (result : SaveResult K)
    (more : List (Output K)) (silent : more.findSome? Output.file = none) :
    (SaveResult.files cfg result ++ more).findSome? Output.file = result.written := by
  unfold SaveResult.files
  cases result.written with
  | none => simpa using silent
  | some cloud => rfl

/-- A cloud message writes no file. -/
theorem savedAfter_cloud (cfg : Config K) (mapper : PointcloudMapper K) (saved : Cloud K)
    (msg : PointCloud2 K) : savedAfter cfg mapper saved (.cloud msg) = saved := by
  unfold savedAfter react cloudCallback
  dsimp only
  split
  next => rfl
  next =>
    dsimp only
    split
    next => rfl
    next => rfl

/-- Every callback keeps the flag honest. -/
theorem Clean.step {cfg : Config K} {mapper : PointcloudMapper K} {saved : Cloud K}
    (clean : Clean cfg mapper saved) (callback : Callback K) :
    Clean cfg (ScoutStack.step cfg mapper callback) (savedAfter cfg mapper saved callback) := by
  cases callback with
  | odometry msg => exact clean
  | cloud msg =>
      rw [savedAfter_cloud]
      cases accepted : acceptScan cfg mapper msg with
      | none =>
          rw [step_cloud_of_none accepted]
          exact clean
      | some scan =>
          rw [step_cloud_of_some accepted]
          exact clean.processScan scan
  | publishMapTimer =>
      unfold savedAfter ScoutStack.step react publishMapTimer
      dsimp only
      split
      next => exact clean
      next => exact clean.build
  | saveMap disk =>
      have written : (react cfg mapper (.saveMap disk)).2.findSome? Output.file =
          (mapper.saveMapToDisk cfg disk).written := findSome_files _ _ _ rfl
      have kept := clean.save disk
      rw [← written] at kept
      exact kept
  | autosaveTimer disk =>
      unfold savedAfter ScoutStack.step react autosaveTimer
      dsimp only
      split
      next => exact clean
      next =>
        have written := findSome_files cfg (mapper.saveMapToDisk cfg disk) [] rfl
        rw [List.append_nil] at written
        dsimp only
        rw [written]
        exact clean.save disk
  | resetMap =>
      intro _
      exact .refl _

theorem clean_run (cfg : Config K) (callbacks : List (Callback K)) :
    Clean cfg (run cfg callbacks) (lastSaved cfg callbacks) := by
  induction callbacks using List.reverseRecOn with
  | nil =>
      intro _
      exact .refl _
  | append_singleton callbacks callback ih =>
      rw [lastSaved_concat, run_append, runFrom_cons, runFrom_nil]
      exact ih.step callback

/-- In every reachable state: while the dirty flag is off, a build returns what the
most recent successful save has written since the last reset; a failing save
leaves a set flag set; so the autosave timer and the destructor save whenever the
map cloud differs from the saved one. -/
theorem dirty_flag_sound (cfg : Config K) (callbacks : List (Callback K)) :
    ((run cfg callbacks).dirty = false →
      ((run cfg callbacks).buildMapCloud cfg).2.Perm (lastSaved cfg callbacks)) ∧
    (∀ disk, ((run cfg callbacks).saveMapToDisk cfg disk).success = false →
      (run cfg callbacks).dirty = true →
        ((run cfg callbacks).saveMapToDisk cfg disk).mapper.dirty = true) ∧
    (¬((run cfg callbacks).buildMapCloud cfg).2.Perm (lastSaved cfg callbacks) →
      ∀ disk,
        (run cfg callbacks).autosaveTimer cfg disk =
            (((run cfg callbacks).saveMapToDisk cfg disk).mapper,
              SaveResult.files cfg ((run cfg callbacks).saveMapToDisk cfg disk)) ∧
          (cfg.saveOnShutdown = true →
            (run cfg callbacks).shutdown cfg disk =
              SaveResult.files cfg ((run cfg callbacks).saveMapToDisk cfg disk))) := by
  have clean := clean_run cfg callbacks
  refine ⟨clean, ?_, ?_⟩
  · intro disk failed dirty
    rcases saveMapToDisk_cases cfg (run cfg callbacks) disk with
      ⟨_, _, left⟩ | ⟨succeeded, _, _⟩
    · rw [left]
      exact Bool.or_eq_true_iff.mpr (.inl dirty)
    · rw [succeeded] at failed
      cases failed
  · intro changed disk
    have dirty : (run cfg callbacks).dirty = true := by
      cases flag : (run cfg callbacks).dirty with
      | true => rfl
      | false => exact absurd (clean flag) changed
    constructor
    · simp [autosaveTimer, dirty]
    · intro saves
      simp [shutdown, dirty, saves]

end Scans

end ScoutStack
