import ScoutStack.Mapper.MapCloud
import ScoutStack.Mapper.Rational

/-!
# A reset against a fresh start

`resetMap` leaves the generation counter and `last_cleanup_` behind.  The counter
does not matter: two mappers whose generations differ by a constant behave alike.
The clock does: it decides which scans end in a sweep.
-/

namespace ScoutStack

variable {K : Type*} [Field K] [LinearOrder K]

/-! ## Shifted generations -/

/-- The entry in a mapper whose generations lie `offset` further. -/
def OccupancyVoxelState.shift (offset : UInt64) (state : OccupancyVoxelState K) :
    OccupancyVoxelState K :=
  { state with generation := state.generation + offset }

/-- The fine entry in a mapper whose generations lie `offset` further. -/
def MapVoxelState.shift (offset : UInt64) (entry : MapVoxelState K) : MapVoxelState K :=
  { entry with occupancyGeneration := entry.occupancyGeneration + offset }

section Shift

variable (cfg : Config K) (offset scan : UInt64) (stamp : Time)

@[simp] theorem isStatic_shift (state : OccupancyVoxelState K) :
    isStatic cfg (state.shift offset) = isStatic cfg state := rfl

@[simp] theorem expired_shift (now : Time) (state : OccupancyVoxelState K) :
    (state.shift offset).expired cfg now = state.expired cfg now := rfl

theorem hit_shift (state : OccupancyVoxelState K) :
    (state.shift offset).hit cfg scan stamp = (state.hit cfg scan stamp).shift offset := by
  have marker : (state.shift offset).lastHitScan = state.lastHitScan := rfl
  unfold OccupancyVoxelState.hit
  rw [marker]
  split
  next => rfl
  next => rfl

theorem miss_shift (state : OccupancyVoxelState K) :
    (state.shift offset).miss cfg scan stamp =
      (state.miss cfg scan stamp).map (OccupancyVoxelState.shift offset) := by
  unfold OccupancyVoxelState.miss
  have lowered : (state.shift offset).lower cfg scan stamp =
      (state.lower cfg scan stamp).shift offset := rfl
  rw [lowered]
  by_cases marked : state.lastMissScan = scan
  · simp [OccupancyVoxelState.shift, marked]
  · by_cases cleared : (state.lower cfg scan stamp).logOdds ≤ cfg.clearingLogOdds
    · simp [OccupancyVoxelState.shift, marked, cleared]
    · simp [OccupancyVoxelState.shift, marked, cleared]

/-- The offset of the generations that the fine map stores.  Without the dynamic
filter every point is stored under generation one. -/
def Config.fineOffset : UInt64 := if cfg.dynamicFilterEnable then offset else 0

omit [LinearOrder K] in
theorem claim_shift (key : VoxelKey) (generation : UInt64) (entry : MapVoxelState K) :
    (entry.shift offset).claim key (generation + offset) =
      (entry.claim key generation).shift offset := by
  have sameTest : ((entry.shift offset).sampleCount = 0 ∨
      (entry.shift offset).occupancyGeneration ≠ generation + offset) ↔
        (entry.sampleCount = 0 ∨ entry.occupancyGeneration ≠ generation) := by
    simp [MapVoxelState.shift]
  unfold MapVoxelState.claim
  by_cases reused : entry.sampleCount = 0 ∨ entry.occupancyGeneration ≠ generation
  · rw [if_pos reused, if_pos (sameTest.mpr reused)]
    rfl
  · rw [if_neg reused, if_neg (mt sameTest.mp reused)]

theorem storePoint_shift [FloorRing K] (generation : UInt64) (point : Point K)
    (entry : Option (MapVoxelState K)) :
    storePoint cfg (generation + offset) point (entry.map (MapVoxelState.shift offset)) =
      (storePoint cfg generation point entry).shift offset := by
  cases entry with
  | none => rfl
  | some entry =>
      unfold storePoint
      rw [Option.map_some, Option.getD_some, Option.getD_some, claim_shift]
      rfl

end Shift

/-- The left mapper is the right one with generations shifted.  The clock of the
sweep is left out, and the stamp of the last cloud matters once there is one. -/
structure Shifted (cfg : Config K) (offset : UInt64) (left right : PointcloudMapper K) :
    Prop where
  latestOdom : left.latestOdom = right.latestOdom
  haveOdom : left.haveOdom = right.haveOdom
  frameId : left.frameId = right.frameId
  scanSequence : left.scanSequence = right.scanSequence
  generation : left.nextOccupancyGeneration = right.nextOccupancyGeneration + offset
  dirty : left.dirty = right.dirty
  cloudStamp : right.frameId ≠ "" → left.lastCloudStamp = right.lastCloudStamp
  voxels : ∀ key, left.temporalVoxels.lookup key =
    (right.temporalVoxels.lookup key).map (OccupancyVoxelState.shift offset)
  fine : ∀ key, left.mapVoxels.lookup key =
    (right.mapVoxels.lookup key).map (MapVoxelState.shift (cfg.fineOffset offset))

namespace Shifted

variable {cfg : Config K} {offset : UInt64} {left right : PointcloudMapper K}

theorem isSome_lookup (shifted : Shifted cfg offset left right) (key : VoxelKey) :
    (left.temporalVoxels.lookup key).isSome = (right.temporalVoxels.lookup key).isSome := by
  rw [shifted.voxels, Option.isSome_map]

theorem entryFor (shifted : Shifted cfg offset left right) (key : VoxelKey) :
    left.entryFor key = (right.entryFor key).shift offset := by
  unfold PointcloudMapper.entryFor
  rw [shifted.voxels, shifted.generation]
  cases right.temporalVoxels.lookup key with
  | none => rfl
  | some state => rfl

theorem updateHit (shifted : Shifted cfg offset left right) (key : VoxelKey) (stamp : Time) :
    Shifted cfg offset (left.updateHit cfg key stamp) (right.updateHit cfg key stamp) := by
  have voxels : ∀ other, (left.updateHit cfg key stamp).temporalVoxels.lookup other =
      ((right.updateHit cfg key stamp).temporalVoxels.lookup other).map
        (OccupancyVoxelState.shift offset) := by
    intro other
    rw [PointcloudMapper.lookup_updateHit, PointcloudMapper.lookup_updateHit,
      shifted.entryFor, shifted.scanSequence, hit_shift, shifted.voxels]
    split
    next => rfl
    next => rfl
  rw [PointcloudMapper.updateHit_eq, PointcloudMapper.updateHit_eq] at voxels ⊢
  refine { shifted with voxels := voxels, generation := ?_ }
  dsimp only
  rw [shifted.isSome_lookup, shifted.generation]
  split
  next => rfl
  next => rw [UInt64.add_assoc, UInt64.add_comm offset 1, ← UInt64.add_assoc]

theorem updateMiss (shifted : Shifted cfg offset left right) (key : VoxelKey) (stamp : Time) :
    Shifted cfg offset (left.updateMiss cfg key stamp) (right.updateMiss cfg key stamp) := by
  have voxels : ∀ other, (left.updateMiss cfg key stamp).temporalVoxels.lookup other =
      ((right.updateMiss cfg key stamp).temporalVoxels.lookup other).map
        (OccupancyVoxelState.shift offset) := by
    intro other
    rw [PointcloudMapper.lookup_updateMiss, PointcloudMapper.lookup_updateMiss,
      shifted.scanSequence, shifted.voxels, shifted.voxels]
    split
    next =>
      cases right.temporalVoxels.lookup key with
      | none => rfl
      | some state => exact miss_shift cfg offset right.scanSequence stamp state
    next => rfl
  have found := shifted.voxels key
  unfold PointcloudMapper.updateMiss at voxels ⊢
  cases present : right.temporalVoxels.lookup key with
  | none =>
      rw [present, Option.map_none] at found
      rw [found]
      exact shifted
  | some state =>
      rw [present, Option.map_some] at found
      rw [found, present] at voxels
      rw [found]
      have marker : (state.shift offset).lastMissScan = state.lastMissScan := rfl
      have lowered : ((state.shift offset).lower cfg right.scanSequence stamp).logOdds =
        (state.lower cfg right.scanSequence stamp).logOdds := rfl
      dsimp only at voxels ⊢
      rw [marker, shifted.scanSequence, lowered] at voxels ⊢
      by_cases marked : state.lastMissScan = right.scanSequence
      · rw [if_pos marked, if_pos marked]
        exact shifted
      · rw [if_neg marked, if_neg marked] at voxels ⊢
        split
        next cleared =>
          rw [if_pos cleared, if_pos cleared] at voxels
          exact { shifted with voxels := voxels, scanSequence := rfl, dirty := rfl }
        next kept =>
          rw [if_neg kept, if_neg kept] at voxels
          exact { shifted with voxels := voxels, scanSequence := rfl }

theorem updateMisses (shifted : Shifted cfg offset left right) (stamp : Time)
    (keys : List VoxelKey) :
    Shifted cfg offset (left.updateMisses cfg stamp keys)
      (right.updateMisses cfg stamp keys) := by
  induction keys generalizing left right with
  | nil => exact shifted
  | cons key keys ih => exact ih (shifted.updateMiss key stamp)

/-! ### The map cloud -/

theorem visit (shifted : Shifted cfg offset left right) (entry : MapVoxelState K) :
    left.visit cfg (entry.shift (cfg.fineOffset offset)) = right.visit cfg entry := by
  have sameCount : (entry.shift (cfg.fineOffset offset)).sampleCount = entry.sampleCount := rfl
  have sameKey : (entry.shift (cfg.fineOffset offset)).occupancyKey = entry.occupancyKey := rfl
  unfold PointcloudMapper.visit
  rw [sameCount, sameKey, shifted.voxels]
  cases enabled : cfg.dynamicFilterEnable with
  | false => rfl
  | true =>
      cases right.temporalVoxels.lookup entry.occupancyKey with
      | none => rfl
      | some occupancy =>
          have sameLife : (occupancy.shift offset).generation ≠
              (entry.shift (cfg.fineOffset offset)).occupancyGeneration ↔
                occupancy.generation ≠ entry.occupancyGeneration := by
            simp [OccupancyVoxelState.shift, MapVoxelState.shift, Config.fineOffset, enabled]
          rw [Option.map_some]
          dsimp only
          rw [if_congr sameLife rfl rfl, isStatic_shift]

theorem collects (shifted : Shifted cfg offset left right) (entry : MapVoxelState K) :
    left.collects cfg (entry.shift (cfg.fineOffset offset)) = right.collects cfg entry := by
  rw [PointcloudMapper.collects, shifted.visit]
  rfl

theorem emits (shifted : Shifted cfg offset left right) (entry : MapVoxelState K) :
    left.emits cfg (entry.shift (cfg.fineOffset offset)) = right.emits cfg entry := by
  rw [PointcloudMapper.emits, shifted.visit]
  rfl

theorem map_perm (shifted : Shifted cfg offset left right) :
    (left.buildMapCloud cfg).2.Perm (right.buildMapCloud cfg).2 := by
  apply PointcloudMapper.buildMapCloud_perm
  intro key
  rw [shifted.fine]
  cases right.mapVoxels.lookup key with
  | none => rfl
  | some entry => exact shifted.emits entry

theorem build (shifted : Shifted cfg offset left right) :
    Shifted cfg offset (left.buildMapCloud cfg).1 (right.buildMapCloud cfg).1 := by
  have fine : ∀ key, (left.buildMapCloud cfg).1.mapVoxels.lookup key =
      ((right.buildMapCloud cfg).1.mapVoxels.lookup key).map
        (MapVoxelState.shift (cfg.fineOffset offset)) := by
    intro key
    rw [PointcloudMapper.lookup_buildMapCloud, PointcloudMapper.lookup_buildMapCloud,
      PointcloudMapper.kept, PointcloudMapper.kept, shifted.fine]
    cases right.mapVoxels.lookup key with
    | none => rfl
    | some entry =>
        rw [Option.map_some, Option.filter_some, Option.filter_some, shifted.collects]
        split
        next => rfl
        next => rfl
  have stale : (left.mapVoxels.entries.any fun entry => left.visit cfg entry.2 = .stale) =
      right.mapVoxels.entries.any fun entry => right.visit cfg entry.2 = .stale := by
    apply @Table.any_eq _ _ _ _ left.mapVoxels right.mapVoxels
      (fun _ entry => left.visit cfg entry = .stale) (fun _ entry => right.visit cfg entry = .stale)
    intro key
    rw [shifted.fine, Option.any_map]
    congr 1
    funext entry
    rw [shifted.visit]
  refine { shifted with fine := fine, dirty := ?_ }
  change (left.dirty || _) = (right.dirty || _)
  rw [shifted.dirty, stale]

/-! ### The sweep -/

/-- A sweep that both mappers take, or that finds nothing to erase, keeps the
relation. -/
theorem maybeCleanup (shifted : Shifted cfg offset left right) (now : Time)
    (agree : left.cleanupDue cfg now = right.cleanupDue cfg now ∨
      ∀ entry ∈ right.temporalVoxels.entries, entry.2.expired cfg now = false) :
    Shifted cfg offset (left.maybeCleanup cfg now) (right.maybeCleanup cfg now) := by
  have voxels : ∀ key, (left.maybeCleanup cfg now).temporalVoxels.lookup key =
      ((right.maybeCleanup cfg now).temporalVoxels.lookup key).map
        (OccupancyVoxelState.shift offset) := by
    intro key
    rw [lookup_maybeCleanup, lookup_maybeCleanup, shifted.voxels]
    cases present : right.temporalVoxels.lookup key with
    | none => rfl
    | some state =>
        have sameFate : (!(left.cleanupDue cfg now && state.expired cfg now)) =
            !(right.cleanupDue cfg now && state.expired cfg now) := by
          rcases agree with same | nothing
          · rw [same]
          · have kept := nothing ⟨key, state⟩ (Table.mem_entries_iff.mpr present)
            rw [kept, Bool.and_false, Bool.and_false]
        rw [Option.map_some, Option.filter_some, Option.filter_some, expired_shift, sameFate]
        split
        next => rfl
        next => rfl
  obtain ⟨_, _, leftFrame⟩ := maybeCleanup_frame cfg left now
  obtain ⟨_, _, rightFrame⟩ := maybeCleanup_frame cfg right now
  rw [leftFrame, rightFrame] at voxels ⊢
  exact { shifted with voxels := voxels }

end Shifted

/-! ## One scan -/

section Scans

variable [FloorRing K] {cfg : Config K} {offset : UInt64}

/-- The point loops of the two mappers: shifted mappers, the same clouds. -/
structure LoopShifted (cfg : Config K) (offset : UInt64) (left right : PointLoop K) : Prop where
  mapper : Shifted cfg offset left.mapper right.mapper
  staticScan : left.staticScan = right.staticScan
  dynamicScan : left.dynamicScan = right.dynamicScan

theorem LoopShifted.processPoint {left right : PointLoop K}
    (shifted : LoopShifted cfg offset left right) (stamp : Time) (point : Point K) :
    LoopShifted cfg offset (processPoint cfg stamp left point)
      (processPoint cfg stamp right point) := by
  have entries := shifted.mapper.entryFor (coarseKey cfg point)
  have filed : pointIsStatic cfg left.mapper stamp point =
      pointIsStatic cfg right.mapper stamp point := by
    rw [pointIsStatic, entries, shifted.mapper.scanSequence, hit_shift, isStatic_shift]
    rfl
  have generations : pointGeneration cfg left.mapper point =
      pointGeneration cfg right.mapper point + cfg.fineOffset offset := by
    unfold pointGeneration Config.fineOffset
    rw [entries]
    split
    next => rfl
    next => rfl
  have fine : ∀ key, (ScoutStack.processPoint cfg stamp left point).mapper.mapVoxels.lookup key =
      ((ScoutStack.processPoint cfg stamp right point).mapper.mapVoxels.lookup key).map
        (MapVoxelState.shift (cfg.fineOffset offset)) := by
    intro key
    rw [lookup_mapVoxels_processPoint, lookup_mapVoxels_processPoint, generations,
      shifted.mapper.fine, storePoint_shift]
    split
    next => rfl
    next => rfl
  obtain ⟨leftStatic, leftDynamic⟩ := processPoint_scans cfg stamp left point
  obtain ⟨rightStatic, rightDynamic⟩ := processPoint_scans cfg stamp right point
  constructor
  · cases enabled : cfg.dynamicFilterEnable with
    | true =>
        have hits := shifted.mapper.updateHit (coarseKey cfg point) stamp
        rw [processPoint_mapper enabled, processPoint_mapper enabled] at fine ⊢
        exact { hits with fine := fine, dirty := rfl }
    | false =>
        obtain ⟨_, leftSame⟩ := processPoint_mapper_disabled enabled stamp left point
        obtain ⟨_, rightSame⟩ := processPoint_mapper_disabled enabled stamp right point
        rw [leftSame, rightSame] at fine ⊢
        exact { shifted.mapper with fine := fine, dirty := rfl }
  · rw [leftStatic, rightStatic, filed, shifted.staticScan]
  · rw [leftDynamic, rightDynamic, filed, shifted.dynamicScan]

theorem LoopShifted.foldl {left right : PointLoop K}
    (shifted : LoopShifted cfg offset left right) (stamp : Time) (points : Cloud K) :
    LoopShifted cfg offset (points.foldl (ScoutStack.processPoint cfg stamp) left)
      (points.foldl (ScoutStack.processPoint cfg stamp) right) := by
  induction points generalizing left right with
  | nil => exact shifted
  | cons point points ih => exact ih (shifted.processPoint stamp point)

namespace Shifted

variable {left right : PointcloudMapper K}

theorem processPoints (shifted : Shifted cfg offset left right) (scan : Scan K) :
    LoopShifted cfg offset (processPoints cfg left scan) (processPoints cfg right scan) := by
  apply LoopShifted.foldl
  have started : Shifted cfg offset { left with scanSequence := left.scanSequence + 1 }
      { right with scanSequence := right.scanSequence + 1 } :=
    { shifted with scanSequence := congrArg (· + 1) shifted.scanSequence }
  exact ⟨started, rfl, rfl⟩

theorem absorbScan (shifted : Shifted cfg offset left right) (scan : Scan K) :
    Shifted cfg offset (absorbScan cfg left scan) (absorbScan cfg right scan) := by
  have misses := (shifted.processPoints scan).mapper.updateMisses scan.header.stamp
    (missedKeys cfg scan)
  rw [← updateFreeSpace_eq, ← updateFreeSpace_eq] at misses
  exact { misses with frameId := rfl, cloudStamp := fun _ => rfl }

end Shifted

/-- The two mappers end an accepted scan alike: both sweep, or neither does, or
there is nothing to erase. -/
def SweepAgrees (cfg : Config K) (left right : PointcloudMapper K) (callback : Callback K) :
    Prop :=
  ∀ scan ∈ acceptedScan cfg right callback,
    sweeps cfg left scan = sweeps cfg right scan ∨
      ∀ entry ∈ (absorbScan cfg right scan).temporalVoxels.entries,
        entry.2.expired cfg scan.header.stamp = false

instance (cfg : Config K) (left right : PointcloudMapper K) (callback : Callback K) :
    Decidable (SweepAgrees cfg left right callback) :=
  inferInstanceAs (Decidable (∀ scan ∈ _, _ ∨ _))

/-! ## Callbacks and their outputs -/

namespace Shifted

variable {left right : PointcloudMapper K}

omit [FloorRing K] in
theorem saveMapToDisk (shifted : Shifted cfg offset left right) (disk : Disk) :
    Shifted cfg offset (left.saveMapToDisk cfg disk).mapper
      (right.saveMapToDisk cfg disk).mapper := by
  have built := shifted.build
  obtain ⟨_, _, _, mappers⟩ := PointcloudMapper.saveMapToDisk_of_perm shifted.map_perm disk
  rcases mappers with ⟨leftMapper, rightMapper⟩ | ⟨leftMapper, rightMapper⟩
  · rw [leftMapper, rightMapper]
    exact built
  · rw [leftMapper, rightMapper]
    exact { built with dirty := rfl }

theorem react (shifted : Shifted cfg offset left right) (callback : Callback K)
    (agrees : SweepAgrees cfg left right callback) :
    Shifted cfg offset (react cfg left callback).1 (react cfg right callback).1 ∧
      List.Forall₂ Output.Same (react cfg left callback).2 (react cfg right callback).2 := by
  cases callback with
  | odometry msg =>
      exact ⟨{ shifted with latestOdom := rfl, haveOdom := rfl }, .nil⟩
  | cloud msg =>
      have sameScan := acceptScan_congr cfg shifted.latestOdom shifted.haveOdom msg
      unfold ScoutStack.react PointcloudMapper.cloudCallback
      dsimp only
      rw [sameScan]
      cases accepted : acceptScan cfg right msg with
      | none => exact ⟨shifted, .nil⟩
      | some scan =>
          have loops := shifted.processPoints scan
          have agree := agrees scan (by rw [acceptedScan_cloud_of_some accepted]; simp)
          constructor
          · exact (shifted.absorbScan scan).maybeCleanup scan.header.stamp agree
          · dsimp only
            rw [loops.staticScan, loops.dynamicScan]
            apply List.forall₂_same.mpr
            intro output _
            exact .refl output
  | publishMapTimer =>
      unfold ScoutStack.react PointcloudMapper.publishMapTimer
      dsimp only
      rw [shifted.frameId]
      split
      next => exact ⟨shifted, .nil⟩
      next named =>
        rw [shifted.cloudStamp named]
        exact ⟨shifted.build, .cons (.staticMap _ shifted.map_perm) .nil⟩
  | saveMap disk =>
      obtain ⟨success, message, files, _⟩ :=
        PointcloudMapper.saveMapToDisk_of_perm shifted.map_perm disk
      unfold ScoutStack.react PointcloudMapper.saveMap
      dsimp only
      rw [success, message]
      exact ⟨shifted.saveMapToDisk disk, List.rel_append files (.cons (.refl _) .nil)⟩
  | autosaveTimer disk =>
      obtain ⟨_, _, files, _⟩ := PointcloudMapper.saveMapToDisk_of_perm shifted.map_perm disk
      unfold ScoutStack.react PointcloudMapper.autosaveTimer
      dsimp only
      rw [shifted.dirty]
      split
      next => exact ⟨shifted, .nil⟩
      next => exact ⟨shifted.saveMapToDisk disk, files⟩
  | resetMap =>
      refine ⟨?_, .nil⟩
      exact { shifted with
        frameId := rfl, scanSequence := rfl, dirty := rfl
        cloudStamp := fun named => absurd rfl named
        voxels := fun _ => rfl, fine := fun _ => rfl }

/-! ### The clock of the sweep -/

/-- With equal clocks the two mappers sweep at the same scans. -/
theorem sweeps_eq (shifted : Shifted cfg offset left right)
    (clock : left.lastCleanup = right.lastCleanup) (scan : Scan K) :
    sweeps cfg left scan = sweeps cfg right scan := by
  have absorbed := shifted.absorbScan scan
  have sameSize : (ScoutStack.absorbScan cfg left scan).temporalVoxels.size =
      (ScoutStack.absorbScan cfg right scan).temporalVoxels.size :=
    Table.size_eq_of_isSome_eq absorbed.isSome_lookup
  have sameClock : (ScoutStack.absorbScan cfg left scan).lastCleanup =
      (ScoutStack.absorbScan cfg right scan).lastCleanup := by
    obtain ⟨_, _, _, _, _, leftFrame⟩ := absorbScan_frame cfg left scan
    obtain ⟨_, _, _, _, _, rightFrame⟩ := absorbScan_frame cfg right scan
    rw [leftFrame, rightFrame]
    exact clock
  rw [sweeps, sweeps, PointcloudMapper.cleanupDue, PointcloudMapper.cleanupDue, sameSize,
    sameClock]

theorem sweepAgrees (shifted : Shifted cfg offset left right)
    (clock : left.lastCleanup = right.lastCleanup) (callback : Callback K) :
    SweepAgrees cfg left right callback :=
  fun scan _ => .inl (shifted.sweeps_eq clock scan)

theorem step_lastCleanup (shifted : Shifted cfg offset left right)
    (clock : left.lastCleanup = right.lastCleanup) (callback : Callback K) :
    (step cfg left callback).lastCleanup = (step cfg right callback).lastCleanup := by
  cases builds : callback.buildsMap with
  | true =>
      obtain ⟨_, _, leftBuilt⟩ := step_of_buildsMap cfg left builds
      obtain ⟨_, _, rightBuilt⟩ := step_of_buildsMap cfg right builds
      rw [leftBuilt, rightBuilt]
      exact clock
  | false =>
      cases callback with
      | odometry msg => exact clock
      | cloud msg =>
          have sameScan := acceptScan_congr cfg shifted.latestOdom shifted.haveOdom msg
          cases accepted : acceptScan cfg right msg with
          | none =>
              rw [step_cloud_of_none accepted, step_cloud_of_none (sameScan.trans accepted), clock]
          | some scan =>
              rw [step_cloud_of_some accepted, step_cloud_of_some (sameScan.trans accepted),
                processScan_lastCleanup, processScan_lastCleanup, shifted.sweeps_eq clock, clock]
      | publishMapTimer | saveMap | autosaveTimer => cases builds
      | resetMap => exact clock

end Shifted

/-- After a reset and an odometry message, a mapper is a new one with generations
shifted, whatever its clock says. -/
theorem shifted_reset (cfg : Config K) (mapper : PointcloudMapper K) (clock : Time)
    (msg : Odometry K) :
    Shifted cfg (mapper.nextOccupancyGeneration - 1)
      (step cfg { mapper.resetMap with lastCleanup := clock } (.odometry msg))
      (step cfg {} (.odometry msg)) where
  latestOdom := rfl
  haveOdom := rfl
  frameId := rfl
  scanSequence := rfl
  generation := by
    change mapper.nextOccupancyGeneration = 1 + (mapper.nextOccupancyGeneration - 1)
    rw [UInt64.add_comm, UInt64.sub_add_cancel]
  dirty := rfl
  cloudStamp := fun named => absurd rfl named
  voxels := fun _ => rfl
  fine := fun _ => rfl

/-- After a reset the node puts out what a new node puts out, as long as its clock
does not make it sweep, or skip, where the new node has something to erase. -/
theorem outputs_after_reset {cfg : Config K} {history : List (Callback K)} {msg : Odometry K}
    {callbacks : List (Callback K)}
    (agrees : Machine.Along (step cfg) (step cfg) (SweepAgrees cfg)
      (run cfg (history ++ [.resetMap])) {} (.odometry msg :: callbacks)) :
    List.Forall₂ Output.Same
      (outputsFrom cfg (run cfg (history ++ [.resetMap])) (.odometry msg :: callbacks))
      (outputsFrom cfg {} (.odometry msg :: callbacks)) := by
  have started := shifted_reset cfg (run cfg history) (run cfg history).lastCleanup msg
  have cleared : run cfg (history ++ [.resetMap]) = (run cfg history).resetMap := by
    rw [run_append]
    rfl
  rw [cleared] at agrees ⊢
  exact Machine.collect_related
    (fun _ _ callback agree shifted => (shifted.react callback agree).1)
    (fun _ _ callback agree shifted => (shifted.react callback agree).2)
    started agrees.2

/-- The clock is all that a reset leaves to be seen: with the clock cleared as well,
the node puts out what a new node puts out, whatever comes. -/
theorem outputs_after_reset_and_clock (cfg : Config K) (mapper : PointcloudMapper K)
    (msg : Odometry K) (callbacks : List (Callback K)) :
    List.Forall₂ Output.Same
      (outputsFrom cfg { mapper.resetMap with lastCleanup := 0 } (.odometry msg :: callbacks))
      (outputsFrom cfg {} (.odometry msg :: callbacks)) := by
  have started := shifted_reset cfg mapper 0 msg
  have keeps : ∀ left right : PointcloudMapper K, ∀ callback, True →
      (Shifted cfg (mapper.nextOccupancyGeneration - 1) left right ∧
        left.lastCleanup = right.lastCleanup) →
      Shifted cfg (mapper.nextOccupancyGeneration - 1) (step cfg left callback)
          (step cfg right callback) ∧
        (step cfg left callback).lastCleanup = (step cfg right callback).lastCleanup := by
    rintro left right callback - ⟨shifted, clock⟩
    constructor
    · exact (shifted.react callback (shifted.sweepAgrees clock callback)).1
    · exact shifted.step_lastCleanup clock callback
  refine Machine.collect_related keeps ?_ ⟨started, rfl⟩
    (Machine.along_of_forall (fun _ _ _ => trivial) _ _ callbacks)
  rintro left right callback - ⟨shifted, clock⟩
  exact (shifted.react callback (shifted.sweepAgrees clock callback)).2

end Scans

/-! ## A bag played again after a reset -/

section Replay

/-- A scan at a hundred seconds. -/
def recordedHistory : List (Callback ℚ) :=
  [odometryAt (100 * 10 ^ 9) ⟨0, 1 / 2, 1 / 2⟩,
    cloudAt (100 * 10 ^ 9) [⟨5 / 2, 1 / 2, 1 / 2⟩]]

/-- The bag starts again: a voxel is hit at one second and at eleven seconds, and
the sensor looks elsewhere at ten seconds. -/
def replayedBag : List (Callback ℚ) :=
  [cloudAt (10 ^ 9) [⟨5 / 2, 1 / 2, 1 / 2⟩],
    odometryAt (10 * 10 ^ 9) ⟨0, 1 / 2, 1 / 2⟩, cloudAt (10 * 10 ^ 9) [⟨0, 9 / 2, 1 / 2⟩],
    odometryAt (11 * 10 ^ 9) ⟨0, 1 / 2, 1 / 2⟩, cloudAt (11 * 10 ^ 9) [⟨5 / 2, 1 / 2, 1 / 2⟩]]

def replayOdometry : Odometry ℚ :=
  ⟨⟨10 ^ 9, "camera_init"⟩, ⟨0, 1 / 2, 1 / 2⟩, ⟨1, 0, 0, 0⟩⟩

theorem outputs_after_reset_unit :
    List.Forall₂ Output.Same
      (outputsFrom unitConfig (run unitConfig (unitHistory ++ [.resetMap]))
        (.odometry replayOdometry :: replayedBag))
      (outputsFrom unitConfig {} (.odometry replayOdometry :: replayedBag)) :=
  outputs_after_reset (by decide +kernel)

/-- After the reset the clock stands ahead of the bag, the candidate is not erased at
ten seconds, and its second hit makes it static; a new node starts over with it. -/
theorem outputs_after_reset_ne :
    ¬List.Forall₂ Output.Same
      (outputsFrom unitConfig (run unitConfig (recordedHistory ++ [.resetMap]))
        (.odometry replayOdometry :: replayedBag))
      (outputsFrom unitConfig {} (.odometry replayOdometry :: replayedBag)) := by
  intro same
  have scans := filter_isScan_eq_of_same same
  have differ : (outputsFrom unitConfig (run unitConfig (recordedHistory ++ [.resetMap]))
      (.odometry replayOdometry :: replayedBag)).filter Output.isScan ≠
        (outputsFrom unitConfig {} (.odometry replayOdometry :: replayedBag)).filter
          Output.isScan := by decide +kernel
  exact differ scans

end Replay

end ScoutStack
