import ScoutStack.Lib.Numerals
import ScoutStack.Lib.Buffer
import Mathlib.Algebra.Field.Basic
import Mathlib.Algebra.Order.Ring.Abs
import Mathlib.Algebra.Field.Rat
import Mathlib.Algebra.Order.Ring.Rat

/-!
# Synchronising the sensors

The callbacks of `laserMapping.cpp` and `sync_packages`, on the buffers that they share.
`ros::spinOnce` and `sync_packages` run in turn, so the node is a machine whose events are
the messages and the attempts to form a group.  Time stamps are exact.
-/

namespace ScoutStack.FastLio

variable {K α β : Type*}

/-- A point of a scan; `curvature` is its time in the scan, in milliseconds. -/
structure LidarPoint (K α : Type*) where
  curvature : K
  fields : α

/-- A cloud as `p_pre->process` leaves it. -/
abbrev Cloud (K α : Type*) := List (LidarPoint K α)

/-- A message of the lidar, preprocessed. -/
structure LidarMsg (K α : Type*) where
  stamp : K
  cloud : Cloud K α

/-- A message of the IMU. -/
structure Imu (K β : Type*) where
  stamp : K
  fields : β

/-- `MeasureGroup`. -/
structure MeasureGroup (K α β : Type*) where
  lidarBegTime : K
  lidarEndTime : K
  lidar : Cloud K α
  imu : List (Imu K β)

/-- The parameters that the callbacks read. -/
structure SyncParams (K : Type*) where
  timeSyncEn : Bool
  timeDiffLidarToImu : K
  avia : Bool
  marsim : Bool

/-- The globals that the callbacks and `sync_packages` share. -/
structure Buffers (K α β : Type*) where
  lidarBuffer : List (Cloud K α)
  timeBuffer : List K
  imuBuffer : List (Imu K β)
  lastTimestampLidar : K
  lastTimestampImu : K
  timediffSetFlg : Bool
  timediffLidarWrtImu : K
  lidarPushed : Bool
  lidarEndTime : K
  meas : MeasureGroup K α β
  lidarMeanScantime : K
  scanNum : ℕ

section Model

variable [Field K]

/-- The globals at the start. -/
def Buffers.start : Buffers K α β where
  lidarBuffer := []
  timeBuffer := []
  imuBuffer := []
  lastTimestampLidar := 0
  lastTimestampImu := -1
  timediffSetFlg := false
  timediffLidarWrtImu := 0
  lidarPushed := false
  lidarEndTime := 0
  meas := ⟨0, 0, [], []⟩
  lidarMeanScantime := 0
  scanNum := 0

variable [LinearOrder K] (params : SyncParams K) (state : Buffers K α β)

/-- `standard_pcl_cbk`. -/
def standardPclCbk (msg : LidarMsg K α) : Buffers K α β :=
  { state with
    lidarBuffer :=
      (if msg.stamp < state.lastTimestampLidar then [] else state.lidarBuffer) ++ [msg.cloud]
    timeBuffer := state.timeBuffer ++ [msg.stamp]
    lastTimestampLidar := msg.stamp }

/-- `livox_pcl_cbk`. -/
def livoxPclCbk (msg : LidarMsg K α) : Buffers K α β :=
  let pushed := standardPclCbk state msg
  if params.timeSyncEn ∧ state.timediffSetFlg = false ∧
      |msg.stamp - state.lastTimestampImu| > 1 ∧ state.imuBuffer ≠ [] then
    { pushed with
      timediffSetFlg := true
      timediffLidarWrtImu := msg.stamp + 1 / 10 - state.lastTimestampImu }
  else pushed

/-- The time stamp that `imu_cbk` gives a message. -/
def imuStamp (msg : Imu K β) : K :=
  if |state.timediffLidarWrtImu| > 1 / 10 ∧ params.timeSyncEn then
    state.timediffLidarWrtImu + msg.stamp
  else msg.stamp - params.timeDiffLidarToImu

/-- The message that `imu_cbk` stores. -/
def stamped (msg : Imu K β) : Imu K β := { msg with stamp := imuStamp params state msg }

/-- `imu_cbk`. -/
def imuCbk (msg : Imu K β) : Buffers K α β :=
  let timestamp := imuStamp params state msg
  { state with
    imuBuffer :=
      (if timestamp < state.lastTimestampImu then [] else state.imuBuffer) ++
        [stamped params state msg]
    lastTimestampImu := timestamp }

/-- Length of a scan, if it counts for `lidar_mean_scantime`. -/
def countedScantime (cloud : Cloud K α) : Option K :=
  match cloud.getLast? with
  | none => none
  | some last =>
      if cloud.length ≤ 1 ∨ last.curvature / 1000 < 1 / 2 * state.lidarMeanScantime then none
      else some (last.curvature / 1000)

/-- `sync_packages` where it pushes a scan. -/
def pushLidar (cloud : Cloud K α) (begTime : K) : Buffers K α β :=
  let endTime := if params.marsim then begTime
    else begTime + (countedScantime state cloud).getD state.lidarMeanScantime
  { state with
    scanNum := state.scanNum + (countedScantime state cloud).elim 0 fun _ => 1
    lidarMeanScantime := state.lidarMeanScantime +
      (countedScantime state cloud).elim 0 fun scantime =>
        (scantime - state.lidarMeanScantime) / (state.scanNum + 1 : ℕ)
    lidarEndTime := endTime
    meas := { state.meas with lidar := cloud, lidarBegTime := begTime, lidarEndTime := endTime }
    lidarPushed := true }

/-- The front of the buffers pushed, unless a scan is.  `time_buffer` is never shorter than
`lidar_buffer`. -/
def pushFront : Buffers K α β :=
  match state.lidarBuffer with
  | [] => state
  | cloud :: _ =>
      if state.lidarPushed then state
      else pushLidar params state cloud (state.timeBuffer.headD state.meas.lidarBegTime)

/-- The loop of `sync_packages` over `imu_buffer`, with `imu_time`: what it takes and what it
leaves. -/
def popImu (lidarEndTime : K) : K → List (Imu K β) → List (Imu K β) × List (Imu K β)
  | _, [] => ([], [])
  | imuTime, imu :: rest =>
      if imuTime < lidarEndTime then
        if imu.stamp > lidarEndTime then ([], imu :: rest)
        else
          let popped := popImu lidarEndTime imu.stamp rest
          (imu :: popped.1, popped.2)
      else ([], imu :: rest)

/-- The loop from the front. -/
def takeImu (lidarEndTime : K) : List (Imu K β) → List (Imu K β) × List (Imu K β)
  | [] => ([], [])
  | imu :: rest => popImu lidarEndTime imu.stamp (imu :: rest)

/-- `sync_packages`, with the group if it returns true. -/
def syncPackages : Buffers K α β × Option (MeasureGroup K α β) :=
  if state.lidarBuffer.isEmpty || state.imuBuffer.isEmpty then (state, none)
  else
    let state := pushFront params state
    if state.lastTimestampImu < state.lidarEndTime then (state, none)
    else
      let taken := takeImu state.lidarEndTime state.imuBuffer
      let meas := { state.meas with imu := taken.1 }
      ({ state with
        meas := meas
        imuBuffer := taken.2
        lidarBuffer := state.lidarBuffer.tail
        timeBuffer := state.timeBuffer.tail
        lidarPushed := false }, some meas)

/-- What happens to the node. -/
inductive SyncEvent (K α β : Type*) where
  | lidar (msg : LidarMsg K α)
  | imu (msg : Imu K β)
  | sync

/-- The state after an event. -/
def syncStep (state : Buffers K α β) : SyncEvent K α β → Buffers K α β
  | .lidar msg => if params.avia then livoxPclCbk params state msg else standardPclCbk state msg
  | .imu msg => imuCbk params state msg
  | .sync => (syncPackages params state).1

/-- The group that an event yields. -/
def groups (state : Buffers K α β) : SyncEvent K α β → List (MeasureGroup K α β)
  | .sync => (syncPackages params state).2.toList
  | _ => []

end Model

/-! ## What each event does -/

section Events

variable [Field K] [LinearOrder K] {params : SyncParams K} {state : Buffers K α β}

/-- A lidar message does what `standard_pcl_cbk` does, and may set the time difference. -/
theorem syncStep_lidar (params : SyncParams K) (state : Buffers K α β) (msg : LidarMsg K α) :
    ∃ flag difference, syncStep params state (.lidar msg) =
      { standardPclCbk state msg with
        timediffSetFlg := flag
        timediffLidarWrtImu := difference } := by
  rw [syncStep]
  split
  · rw [livoxPclCbk]
    split
    · exact ⟨_, _, rfl⟩
    · exact ⟨_, _, rfl⟩
  · exact ⟨_, _, rfl⟩

/-- Pushing a scan leaves the buffers. -/
theorem pushFront_keeps (params : SyncParams K) (state : Buffers K α β) :
    (pushFront params state).lidarBuffer = state.lidarBuffer ∧
      (pushFront params state).timeBuffer = state.timeBuffer ∧
      (pushFront params state).imuBuffer = state.imuBuffer ∧
      (pushFront params state).lastTimestampImu = state.lastTimestampImu := by
  rw [pushFront]
  split
  · exact ⟨rfl, rfl, rfl, rfl⟩
  · split
    · exact ⟨rfl, rfl, rfl, rfl⟩
    · exact ⟨rfl, rfl, rfl, rfl⟩

/-- An attempt either stops, with a scan pushed or not, or yields a group. -/
theorem sync_cases (params : SyncParams K) (state : Buffers K α β) :
    (groups params state .sync = [] ∧ (syncStep params state .sync = state ∨
      state.lidarBuffer ≠ [] ∧ syncStep params state .sync = pushFront params state)) ∨
    (state.lidarBuffer ≠ [] ∧
      (pushFront params state).lidarEndTime ≤ state.lastTimestampImu ∧
      groups params state .sync = [{ (pushFront params state).meas with
        imu := (takeImu (pushFront params state).lidarEndTime state.imuBuffer).1 }] ∧
      syncStep params state .sync = { pushFront params state with
        meas := { (pushFront params state).meas with
          imu := (takeImu (pushFront params state).lidarEndTime state.imuBuffer).1 }
        imuBuffer := (takeImu (pushFront params state).lidarEndTime state.imuBuffer).2
        lidarBuffer := state.lidarBuffer.tail
        timeBuffer := state.timeBuffer.tail
        lidarPushed := false }) := by
  obtain ⟨lidar, time, imu, last⟩ := pushFront_keeps params state
  rw [groups, syncStep, syncPackages]
  split
  · exact .inl ⟨rfl, .inl rfl⟩
  · next ready =>
      have filled : state.lidarBuffer ≠ [] := by
        intro empty
        rw [empty] at ready
        exact ready rfl
      dsimp only
      rw [last, lidar, time, imu]
      split
      · exact .inl ⟨rfl, .inr ⟨filled, rfl⟩⟩
      · next due => exact .inr ⟨filled, not_lt.mp due, rfl, rfl⟩

/-! ## The IMU messages of a group -/

omit [Field K] in
/-- Nothing is lost between what is taken and what is left, and nothing late is taken. -/
theorem popImu_spec (lidarEndTime : K) (imus : List (Imu K β)) : ∀ imuTime,
    (popImu lidarEndTime imuTime imus).1 ++ (popImu lidarEndTime imuTime imus).2 = imus ∧
      ∀ imu ∈ (popImu lidarEndTime imuTime imus).1, imu.stamp ≤ lidarEndTime := by
  induction imus with
  | nil => exact fun _ => ⟨rfl, fun imu member => absurd member List.not_mem_nil⟩
  | cons imu rest ih =>
      intro imuTime
      rw [popImu]
      split
      · split
        · exact ⟨rfl, fun imu member => absurd member List.not_mem_nil⟩
        · next due =>
            obtain ⟨whole, early⟩ := ih imu.stamp
            refine ⟨congrArg (imu :: ·) whole, fun other member => ?_⟩
            rcases List.mem_cons.mp member with rfl | inside
            · exact not_lt.mp due
            · exact early other inside
      · exact ⟨rfl, fun imu member => absurd member List.not_mem_nil⟩

omit [Field K] in
/-- What is left is not early, when the messages are in order. -/
theorem le_of_mem_popImu (lidarEndTime : K) (imus : List (Imu K β))
    (sorted : imus.Pairwise fun a b => a.stamp ≤ b.stamp) : ∀ imuTime,
      (∀ imu ∈ imus, imuTime ≤ imu.stamp) →
      ∀ imu ∈ (popImu lidarEndTime imuTime imus).2, lidarEndTime ≤ imu.stamp := by
  induction imus with
  | nil => exact fun _ _ imu member => absurd member List.not_mem_nil
  | cons imu rest ih =>
      intro imuTime bound other member
      obtain ⟨first, others⟩ := List.pairwise_cons.mp sorted
      have order : ∀ later ∈ imu :: rest, imu.stamp ≤ later.stamp := by
        intro later among
        rcases List.mem_cons.mp among with rfl | inside
        · exact le_refl _
        · exact first later inside
      rw [popImu] at member
      split at member
      · split at member
        · next late => exact late.le.trans (order other member)
        · exact ih others imu.stamp first other member
      · next done => exact (not_lt.mp done).trans (bound other member)

omit [Field K] in
theorem takeImu_spec (lidarEndTime : K) (imus : List (Imu K β)) :
    (takeImu lidarEndTime imus).1 ++ (takeImu lidarEndTime imus).2 = imus ∧
      ∀ imu ∈ (takeImu lidarEndTime imus).1, imu.stamp ≤ lidarEndTime := by
  cases imus with
  | nil => exact ⟨rfl, fun imu member => absurd member List.not_mem_nil⟩
  | cons imu rest => exact popImu_spec lidarEndTime (imu :: rest) imu.stamp

omit [Field K] in
theorem le_of_mem_takeImu (lidarEndTime : K) {imus : List (Imu K β)}
    (sorted : imus.Pairwise fun a b => a.stamp ≤ b.stamp) :
    ∀ imu ∈ (takeImu lidarEndTime imus).2, lidarEndTime ≤ imu.stamp := by
  cases imus with
  | nil => exact fun imu member => absurd member List.not_mem_nil
  | cons imu rest =>
      apply le_of_mem_popImu lidarEndTime (imu :: rest) sorted imu.stamp
      intro later among
      rcases List.mem_cons.mp among with rfl | inside
      · exact le_refl _
      · exact (List.pairwise_cons.mp sorted).1 later inside

end Events

/-! ## Runs -/

section Runs

variable [Field K] [LinearOrder K] {params : SyncParams K} {state : Buffers K α β}

/-- What holds of the buffers whatever has happened. -/
structure Ordered (state : Buffers K α β) : Prop where
  sorted : state.imuBuffer.Pairwise fun a b => a.stamp ≤ b.stamp
  last : ∀ imu ∈ state.imuBuffer, imu.stamp ≤ state.lastTimestampImu
  length_le : state.lidarBuffer.length ≤ state.timeBuffer.length
  pushed : state.lidarPushed = true →
    state.timeBuffer.head? = some state.meas.lidarBegTime ∧
      state.meas.lidarEndTime = state.lidarEndTime

theorem ordered_start : Ordered (Buffers.start : Buffers K α β) where
  sorted := List.Pairwise.nil
  last _ member := absurd member List.not_mem_nil
  length_le := le_refl _
  pushed pushed := absurd pushed Bool.false_ne_true

/-- A pushed scan begins at the first time that is stored. -/
theorem ordered_pushFront (params : SyncParams K) (ordered : Ordered state)
    (filled : state.lidarBuffer ≠ []) :
    Ordered (pushFront params state) ∧ (pushFront params state).lidarPushed = true ∧
      state.timeBuffer = (pushFront params state).meas.lidarBegTime ::
        state.timeBuffer.tail := by
  have some_ : state.timeBuffer ≠ [] := by
    intro empty
    have le := ordered.length_le
    rw [empty, List.length_nil, Nat.le_zero, List.length_eq_zero_iff] at le
    exact filled le
  obtain ⟨cloud, clouds, lidar⟩ := List.exists_cons_of_ne_nil filled
  obtain ⟨begTime, times, time⟩ := List.exists_cons_of_ne_nil some_
  rw [pushFront, lidar]
  dsimp only
  split
  · next pushed =>
      refine ⟨ordered, pushed, ?_⟩
      have head := (ordered.pushed pushed).1
      rw [time, List.head?_cons] at head
      rw [time, Option.some.inj head, List.tail_cons]
  · refine ⟨⟨ordered.sorted, ordered.last, ordered.length_le, fun _ => ⟨?_, rfl⟩⟩, rfl, ?_⟩
    · rw [pushLidar, time]
      rfl
    · rw [pushLidar, time]
      rfl

/-- Every event keeps the buffers in order. -/
theorem ordered_step (params : SyncParams K) (ordered : Ordered state) (event : SyncEvent K α β) :
    Ordered (syncStep params state event) := by
  cases event with
  | lidar msg =>
      obtain ⟨flag, difference, same⟩ := syncStep_lidar params state msg
      rw [same]
      refine ⟨ordered.sorted, ordered.last, ?_, fun pushed => ?_⟩
      · have le := ordered.length_le
        simp only [standardPclCbk, List.length_append, List.length_singleton]
        split
        · exact Nat.succ_le_succ (Nat.zero_le _)
        · exact Nat.succ_le_succ le
      · obtain ⟨head, endTime⟩ := ordered.pushed pushed
        refine ⟨?_, endTime⟩
        change (state.timeBuffer ++ [msg.stamp]).head? = some state.meas.lidarBegTime
        rw [List.head?_append, head, Option.some_or]
  | imu msg =>
      rw [syncStep, imuCbk]
      refine ⟨?_, ?_, ordered.length_le, ordered.pushed⟩
      · rw [List.pairwise_append]
        refine ⟨?_, List.pairwise_singleton _ _, ?_⟩
        · split
          · exact List.Pairwise.nil
          · exact ordered.sorted
        · intro imu member new among
          rw [List.mem_singleton.mp among]
          split at member
          · exact absurd member List.not_mem_nil
          · next forward => exact (ordered.last imu member).trans (not_lt.mp forward)
      · intro imu member
        rcases List.mem_append.mp member with old | new
        · split at old
          · exact absurd old List.not_mem_nil
          · next forward => exact (ordered.last imu old).trans (not_lt.mp forward)
        · rw [List.mem_singleton.mp new]
          exact le_refl _
  | sync =>
      rcases sync_cases params state with ⟨_, same | ⟨filled, same⟩⟩ | ⟨filled, _, _, same⟩
      · rw [same]
        exact ordered
      · rw [same]
        exact (ordered_pushFront params ordered filled).1
      · obtain ⟨whole, _⟩ := takeImu_spec (pushFront params state).lidarEndTime state.imuBuffer
        obtain ⟨_, _, _, last⟩ := pushFront_keeps params state
        rw [same]
        refine ⟨?_, fun imu member => ?_, ?_, fun pushed => absurd pushed Bool.false_ne_true⟩
        · have sorted := ordered.sorted
          rw [← whole] at sorted
          exact (List.pairwise_append.mp sorted).2.1
        · change imu.stamp ≤ (pushFront params state).lastTimestampImu
          rw [last]
          apply ordered.last
          rw [← whole]
          exact List.mem_append_right _ member
        · change state.lidarBuffer.tail.length ≤ state.timeBuffer.tail.length
          rw [List.length_tail, List.length_tail]
          exact Nat.sub_le_sub_right ordered.length_le 1

/-! ## No IMU message is lost -/

/-- The IMU messages that an event hands out. -/
def imuOut (params : SyncParams K) (state : Buffers K α β) (event : SyncEvent K α β) :
    List (Imu K β) :=
  (groups params state event).flatMap MeasureGroup.imu

/-- The IMU message that an event brings, as it is stored. -/
def imuIn (params : SyncParams K) (state : Buffers K α β) : SyncEvent K α β → List (Imu K β)
  | .imu msg => [stamped params state msg]
  | _ => []

/-- The IMU clock does not run backwards. -/
def ImuForward (params : SyncParams K) (state : Buffers K α β) : SyncEvent K α β → Prop
  | .imu msg => state.lastTimestampImu ≤ imuStamp params state msg
  | _ => True

/-- What an attempt takes and what it leaves is what there was. -/
theorem imu_conserved_sync (params : SyncParams K) (state : Buffers K α β) :
    imuOut params state .sync ++ (syncStep params state .sync).imuBuffer = state.imuBuffer := by
  obtain ⟨_, _, imu, _⟩ := pushFront_keeps params state
  rw [imuOut]
  rcases sync_cases params state with ⟨none, same | ⟨_, same⟩⟩ | ⟨_, _, single, same⟩
  · rw [none, same]
    rfl
  · rw [none, same]
    exact imu
  · rw [single, same, List.flatMap_singleton]
    exact (takeImu_spec _ _).1

theorem imu_conserved (event : SyncEvent K α β) (forward : ImuForward params state event) :
    imuOut params state event ++ (syncStep params state event).imuBuffer =
      state.imuBuffer ++ imuIn params state event := by
  cases event with
  | lidar msg =>
      obtain ⟨flag, difference, same⟩ := syncStep_lidar params state msg
      rw [same]
      exact (List.append_nil _).symm
  | imu msg =>
      rw [syncStep, imuCbk, if_neg (not_lt.mpr forward)]
      rfl
  | sync => exact (imu_conserved_sync params state).trans (List.append_nil _).symm

/-- The messages handed out in groups and those still stored are messages that came, in
order and each once.  Without a clock that runs backwards they are all. -/
theorem imu_exactly_once (params : SyncParams K) (events : List (SyncEvent K α β)) :
    (Machine.collect (syncStep params) (imuOut params) Buffers.start events ++
        (Machine.run (syncStep params) Buffers.start events).imuBuffer).Sublist
      (Machine.collect (syncStep params) (imuIn params) Buffers.start events) ∧
    (Machine.Throughout (syncStep params) (ImuForward params) Buffers.start events →
      Machine.collect (syncStep params) (imuOut params) Buffers.start events ++
          (Machine.run (syncStep params) Buffers.start events).imuBuffer =
        Machine.collect (syncStep params) (imuIn params) Buffers.start events) := by
  constructor
  · refine Machine.collect_append_held_sublist Buffers.imuBuffer (fun _ => True)
      (fun _ _ _ => trivial) (fun state event _ => ?_) trivial events
    by_cases forward : ImuForward params state event
    · rw [imu_conserved event forward]
    · cases event with
      | lidar msg => exact absurd trivial forward
      | sync => exact absurd trivial forward
      | imu msg =>
          rw [syncStep, imuCbk, if_pos (not_le.mp forward)]
          exact List.sublist_append_right _ _
  · exact Machine.collect_append_held Buffers.imuBuffer (fun _ => True) (fun _ _ _ _ => trivial)
      (fun state event _ moves => imu_conserved event moves) trivial

/-! ## The scans lie between their IMU messages -/

/-- The stored IMU messages, and those to come, are not earlier than the end of a group. -/
def Ends (group : MeasureGroup K α β) (state : Buffers K α β) : Prop :=
  group.lidarEndTime ≤ state.lastTimestampImu ∧
    ∀ imu ∈ state.imuBuffer, group.lidarEndTime ≤ imu.stamp

/-- One group ends before the IMU messages of the other. -/
def Before (earlier later : MeasureGroup K α β) : Prop :=
  ∀ imu ∈ later.imu, earlier.lidarEndTime ≤ imu.stamp

theorem ends_step (event : SyncEvent K α β) (forward : ImuForward params state event)
    {group : MeasureGroup K α β} (ends : Ends group state) :
    Ends group (syncStep params state event) := by
  obtain ⟨last, stored⟩ := ends
  cases event with
  | lidar msg =>
      obtain ⟨flag, difference, same⟩ := syncStep_lidar params state msg
      rw [same]
      exact ⟨last, stored⟩
  | imu msg =>
      rw [syncStep, imuCbk, if_neg (not_lt.mpr forward)]
      refine ⟨last.trans forward, fun imu member => ?_⟩
      rcases List.mem_append.mp member with old | new
      · exact stored imu old
      · rw [List.mem_singleton.mp new]
        exact last.trans forward
  | sync =>
      have whole := imu_conserved_sync params state
      refine ⟨?_, fun imu member => ?_⟩
      · obtain ⟨_, _, _, kept⟩ := pushFront_keeps params state
        rcases sync_cases params state with ⟨_, same | ⟨_, same⟩⟩ | ⟨_, _, _, same⟩
        · rw [same]
          exact last
        · rw [same, kept]
          exact last
        · rw [same]
          exact last.trans kept.ge
      · apply stored
        rw [← whole]
        exact List.mem_append_right _ member

theorem before_of_ends (event : SyncEvent K α β) {group : MeasureGroup K α β}
    (ends : Ends group state) : ∀ next ∈ groups params state event, Before group next := by
  intro next member imu among
  cases event with
  | lidar msg => exact absurd member List.not_mem_nil
  | imu msg => exact absurd member List.not_mem_nil
  | sync =>
      apply ends.2
      rw [← imu_conserved_sync params state]
      exact List.mem_append_left _ (List.mem_flatMap.mpr ⟨next, member, among⟩)

/-- An event yields at most one group. -/
theorem groups_pairwise (params : SyncParams K) (state : Buffers K α β)
    (event : SyncEvent K α β) (relation : MeasureGroup K α β → MeasureGroup K α β → Prop) :
    (groups params state event).Pairwise relation := by
  cases event with
  | lidar msg => exact List.Pairwise.nil
  | imu msg => exact List.Pairwise.nil
  | sync =>
      rcases sync_cases params state with ⟨none, _⟩ | ⟨_, _, single, _⟩
      · rw [none]
        exact List.Pairwise.nil
      · rw [single]
        exact List.pairwise_singleton _ _

/-- A group is not later than its end, and it is the end of what is left. -/
theorem ends_of_mem_groups (ordered : Ordered state) (event : SyncEvent K α β)
    {group : MeasureGroup K α β} (member : group ∈ groups params state event) :
    (∀ imu ∈ group.imu, imu.stamp ≤ group.lidarEndTime) ∧
      Ends group (syncStep params state event) := by
  cases event with
  | lidar msg => exact absurd member List.not_mem_nil
  | imu msg => exact absurd member List.not_mem_nil
  | sync =>
      rcases sync_cases params state with ⟨none, _⟩ | ⟨filled, due, single, same⟩
      · rw [none] at member
        exact absurd member List.not_mem_nil
      · obtain ⟨pushed, isPushed, _⟩ := ordered_pushFront params ordered filled
        obtain ⟨_, _, _, last⟩ := pushFront_keeps params state
        have endTime := (pushed.pushed isPushed).2
        rw [single, List.mem_singleton] at member
        rw [member, same]
        dsimp only [Ends]
        rw [endTime, last]
        exact ⟨(takeImu_spec _ state.imuBuffer).2, due, le_of_mem_takeImu _ ordered.sorted⟩

/-- The groups come apart in time, from each other and from what is stored. -/
structure Apart (groups : List (MeasureGroup K α β)) (stored : List (Imu K β)) : Prop where
  within : ∀ group ∈ groups, ∀ imu ∈ group.imu, imu.stamp ≤ group.lidarEndTime
  before : groups.Pairwise Before
  left : ∀ group ∈ groups, ∀ imu ∈ stored, group.lidarEndTime ≤ imu.stamp

/-- The IMU messages of a group lie between the end of the group before it and its own, and
none that comes later does. -/
theorem groups_apart (params : SyncParams K) (events : List (SyncEvent K α β))
    (forward : Machine.Throughout (syncStep params) (ImuForward params) Buffers.start events) :
    Apart (Machine.collect (syncStep params) (groups params) Buffers.start events)
      (Machine.run (syncStep params) Buffers.start events).imuBuffer := by
  obtain ⟨before, last⟩ := Machine.collect_pairwise Ordered
    (fun (group : MeasureGroup K α β) (state : Buffers K α β) =>
      (∀ imu ∈ group.imu, imu.stamp ≤ group.lidarEndTime) ∧ Ends group state) Before
    (fun state event ordered (_ : ImuForward params state event) =>
      ordered_step params ordered event)
    (fun mark state event _ moves ends => ⟨ends.1, ends_step event moves ends.2⟩)
    (fun mark state event _ ends => before_of_ends event ends.2)
    (fun state event ordered _ =>
      ⟨groups_pairwise params state event _, fun mark member =>
        ends_of_mem_groups ordered event member⟩)
    ordered_start forward
  exact ⟨fun group member => (last group member).1, before,
    fun group member => (last group member).2.2⟩

/-- Two scans of a second with four IMU messages. -/
def twoScans : List (SyncEvent ℚ Unit Unit) :=
  [.imu ⟨0, ()⟩, .lidar ⟨0, [⟨0, ()⟩, ⟨1000, ()⟩]⟩, .imu ⟨1 / 2, ()⟩, .sync, .imu ⟨3 / 2, ()⟩,
    .sync, .lidar ⟨1, [⟨0, ()⟩, ⟨1000, ()⟩]⟩, .imu ⟨2, ()⟩, .sync]

/-- The parameters of the launch file for the Mid-360. -/
def launched : SyncParams ℚ := ⟨false, 0, true, false⟩

theorem groups_apart_twoScans :
    Apart (Machine.collect (syncStep launched) (groups launched) Buffers.start twoScans)
      (Machine.run (syncStep launched) Buffers.start twoScans).imuBuffer := by
  apply groups_apart
  refine ⟨?_, trivial, ?_, trivial, ?_, trivial, trivial, ?_, trivial, trivial⟩
  all_goals
    dsimp only [ImuForward]
    decide +kernel

/-! ## No scan is lost, unless the lidar clock runs backwards -/

/-- The scan that an event brings, with its time. -/
def scanIn (_ : Buffers K α β) : SyncEvent K α β → List (K × Cloud K α)
  | .lidar msg => [(msg.stamp, msg.cloud)]
  | _ => []

/-- The scans that an event hands out, with their times. -/
def scanOut (params : SyncParams K) (state : Buffers K α β) (event : SyncEvent K α β) :
    List (K × Cloud K α) :=
  (groups params state event).map fun group => (group.lidarBegTime, group.lidar)

/-- The scans that an event drops. -/
def cleared (state : Buffers K α β) : SyncEvent K α β → List (Cloud K α)
  | .lidar msg => if msg.stamp < state.lastTimestampLidar then state.lidarBuffer else []
  | _ => []

/-- The scans and their times are stored side by side. -/
structure Paired (state : Buffers K α β) : Prop extends Ordered state where
  length_eq : state.lidarBuffer.length = state.timeBuffer.length
  front : state.lidarPushed = true → state.lidarBuffer.head? = some state.meas.lidar

theorem paired_start : Paired (Buffers.start : Buffers K α β) where
  toOrdered := ordered_start
  length_eq := rfl
  front pushed := absurd pushed Bool.false_ne_true

omit [Field K] in
theorem standardPclCbk_lidarBuffer {msg : LidarMsg K α}
    (kept : cleared state (.lidar msg : SyncEvent K α β) = []) :
    (standardPclCbk state msg).lidarBuffer = state.lidarBuffer ++ [msg.cloud] := by
  rw [cleared] at kept
  rw [standardPclCbk]
  split
  · next backwards =>
      rw [if_pos backwards] at kept
      rw [kept]
  · rfl

/-- A pushed scan is the first that is stored. -/
theorem front_pushFront (params : SyncParams K)
    (front : state.lidarPushed = true → state.lidarBuffer.head? = some state.meas.lidar)
    (filled : state.lidarBuffer ≠ []) :
    state.lidarBuffer.head? = some (pushFront params state).meas.lidar := by
  obtain ⟨cloud, clouds, lidar⟩ := List.exists_cons_of_ne_nil filled
  rw [pushFront, lidar]
  dsimp only
  split
  · next pushed => rw [← lidar, front pushed]
  · rfl

theorem paired_step (paired : Paired state) (event : SyncEvent K α β)
    (kept : cleared state event = []) : Paired (syncStep params state event) := by
  refine ⟨ordered_step params paired.toOrdered event, ?_, ?_⟩
  · cases event with
    | lidar msg =>
        obtain ⟨flag, difference, same⟩ := syncStep_lidar params state msg
        rw [same]
        dsimp only
        rw [standardPclCbk_lidarBuffer kept, standardPclCbk, List.length_append,
          List.length_append, paired.length_eq]
        rfl
    | imu msg => exact paired.length_eq
    | sync =>
        obtain ⟨lidar, time, _, _⟩ := pushFront_keeps params state
        rcases sync_cases params state with ⟨_, same | ⟨_, same⟩⟩ | ⟨_, _, _, same⟩
        · rw [same]
          exact paired.length_eq
        · rw [same, lidar, time]
          exact paired.length_eq
        · rw [same]
          change state.lidarBuffer.tail.length = state.timeBuffer.tail.length
          rw [List.length_tail, List.length_tail, paired.length_eq]
  · cases event with
    | lidar msg =>
        obtain ⟨flag, difference, same⟩ := syncStep_lidar params state msg
        rw [same]
        intro pushed
        dsimp only
        rw [standardPclCbk_lidarBuffer kept, List.head?_append, paired.front pushed]
        rfl
    | imu msg => exact paired.front
    | sync =>
        obtain ⟨lidar, _, _, _⟩ := pushFront_keeps params state
        rcases sync_cases params state with ⟨_, same | ⟨filled, same⟩⟩ | ⟨_, _, _, same⟩
        · rw [same]
          exact paired.front
        · rw [same, lidar]
          exact fun _ => front_pushFront params paired.front filled
        · rw [same]
          exact fun pushed => absurd pushed Bool.false_ne_true

/-- Without a loop back, an event keeps the scans with their times. -/
theorem scans_conserved (paired : Paired state) (event : SyncEvent K α β)
    (kept : cleared state event = []) :
    scanOut params state event ++ (syncStep params state event).timeBuffer.zip
        (syncStep params state event).lidarBuffer =
      state.timeBuffer.zip state.lidarBuffer ++ scanIn state event := by
  cases event with
  | lidar msg =>
      obtain ⟨flag, difference, same⟩ := syncStep_lidar params state msg
      rw [same]
      dsimp only
      rw [standardPclCbk_lidarBuffer kept, standardPclCbk,
        List.zip_append paired.length_eq.symm]
      rfl
  | imu msg => exact (List.append_nil _).symm
  | sync =>
      obtain ⟨lidar, time, _, _⟩ := pushFront_keeps params state
      rw [scanOut]
      rcases sync_cases params state with ⟨none, same | ⟨_, same⟩⟩ | ⟨filled, _, single, same⟩
      · rw [none, same]
        exact (List.append_nil _).symm
      · rw [none, same, lidar, time]
        exact (List.append_nil _).symm
      · obtain ⟨_, _, first⟩ := ordered_pushFront params paired.toOrdered filled
        have front := front_pushFront params paired.front filled
        obtain ⟨cloud, clouds, stored⟩ := List.exists_cons_of_ne_nil filled
        rw [stored, List.head?_cons, Option.some_inj] at front
        rw [single, same]
        dsimp only [List.map_cons, List.map_nil]
        rw [first, stored, front]
        exact (List.append_nil _).symm

/-- An event keeps the times, whether or not the lidar loops back. -/
theorem times_conserved (ordered : Ordered state) (event : SyncEvent K α β) :
    (scanOut params state event).map Prod.fst ++ (syncStep params state event).timeBuffer =
      state.timeBuffer ++ (scanIn state event).map Prod.fst := by
  cases event with
  | lidar msg =>
      obtain ⟨flag, difference, same⟩ := syncStep_lidar params state msg
      rw [same]
      rfl
  | imu msg => exact (List.append_nil _).symm
  | sync =>
      obtain ⟨_, time, _, _⟩ := pushFront_keeps params state
      rw [scanOut]
      rcases sync_cases params state with ⟨none, same | ⟨_, same⟩⟩ | ⟨filled, _, single, same⟩
      · rw [none, same]
        exact (List.append_nil _).symm
      · rw [none, same, time]
        exact (List.append_nil _).symm
      · obtain ⟨_, _, first⟩ := ordered_pushFront params ordered filled
        rw [single, same]
        exact first.symm.trans (List.append_nil _).symm

/-- Of the times, none is lost in any run; and every scan is handed out once, in order and
with its own time, as long as none is cleared. -/
theorem scans_exactly_once (params : SyncParams K) (events : List (SyncEvent K α β)) :
    (Machine.collect (syncStep params) (scanOut params) Buffers.start events).map Prod.fst ++
          (Machine.run (syncStep params) Buffers.start events).timeBuffer =
        (Machine.collect (syncStep params) scanIn Buffers.start events).map Prod.fst ∧
      (Machine.collect (syncStep params) cleared Buffers.start events = [] →
        Machine.collect (syncStep params) (scanOut params) Buffers.start events ++
            (Machine.run (syncStep params) Buffers.start events).timeBuffer.zip
              (Machine.run (syncStep params) Buffers.start events).lidarBuffer =
          Machine.collect (syncStep params) scanIn Buffers.start events) := by
  constructor
  · rw [Machine.map_collect, Machine.map_collect]
    exact Machine.collect_append_held Buffers.timeBuffer Ordered
      (fun state event ordered _ => ordered_step params ordered event)
      (fun state event ordered _ => times_conserved ordered event) ordered_start
      (Machine.throughout_true _ _)
  · intro silent
    exact Machine.collect_append_held (fun state => state.timeBuffer.zip state.lidarBuffer)
      Paired (fun state event paired kept => paired_step paired event kept)
      (fun state event paired kept => scans_conserved paired event kept) paired_start
      (Machine.throughout_of_collect_eq_nil silent)

/-! ## What a lidar clock that runs backwards does -/

/-- The stored scans and times come last of those received, after every event. -/
theorem buffers_suffix (params : SyncParams K) (state : Buffers K α β)
    (event : SyncEvent K α β) :
    (syncStep params state event).timeBuffer <:+
        state.timeBuffer ++ (scanIn state event).map Prod.fst ∧
      (syncStep params state event).lidarBuffer <:+
        state.lidarBuffer ++ (scanIn state event).map Prod.snd := by
  cases event with
  | lidar msg =>
      obtain ⟨flag, difference, same⟩ := syncStep_lidar params state msg
      rw [same]
      refine ⟨List.suffix_rfl, ?_⟩
      change (if msg.stamp < state.lastTimestampLidar then [] else state.lidarBuffer) ++
        [msg.cloud] <:+ state.lidarBuffer ++ [msg.cloud]
      split
      · exact List.suffix_append _ _
      · exact List.suffix_rfl
  | imu msg =>
      dsimp only [scanIn]
      rw [List.map_nil, List.map_nil, List.append_nil, List.append_nil]
      exact ⟨List.suffix_rfl, List.suffix_rfl⟩
  | sync =>
      obtain ⟨lidar, time, _, _⟩ := pushFront_keeps params state
      dsimp only [scanIn]
      rw [List.map_nil, List.map_nil, List.append_nil, List.append_nil]
      rcases sync_cases params state with ⟨_, same | ⟨_, same⟩⟩ | ⟨_, _, _, same⟩
      · rw [same]
        exact ⟨List.suffix_rfl, List.suffix_rfl⟩
      · rw [same, lidar, time]
        exact ⟨List.suffix_rfl, List.suffix_rfl⟩
      · rw [same]
        exact ⟨List.tail_suffix _, List.tail_suffix _⟩

/-- The times outnumber the scans by those cleared. -/
theorem timeBuffer_length (params : SyncParams K) (ordered : Ordered state)
    (event : SyncEvent K α β) :
    (syncStep params state event).timeBuffer.length + state.lidarBuffer.length =
      (syncStep params state event).lidarBuffer.length + state.timeBuffer.length +
        (cleared state event).length := by
  cases event with
  | lidar msg =>
      obtain ⟨flag, difference, same⟩ := syncStep_lidar params state msg
      rw [same]
      dsimp only [standardPclCbk, cleared]
      split
      · rw [List.length_append, List.nil_append, List.length_singleton, List.length_singleton]
        omega
      · rw [List.length_append, List.length_append, List.length_singleton,
          List.length_singleton, List.length_nil]
        omega
  | imu msg => exact Nat.add_comm _ _
  | sync =>
      obtain ⟨lidar, time, _, _⟩ := pushFront_keeps params state
      change (syncStep params state .sync).timeBuffer.length + state.lidarBuffer.length =
        (syncStep params state .sync).lidarBuffer.length + state.timeBuffer.length
      rcases sync_cases params state with ⟨_, same | ⟨_, same⟩⟩ | ⟨filled, _, _, same⟩
      · rw [same, Nat.add_comm]
      · rw [same, lidar, time, Nat.add_comm]
      · rw [same]
        change state.timeBuffer.tail.length + state.lidarBuffer.length =
          state.lidarBuffer.tail.length + state.timeBuffer.length
        have le := ordered.length_le
        have pos := List.length_pos_iff.mpr filled
        rw [List.length_tail, List.length_tail]
        omega

theorem timeBuffer_length_run (params : SyncParams K) {start : Buffers K α β}
    (ordered : Ordered start) (events : List (SyncEvent K α β)) :
    (Machine.run (syncStep params) start events).timeBuffer.length + start.lidarBuffer.length =
      (Machine.run (syncStep params) start events).lidarBuffer.length +
        start.timeBuffer.length +
        (Machine.collect (syncStep params) cleared start events).length := by
  induction events generalizing start with
  | nil => exact Nat.add_comm _ _
  | cons event events ih =>
      have here := timeBuffer_length params ordered event
      have rest := ih (ordered_step params ordered event)
      rw [Machine.run_cons, Machine.collect_cons, List.length_append]
      omega

theorem ordered_run (params : SyncParams K) (events : List (SyncEvent K α β)) :
    Ordered (Machine.run (syncStep params) Buffers.start events) := by
  have kept : ∀ state (event : SyncEvent K α β), Ordered state → True →
      Ordered (syncStep params state event) := fun _ event ordered _ =>
    ordered_step params ordered event
  exact Machine.invariant_run kept ordered_start (Machine.throughout_true _ events)
    (List.prefix_refl events)

theorem buffers_suffix_run (params : SyncParams K) (events : List (SyncEvent K α β)) :
    (Machine.run (syncStep params) Buffers.start events).timeBuffer <:+
        (Machine.collect (syncStep params) scanIn Buffers.start events).map Prod.fst ∧
      (Machine.run (syncStep params) Buffers.start events).lidarBuffer <:+
        (Machine.collect (syncStep params) scanIn Buffers.start events).map Prod.snd := by
  rw [Machine.map_collect, Machine.map_collect]
  exact ⟨Machine.held_suffix Buffers.timeBuffer
      (fun state event => (buffers_suffix params state event).1) Buffers.start events,
    Machine.held_suffix Buffers.lidarBuffer
      (fun state event => (buffers_suffix params state event).2) Buffers.start events⟩

/-- The first of what is left of a list. -/
theorem getElem?_of_suffix {γ : Type*} {first : γ} {rest whole : List γ}
    (suffix : first :: rest <:+ whole) :
    whole[whole.length - (rest.length + 1)]? = some first := by
  obtain ⟨front, rfl⟩ := suffix
  rw [List.length_append, List.length_cons, Nat.add_sub_cancel, List.getElem?_append_right
    (le_refl _), Nat.sub_self]
  rfl

/-- A scan is pushed with the time of a scan that came before it, and as many scans before it
as were ever cleared: `lidar_buffer` is cleared without `time_buffer`. -/
theorem scan_lag (params : SyncParams K) (events : List (SyncEvent K α β))
    (filled : (Machine.run (syncStep params) Buffers.start events).lidarBuffer ≠ [])
    (free : (Machine.run (syncStep params) Buffers.start events).lidarPushed = false) :
    ∃ n,
      ((Machine.collect (syncStep params) scanIn Buffers.start events)[n]?).map Prod.fst =
        some (pushFront params
          (Machine.run (syncStep params) Buffers.start events)).meas.lidarBegTime ∧
      ((Machine.collect (syncStep params) scanIn Buffers.start events)[n +
          (Machine.collect (syncStep params) cleared Buffers.start events).length]?).map
          Prod.snd =
        some (pushFront params
          (Machine.run (syncStep params) Buffers.start events)).meas.lidar := by
  have lengths := timeBuffer_length_run params ordered_start events
  obtain ⟨times, scans⟩ := buffers_suffix_run params events
  obtain ⟨_, _, first⟩ := ordered_pushFront params (ordered_run params events) filled
  have front := front_pushFront params
    (fun pushed => absurd (free.symm.trans pushed) Bool.false_ne_true) filled
  obtain ⟨cloud, clouds, stored⟩ := List.exists_cons_of_ne_nil filled
  rw [stored, List.head?_cons, Option.some_inj] at front
  rw [first] at times lengths
  rw [stored] at scans lengths
  have enough := times.length_le
  have enough' := scans.length_le
  simp only [List.length_cons, List.length_map] at lengths enough enough'
  refine ⟨_, List.getElem?_map.symm.trans (getElem?_of_suffix times), ?_⟩
  rw [← front, ← getElem?_of_suffix scans, List.getElem?_map, List.length_map, List.length_map]
  congr 2
  change _ + 0 = _ + 0 + _ at lengths
  omega

/-- Two scans, of which the second is stamped before the first. -/
def loopBack : List (SyncEvent ℚ Unit Unit) :=
  [.lidar ⟨10, [⟨0, ()⟩, ⟨1000, ()⟩]⟩, .lidar ⟨5, [⟨0, ()⟩]⟩]

theorem scan_lag_loopBack : ∃ n,
    ((Machine.collect (syncStep launched) scanIn Buffers.start loopBack)[n]?).map Prod.fst =
      some (pushFront launched
        (Machine.run (syncStep launched) Buffers.start loopBack)).meas.lidarBegTime ∧
    ((Machine.collect (syncStep launched) scanIn Buffers.start loopBack)[n +
        (Machine.collect (syncStep launched) cleared Buffers.start loopBack).length]?).map
        Prod.snd =
      some (pushFront launched
        (Machine.run (syncStep launched) Buffers.start loopBack)).meas.lidar :=
  scan_lag launched loopBack
    (List.append_ne_nil_of_right_ne_nil _ (List.cons_ne_nil _ _)) rfl

end Runs

/-! ## The mean scan time -/

section Mean

variable [Field K] [LinearOrder K] [IsStrictOrderedRing K] {params : SyncParams K}
  {state : Buffers K α β}

/-- The scan time that an event counts. -/
def scantimes (state : Buffers K α β) : SyncEvent K α β → List K
  | .sync =>
      if state.lidarBuffer.isEmpty || state.imuBuffer.isEmpty || state.lidarPushed then []
      else (state.lidarBuffer.head?.bind (countedScantime state)).toList
  | _ => []

theorem pushLidar_mean (params : SyncParams K) (state : Buffers K α β) (cloud : Cloud K α)
    (begTime : K) :
    (pushLidar params state cloud begTime).lidarMeanScantime *
          (pushLidar params state cloud begTime).scanNum =
        state.lidarMeanScantime * state.scanNum +
          (countedScantime state cloud).toList.sum ∧
      (pushLidar params state cloud begTime).scanNum =
        state.scanNum + (countedScantime state cloud).toList.length := by
  rw [pushLidar]
  cases countedScantime state cloud with
  | none => exact ⟨by simp, rfl⟩
  | some scantime =>
      refine ⟨?_, rfl⟩
      have pos : ((state.scanNum + 1 : ℕ) : K) ≠ 0 := Nat.cast_ne_zero.mpr (Nat.succ_ne_zero _)
      dsimp only [Option.elim_some, Option.toList_some]
      rw [List.sum_singleton, add_mul, div_mul_cancel₀ _ pos, Nat.cast_succ, mul_add, mul_one,
        add_assoc, add_sub_cancel]

theorem pushFront_mean (params : SyncParams K) (state : Buffers K α β)
    (ready : (state.lidarBuffer.isEmpty || state.imuBuffer.isEmpty) = false) :
    (pushFront params state).lidarMeanScantime * (pushFront params state).scanNum =
        state.lidarMeanScantime * state.scanNum + (scantimes state .sync).sum ∧
      (pushFront params state).scanNum = state.scanNum + (scantimes state .sync).length := by
  rw [scantimes, ready, Bool.false_or, pushFront]
  split
  · next empty =>
      rw [empty] at ready
      exact absurd ready.symm Bool.false_ne_true
  · next cloud clouds stored =>
      split
      · exact ⟨(add_zero _).symm, rfl⟩
      · rw [stored]
        exact pushLidar_mean params state cloud _

theorem syncStep_mean (params : SyncParams K) (state : Buffers K α β)
    (event : SyncEvent K α β) :
    (syncStep params state event).lidarMeanScantime * (syncStep params state event).scanNum =
        state.lidarMeanScantime * state.scanNum + (scantimes state event).sum ∧
      (syncStep params state event).scanNum =
        state.scanNum + (scantimes state event).length := by
  cases event with
  | lidar msg =>
      obtain ⟨flag, difference, same⟩ := syncStep_lidar params state msg
      rw [same]
      exact ⟨(add_zero _).symm, rfl⟩
  | imu msg => exact ⟨(add_zero _).symm, rfl⟩
  | sync =>
      rw [syncStep, syncPackages]
      split
      · next empty =>
          rw [scantimes, empty, Bool.true_or]
          exact ⟨(add_zero _).symm, rfl⟩
      · next ready =>
          have mean := pushFront_mean params state (Bool.eq_false_iff.mpr ready)
          dsimp only
          split
          · exact mean
          · exact mean

/-- `lidar_mean_scantime` is the mean of the scan times that were counted. -/
theorem mean_scantime (params : SyncParams K) (events : List (SyncEvent K α β)) :
    (Machine.run (syncStep params) Buffers.start events).lidarMeanScantime *
        (Machine.collect (syncStep params) scantimes Buffers.start events).length =
      (Machine.collect (syncStep params) scantimes Buffers.start events).sum := by
  suffices total : ∀ state : Buffers K α β,
      (Machine.run (syncStep params) state events).lidarMeanScantime *
          (Machine.run (syncStep params) state events).scanNum =
        state.lidarMeanScantime * state.scanNum +
          (Machine.collect (syncStep params) scantimes state events).sum ∧
      (Machine.run (syncStep params) state events).scanNum =
        state.scanNum + (Machine.collect (syncStep params) scantimes state events).length by
    obtain ⟨sum, length⟩ := total Buffers.start
    rw [length] at sum
    change _ * ((0 + _ : ℕ) : K) = 0 * ((0 : ℕ) : K) + _ at sum
    rwa [Nat.zero_add, zero_mul, zero_add] at sum
  induction events with
  | nil => exact fun state => ⟨(add_zero _).symm, rfl⟩
  | cons event events ih =>
      intro state
      obtain ⟨sum, length⟩ := syncStep_mean params state event
      obtain ⟨sums, lengths⟩ := ih (syncStep params state event)
      rw [Machine.run_cons, Machine.collect_cons, List.sum_append, List.length_append]
      exact ⟨by rw [sums, sum, add_assoc], by rw [lengths, length, Nat.add_assoc]⟩

theorem mean_scantime_twoScans :
    (Machine.run (syncStep launched) Buffers.start twoScans).lidarMeanScantime *
        (Machine.collect (syncStep launched) scantimes Buffers.start twoScans).length =
      (Machine.collect (syncStep launched) scantimes Buffers.start twoScans).sum :=
  mean_scantime launched twoScans

end Mean

end ScoutStack.FastLio
