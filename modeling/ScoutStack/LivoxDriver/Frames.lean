import ScoutStack.Lib.Buffer
import ScoutStack.LivoxDriver.Points
import ScoutStack.LivoxDriver.Queue

/-!
# The frames of the driver

`PubHandler` of `pub_handler.cpp`.  The callback of the SDK stores packets, and the thread of
`RawDataProcess` takes them one by one and publishes frames of points.  The two come in any
order.
-/

namespace ScoutStack.LivoxDriver

/-- The lidars that send.  `frame_` has room for `kMaxSourceLidar`, and its loop does not ask. -/
structure Network where
  handles : List ℕ
  ascending : handles.Pairwise (· < ·)
  few : handles.length ≤ maxSourceLidar

/-- A lidar of the network. -/
abbrev Network.Lidar (network : Network) : Type := { handle // handle ∈ network.handles }

/-- What `SetPointCloudConfig` stores; the node has a frequency of at most 100 Hz. -/
structure PointCloudConfig where
  publishInterval : BitVec 64
  atLeast : 10000000 ≤ publishInterval.toNat

namespace PointCloudConfig

variable (config : PointCloudConfig)

/-- `publish_interval_tolerance_`. -/
def publishIntervalTolerance : BitVec 64 := config.publishInterval - 1000000

/-- `publish_interval_ms_`. -/
def publishIntervalMs : BitVec 64 := config.publishInterval / 1000000

end PointCloudConfig

/-- `LivoxLidarEthernetPacket`.  Without `data` it is of type `kLivoxLidarImuData`; `dot_num` is
a divisor. -/
structure LivoxLidarEthernetPacket where
  timeInterval : BitVec 16
  timeType : BitVec 8
  timestamp : BitVec 64
  data : Option RawData
  dots : ∀ raw ∈ data, raw.pointNum ≠ 0

/-- `GetEthPacketTimestamp`, at a time of the system's clock. -/
def getEthPacketTimestamp (timestampType : BitVec 8) (timeStamp now : BitVec 64) : BitVec 64 :=
  if timestampType = 1 ∨ timestampType = 2 then timeStamp else now

/-- `line_num` of a device. -/
def lineNum (devType : BitVec 8) : ℕ :=
  if devType = 10 then 6 else if devType = 9 ∨ devType = 35 then 4 else 1

/-- What `OnLivoxLidarPointCloudCallback` makes of the points of a packet. -/
def LivoxLidarEthernetPacket.rawPacket (data : LivoxLidarEthernetPacket) (handle : ℕ)
    (devType : BitVec 8) (now : BitVec 64) : Option RawPacket :=
  data.data.map fun rawData =>
    { handle := handle
      extrinsicEnable := false
      lineNum := lineNum devType
      timeStamp := getEthPacketTimestamp data.timeType data.timestamp now
      pointInterval := BitVec.ofNat 64 (data.timeInterval.toNat * 100 / rawData.pointNum)
      rawData := rawData }

/-- `PointPacket`, with the base time of its place in the frame. -/
structure PointPacket (K : Type) where
  baseTime : BitVec 64
  handle : ℕ
  points : List (PointXyzlt K)

/-- `PointFrame`. -/
abbrev PointFrame (K : Type) : Type := List (PointPacket K)

/-- The points of a lidar in a frame. -/
def pointsOf {K : Type} (handle : ℕ) (frame : PointFrame K) : List (PointXyzlt K) :=
  frame.flatMap fun packet => if packet.handle = handle then packet.points else []

/-- The packets of a lidar in a frame. -/
def packetsOf {K : Type} (handle : ℕ) (frame : PointFrame K) : List (PointPacket K) :=
  frame.filter fun packet => packet.handle = handle

/-- `PubHandler`.  `lastPubTime` is there when `first` is false. -/
structure PubHandler (K : Type) where
  rawPacketQueue : List RawPacket
  isTimestampSync : Bool
  lidarProcessHandlers : ℕ → Option (LidarPubHandler K)
  lastPubTime : Option ℤ

/-- What happens to the driver. -/
inductive PubEvent (network : Network) where
  /-- The callback, at a time of the system's clock. -/
  | onLivoxLidarPointCloudCallback (lidar : network.Lidar) (devType : BitVec 8)
      (data : LivoxLidarEthernetPacket) (now : BitVec 64)
  /-- A turn of the loop of `RawDataProcess`, at a time in nanoseconds. -/
  | rawDataProcess (now : ℤ)

namespace PubHandler

/-- The driver before any packet. -/
def start {K : Type} : PubHandler K where
  rawPacketQueue := []
  isTimestampSync := false
  lidarProcessHandlers _ := none
  lastPubTime := none

section Model

variable {K : Type} [Field K] (trig : Trigonometry K) (config : PointCloudConfig)
  (extrinsics : ℕ → Option (LidarExtParameter K)) {network : Network} (pub : PubHandler K)

/-- Change the handler of a lidar. -/
def withHandler (id : ℕ) (handler : LidarPubHandler K) : PubHandler K :=
  { pub with
    lidarProcessHandlers := Function.update pub.lidarProcessHandlers id (some handler) }

/-- What `CheckTimer` enters in the frame for a lidar. -/
def lidarPoint (id : ℕ) (handler : LidarPubHandler K) : List (PointPacket K) :=
  if handler.pointsClouds.isEmpty then []
  else [⟨handler.getLidarBaseTime, id, handler.pointsClouds⟩]

/-- `CheckTimer` with the time of the lidars: the frames that it publishes. -/
def checkTimerSync (id : ℕ) : PubHandler K × List (PointFrame K) :=
  match pub.lidarProcessHandlers id with
  | none => (pub, [])
  | some handler =>
      let recentTimeMs := handler.getRecentTimeStamp / 1000000
      let diff := handler.getRecentTimeStamp - handler.getLidarBaseTime
      if recentTimeMs % config.publishIntervalMs ≠ 0 ∨ recentTimeMs = 0 then (pub, [])
      else if diff < config.publishIntervalTolerance then (pub, [])
      else if handler.pointsClouds.isEmpty then (pub.withHandler id handler.taken, [])
      else (pub.withHandler id handler.taken, [lidarPoint id handler])

/-- `CheckTimer` with the time of the host. -/
def checkTimerFree (network : Network) (nowTime : ℤ) : PubHandler K × List (PointFrame K) :=
  match pub.lastPubTime with
  | none => ({ pub with lastPubTime := some nowTime }, [])
  | some lastPubTime =>
      if nowTime - lastPubTime < config.publishInterval.toNat then (pub, [])
      else
        ({ pub with
            lastPubTime := some (lastPubTime + config.publishInterval.toNat)
            lidarProcessHandlers := fun id =>
              (pub.lidarProcessHandlers id).map LidarPubHandler.taken },
          [network.handles.flatMap fun id =>
            (pub.lidarProcessHandlers id).elim [] (lidarPoint id)])

/-- `CheckTimer`. -/
def checkTimer (network : Network) (id : ℕ) (nowTime : ℤ) : PubHandler K × List (PointFrame K) :=
  if pub.isTimestampSync then pub.checkTimerSync config id
  else pub.checkTimerFree config network nowTime

/-- The handler of a lidar, with its extrinsic parameters. -/
def handlerOf (id : ℕ) : LidarPubHandler K :=
  let handler := (pub.lidarProcessHandlers id).getD .new
  (extrinsics id).elim handler (handler.setLidarsExtParam trig)

/-- What `RawDataProcess` does with a packet before `CheckTimer`. -/
def stored (rawData : RawPacket) : PubHandler K :=
  pub.withHandler rawData.handle
    ((pub.handlerOf trig extrinsics rawData.handle).pointCloudProcess trig rawData)

/-- The driver after an event, and the frames that it publishes. -/
def react : PubEvent network → PubHandler K × List (PointFrame K)
  | .onLivoxLidarPointCloudCallback lidar devType data now =>
      ({ pub with
          isTimestampSync := data.timeType != 0
          rawPacketQueue := pub.rawPacketQueue ++ (data.rawPacket lidar devType now).toList }, [])
  | .rawDataProcess now =>
      match pub.rawPacketQueue with
      | [] => (pub, [])
      | rawData :: rest =>
          ({ pub with rawPacketQueue := rest }.stored trig extrinsics rawData).checkTimer config
            network rawData.handle now

/-- The driver after an event. -/
def step (event : PubEvent network) : PubHandler K := (pub.react trig config extrinsics event).1

/-- The frames that an event publishes. -/
def published (event : PubEvent network) : List (PointFrame K) :=
  (pub.react trig config extrinsics event).2

/-- The points of a lidar that an event brings, where they should be. -/
def received (handle : ℕ) : PubEvent network → List (PointXyzlt K)
  | .onLivoxLidarPointCloudCallback lidar devType data now =>
      if lidar = handle then
        (data.rawPacket lidar devType now).toList.flatMap
          (RawPacket.placed trig (mounting trig (extrinsics handle)))
      else []
  | .rawDataProcess _ => []

/-- The points of a lidar that wait in its handler. -/
def pending (handle : ℕ) : List (PointXyzlt K) :=
  (pub.lidarProcessHandlers handle).elim [] LidarPubHandler.pointsClouds

/-- The points of a lidar that wait in packets. -/
def queued (handle : ℕ) : List (PointXyzlt K) :=
  pub.rawPacketQueue.flatMap fun rawData =>
    if rawData.handle = handle then
      rawData.placed trig (mounting trig (extrinsics handle)) else []

end Model

/-! ## Every point once -/

section Steps

variable {K : Type} [Field K] {trig : Trigonometry K} {config : PointCloudConfig}
  {extrinsics : ℕ → Option (LidarExtParameter K)} {network : Network} {pub : PubHandler K}

variable (trig extrinsics) in
/-- Every handler stores the parameters of its lidar, and no packet asks for raw points. -/
structure Sound (pub : PubHandler K) : Prop where
  handlers : ∀ id handler, pub.lidarProcessHandlers id = some handler →
    handler.extrinsic = .stored trig (extrinsics id) ∧
      handler.isSetExtrinsicParams = (extrinsics id).isSome
  packets : ∀ rawData ∈ pub.rawPacketQueue, rawData.extrinsicEnable = false

theorem sound_start : Sound trig extrinsics (start : PubHandler K) where
  handlers _ _ none := absurd none (by simp [start])
  packets _ member := absurd member (by simp [start])

omit [Field K] in
/-- The points of a lidar among those entered for a lidar. -/
theorem pointsOf_lidarPoint (handle id : ℕ) (handler : LidarPubHandler K) :
    pointsOf handle (lidarPoint id handler) =
      if id = handle then handler.pointsClouds else [] := by
  rw [lidarPoint]
  cases none : handler.pointsClouds with
  | nil => simp [pointsOf]
  | cons point points => simp [pointsOf]

/-- A lidar has one place among the handles. -/
theorem flatMap_ite_of_mem {α : Type*} {handles : List ℕ} (ascending : handles.Pairwise (· < ·))
    {handle : ℕ} (member : handle ∈ handles) (points : ℕ → List α) :
    (handles.flatMap fun id => if id = handle then points id else []) = points handle := by
  induction handles with
  | nil => simp at member
  | cons id handles ih =>
      have rest := List.pairwise_cons.mp ascending
      rw [List.flatMap_cons]
      by_cases same : id = handle
      · have none : (handles.flatMap fun id => if id = handle then points id else []) = [] := by
          refine List.flatMap_eq_nil_iff.mpr fun other later => if_neg fun again => ?_
          exact Nat.lt_irrefl id (again.trans same.symm ▸ rest.1 other later)
        rw [if_pos same, none, List.append_nil, same]
      · rw [if_neg same, List.nil_append, ih rest.2]
        exact (List.mem_cons.mp member).resolve_left (Ne.symm same)

omit [Field K] in
/-- A frame takes all points that wait, or none. -/
theorem pending_checkTimer (lidar : network.Lidar) (id : ℕ) (nowTime : ℤ) :
    (pub.checkTimer config network id nowTime).2.flatMap (pointsOf lidar) ++
        (pub.checkTimer config network id nowTime).1.pending lidar =
      pub.pending lidar := by
  rw [checkTimer]
  split
  · rw [checkTimerSync]
    cases at_ : pub.lidarProcessHandlers id with
    | none => rfl
    | some handler =>
        have takes : pointsOf lidar (lidarPoint id handler) ++
            (pub.withHandler id handler.taken).pending lidar = pub.pending lidar := by
          rw [pointsOf_lidarPoint]
          by_cases same : id = lidar
          · simp [pending, withHandler, ← same, at_, LidarPubHandler.taken]
          · simp [pending, withHandler, same, Ne.symm same]
        dsimp only
        split
        · rfl
        · split
          · rfl
          · split
            · next none =>
                rw [lidarPoint, if_pos none] at takes
                exact takes
            · simpa using takes
  · rw [checkTimerFree]
    cases pub.lastPubTime with
    | none => rfl
    | some lastPubTime =>
        dsimp only
        split
        · rfl
        · have all : pointsOf lidar (network.handles.flatMap fun id =>
              (pub.lidarProcessHandlers id).elim [] (lidarPoint id)) = pub.pending lidar := by
            rw [pointsOf, List.flatMap_assoc]
            refine Eq.trans ?_ (flatMap_ite_of_mem network.ascending lidar.2 pub.pending)
            refine List.flatMap_congr fun id _ => ?_
            cases at_ : pub.lidarProcessHandlers id with
            | none => simp [pending, at_]
            | some handler =>
                exact (pointsOf_lidarPoint lidar id handler).trans (by simp [pending, at_])
          rw [List.flatMap_singleton, all, pending, pending, Option.elim_map]
          cases pub.lidarProcessHandlers lidar with
          | none => rfl
          | some handler => exact List.append_nil _

theorem Sound.withHandler (sound : Sound trig extrinsics pub) {id : ℕ}
    {handler : LidarPubHandler K} (stored : handler.extrinsic = .stored trig (extrinsics id))
    (set : handler.isSetExtrinsicParams = (extrinsics id).isSome) :
    Sound trig extrinsics (pub.withHandler id handler) := by
  refine ⟨fun other handler' at_ => ?_, sound.packets⟩
  by_cases same : other = id
  · subst same
    obtain rfl : handler = handler' := by simpa [PubHandler.withHandler] using at_
    exact ⟨stored, set⟩
  · exact sound.handlers other handler' (by simpa [PubHandler.withHandler, same] using at_)

/-- `CheckTimer` leaves the packets and the parameters. -/
theorem Sound.checkTimer (sound : Sound trig extrinsics pub) (config : PointCloudConfig)
    (network : Network) (id : ℕ) (nowTime : ℤ) :
    Sound trig extrinsics (pub.checkTimer config network id nowTime).1 ∧
      (pub.checkTimer config network id nowTime).1.rawPacketQueue = pub.rawPacketQueue := by
  rw [PubHandler.checkTimer]
  split
  · rw [checkTimerSync]
    cases at_ : pub.lidarProcessHandlers id with
    | none => exact ⟨sound, rfl⟩
    | some handler =>
        obtain ⟨stored, set⟩ := sound.handlers id handler at_
        have takes : Sound trig extrinsics (pub.withHandler id handler.taken) :=
          sound.withHandler stored set
        dsimp only
        split
        · exact ⟨sound, rfl⟩
        · split
          · exact ⟨sound, rfl⟩
          · split
            · exact ⟨takes, rfl⟩
            · exact ⟨takes, rfl⟩
  · rw [checkTimerFree]
    cases pub.lastPubTime with
    | none => exact ⟨⟨sound.handlers, sound.packets⟩, rfl⟩
    | some lastPubTime =>
        dsimp only
        split
        · exact ⟨sound, rfl⟩
        · refine ⟨⟨fun id handler at_ => ?_, sound.packets⟩, rfl⟩
          obtain ⟨before, earlier, rfl⟩ := Option.map_eq_some_iff.mp at_
          exact sound.handlers id before earlier

/-- The handler that a packet goes to. -/
theorem Sound.handlerOf (sound : Sound trig extrinsics pub) (id : ℕ) :
    (pub.handlerOf trig extrinsics id).extrinsic = .stored trig (extrinsics id) ∧
      (pub.handlerOf trig extrinsics id).isSetExtrinsicParams = (extrinsics id).isSome ∧
      (pub.handlerOf trig extrinsics id).pointsClouds = pub.pending id := by
  rw [PubHandler.handlerOf, pending]
  cases at_ : pub.lidarProcessHandlers id with
  | none =>
      cases extrinsics id with
      | none => exact ⟨rfl, rfl, rfl⟩
      | some param => exact ⟨rfl, rfl, rfl⟩
  | some handler =>
      obtain ⟨stored, set⟩ := sound.handlers id handler at_
      rw [Option.getD_some, Option.elim_some]
      cases given : extrinsics id with
      | none =>
          rw [given] at stored set
          exact ⟨stored, set, rfl⟩
      | some param =>
          rw [given] at stored set
          have kept : handler.setLidarsExtParam trig param = handler := if_pos set
          rw [Option.elim_some, kept]
          exact ⟨stored, set, rfl⟩

/-- A packet is stored for its lidar, its points where they should be. -/
theorem Sound.stored (sound : Sound trig extrinsics pub) {rawData : RawPacket}
    (disabled : rawData.extrinsicEnable = false) :
    Sound trig extrinsics (pub.stored trig extrinsics rawData) ∧
      ∀ handle, (pub.stored trig extrinsics rawData).pending handle = pub.pending handle ++
        if rawData.handle = handle then
          rawData.placed trig (mounting trig (extrinsics handle)) else [] := by
  obtain ⟨stored, set, points⟩ := sound.handlerOf rawData.handle
  rw [PubHandler.stored, pointCloudProcess_spec stored disabled]
  refine ⟨sound.withHandler stored set, fun handle => ?_⟩
  by_cases same : rawData.handle = handle
  · subst same
    simp [pending, PubHandler.withHandler, LidarPubHandler.pushBack, points]
  · simp [pending, PubHandler.withHandler, same, Ne.symm same]

variable (trig extrinsics) in
/-- The points of a lidar that wait. -/
def held (handle : ℕ) (pub : PubHandler K) : List (PointXyzlt K) :=
  pub.pending handle ++ pub.queued trig extrinsics handle

/-- An event keeps the points of a lidar in order. -/
theorem Sound.step (sound : Sound trig extrinsics pub) (event : PubEvent network) :
    Sound trig extrinsics (pub.step trig config extrinsics event) ∧
      ∀ lidar : network.Lidar,
        (pub.published trig config extrinsics event).flatMap (pointsOf lidar) ++
            held trig extrinsics lidar (pub.step trig config extrinsics event) =
          held trig extrinsics lidar pub ++ received trig extrinsics lidar event := by
  cases event with
  | onLivoxLidarPointCloudCallback lidar devType data now =>
      refine ⟨⟨sound.handlers, fun rawData member => ?_⟩, fun other => ?_⟩
      · rcases List.mem_append.mp member with before | new
        · exact sound.packets rawData before
        · obtain ⟨raw, _, rfl⟩ := Option.map_eq_some_iff.mp (Option.mem_toList.mp new)
          rfl
      · rw [published, PubHandler.step, react, List.flatMap_nil, List.nil_append, held, held,
          queued, queued, List.flatMap_append, ← List.append_assoc, received]
        congr 1
        cases raw : data.rawPacket lidar devType now with
        | none => simp
        | some rawData =>
            obtain ⟨points, _, rfl⟩ := Option.map_eq_some_iff.mp raw
            simp
  | rawDataProcess now =>
      rw [published, PubHandler.step, react]
      cases packets : pub.rawPacketQueue with
      | nil => exact ⟨sound, fun lidar => by simp [received]⟩
      | cons rawData rest =>
          have disabled := sound.packets rawData (by simp [packets])
          have others : ∀ packet ∈ rest, packet.extrinsicEnable = false := fun packet member =>
            sound.packets packet (by simp [packets, member])
          have waiting : Sound trig extrinsics { pub with rawPacketQueue := rest } :=
            ⟨sound.handlers, others⟩
          obtain ⟨stored, points⟩ := waiting.stored disabled
          obtain ⟨checked, same⟩ := stored.checkTimer config network rawData.handle now
          refine ⟨checked, fun lidar => ?_⟩
          dsimp only
          rw [held, ← List.append_assoc, pending_checkTimer, points, received, List.append_nil,
            held, queued, queued, same, packets, List.flatMap_cons, List.append_assoc]
          rfl

/-- From any sound state, the points of a lidar stay in order. -/
theorem Sound.published_append_held (sound : Sound trig extrinsics pub)
    (config : PointCloudConfig) (lidar : network.Lidar) (events : List (PubEvent network)) :
    Machine.collect (PubHandler.step trig config extrinsics)
        (fun pub event => (pub.published trig config extrinsics event).flatMap (pointsOf lidar))
        pub events ++
      held trig extrinsics lidar (Machine.run (PubHandler.step trig config extrinsics) pub events) =
    held trig extrinsics lidar pub ++ Machine.collect (PubHandler.step trig config extrinsics)
      (fun _ event => received trig extrinsics lidar event) pub events :=
  Machine.collect_append_held (held trig extrinsics lidar) (Sound trig extrinsics)
    (fun _ event sound _ => (sound.step event).1)
    (fun _ event sound _ => (sound.step event).2 lidar) sound (Machine.throughout_true _ _)

/-- The points of a lidar in the frames published, followed by those that wait, are all points
received from it, in order and each once, and each where the mounting of its lidar puts it. -/
theorem points_exactly_once (trig : Trigonometry K) (config : PointCloudConfig)
    (extrinsics : ℕ → Option (LidarExtParameter K)) (lidar : network.Lidar)
    (events : List (PubEvent network)) :
    Machine.collect (step trig config extrinsics)
        (fun pub event => (pub.published trig config extrinsics event).flatMap (pointsOf lidar))
        start events ++
      held trig extrinsics lidar (Machine.run (step trig config extrinsics) start events) =
    Machine.collect (step trig config extrinsics)
      (fun _ event => received trig extrinsics lidar event) start events :=
  sound_start.published_append_held config lidar events

/-! ## In the order of time -/

/-- A packet begins with its first point. -/
def Begins (packet : PointPacket K) : Prop :=
  ∃ first rest, packet.points = first :: rest ∧ packet.baseTime = first.offsetTime

omit [Field K] in
theorem begins_of_mem_lidarPoint {id : ℕ} {handler : LidarPubHandler K} {packet : PointPacket K}
    (member : packet ∈ lidarPoint id handler) : Begins packet := by
  rw [lidarPoint] at member
  cases points : handler.pointsClouds with
  | nil => simp [points] at member
  | cons first rest =>
      obtain rfl : packet = ⟨first.offsetTime, id, first :: rest⟩ := by
        simpa [points, LidarPubHandler.getLidarBaseTime] using member
      exact ⟨first, rest, rfl, rfl⟩

omit [Field K] in
theorem begins_of_mem_checkTimer {id : ℕ} {nowTime : ℤ} {frame : PointFrame K}
    (published : frame ∈ (pub.checkTimer config network id nowTime).2) {packet : PointPacket K}
    (member : packet ∈ frame) : Begins packet := by
  rw [checkTimer] at published
  split at published
  · rw [checkTimerSync] at published
    cases at_ : pub.lidarProcessHandlers id with
    | none => simp [at_] at published
    | some handler =>
        rw [at_] at published
        dsimp only at published
        split at published
        · simp at published
        · split at published
          · simp at published
          · split at published
            · simp at published
            · obtain rfl := List.mem_singleton.mp published
              exact begins_of_mem_lidarPoint member
  · rw [checkTimerFree] at published
    cases at_ : pub.lastPubTime with
    | none => simp [at_] at published
    | some lastPubTime =>
        rw [at_] at published
        dsimp only at published
        split at published
        · simp at published
        · obtain rfl := List.mem_singleton.mp published
          obtain ⟨other, _, entered⟩ := List.mem_flatMap.mp member
          cases stored : pub.lidarProcessHandlers other with
          | none => simp [stored] at entered
          | some handler =>
              rw [stored] at entered
              exact begins_of_mem_lidarPoint entered

theorem begins_of_mem_published (event : PubEvent network) :
    ∀ frame ∈ pub.published trig config extrinsics event, ∀ packet ∈ frame, Begins packet := by
  intro frame member packet inside
  cases event with
  | onLivoxLidarPointCloudCallback lidar devType data now => simp [published, react] at member
  | rawDataProcess now =>
      rw [published, react] at member
      cases packets : pub.rawPacketQueue with
      | nil => simp [packets] at member
      | cons rawData rest =>
          rw [packets] at member
          exact begins_of_mem_checkTimer member inside

omit [Field K] in
theorem pointsOf_eq (handle : ℕ) (frame : PointFrame K) :
    pointsOf handle frame = (packetsOf handle frame).flatMap PointPacket.points := by
  induction frame with
  | nil => rfl
  | cons packet frame ih =>
      have parts : pointsOf handle (packet :: frame) =
          (if packet.handle = handle then packet.points else []) ++ pointsOf handle frame := rfl
      rw [parts, ih, packetsOf, packetsOf, List.filter_cons]
      by_cases same : packet.handle = handle
      · simp [same]
      · simp [same]

/-- If the points of a lidar come in the order of time, its packets cut them in that order: each
begins at its base time, and none before the end of an earlier one. -/
theorem frames_cut (trig : Trigonometry K) (config : PointCloudConfig)
    (extrinsics : ℕ → Option (LidarExtParameter K)) (lidar : network.Lidar)
    (events : List (PubEvent network))
    (ascending : (Machine.collect (step trig config extrinsics)
      (fun _ event => received trig extrinsics lidar event) start events).Pairwise
        fun earlier later => earlier.offsetTime ≤ later.offsetTime) :
    ((Machine.collect (step trig config extrinsics) (published trig config extrinsics) start
        events).flatMap (packetsOf lidar)).Pairwise
      (fun earlier later => ∀ point ∈ earlier.points, point.offsetTime ≤ later.baseTime) ∧
    ∀ packet ∈ (Machine.collect (step trig config extrinsics) (published trig config extrinsics)
        start events).flatMap (packetsOf lidar),
      Begins packet ∧ packet.points.Pairwise
        fun earlier later => earlier.offsetTime ≤ later.offsetTime := by
  have begins : ∀ packet ∈ (Machine.collect (step trig config extrinsics)
      (published trig config extrinsics) start events).flatMap (packetsOf lidar),
      Begins packet := by
    intro packet member
    obtain ⟨frame, published, inside⟩ := List.mem_flatMap.mp member
    exact Machine.forall_mem_collect (fun pub event => begins_of_mem_published event) start events
      frame published packet (List.mem_filter.mp inside).1
  have sound : Sound trig extrinsics start := sound_start
  have conserved := sound.published_append_held config lidar events
  have empty : held trig extrinsics lidar start = [] := rfl
  rw [empty, List.nil_append] at conserved
  rw [← conserved, ← Machine.flatMap_collect] at ascending
  have inOrder := (List.pairwise_append.mp ascending).1
  rw [funext (pointsOf_eq (lidar : ℕ)), ← List.flatMap_assoc, List.pairwise_flatMap] at inOrder
  obtain ⟨each, between⟩ := inOrder
  constructor
  · refine between.imp_of_mem fun {earlier later} _ member before point inside => ?_
    obtain ⟨first, rest, points, base⟩ := begins later member
    rw [base]
    exact before point inside first (by simp [points])
  · exact fun packet member => ⟨begins packet member, each packet member⟩

/-! ## Not too many frames -/

variable (trig config extrinsics) in
/-- The frames that an event publishes by the time of the host. -/
def publishedFree (pub : PubHandler K) (event : PubEvent network) : List (PointFrame K) :=
  if pub.isTimestampSync then [] else pub.published trig config extrinsics event

/-- An event at the times of the host from `first` to `last`. -/
def Within (first last : ℤ) : PubEvent network → Prop
  | .rawDataProcess now => first ≤ now ∧ now ≤ last
  | .onLivoxLidarPointCloudCallback _ _ _ _ => True

omit [Field K] in
/-- A frame moves `last_pub_time_` on by an interval, and never into the future. -/
theorem lastPubTime_checkTimer {first last nowTime : ℤ} (between : first ≤ nowTime ∧ nowTime ≤ last)
    (id : ℕ) (past : pub.lastPubTime.getD first ≤ last) :
    (pub.checkTimer config network id nowTime).1.lastPubTime.getD first ≤ last ∧
      (if pub.isTimestampSync then [] else (pub.checkTimer config network id nowTime).2).length *
          (config.publishInterval.toNat : ℤ) + pub.lastPubTime.getD first ≤
        (pub.checkTimer config network id nowTime).1.lastPubTime.getD first := by
  rw [PubHandler.checkTimer]
  split
  · have same : (pub.checkTimerSync config id).1.lastPubTime = pub.lastPubTime := by
      rw [checkTimerSync]
      cases pub.lidarProcessHandlers id with
      | none => rfl
      | some handler =>
          dsimp only
          split
          · rfl
          · split
            · rfl
            · split <;> rfl
    rw [same]
    exact ⟨past, by simp⟩
  · rw [checkTimerFree]
    cases at_ : pub.lastPubTime with
    | none => simpa using between.symm
    | some lastPubTime =>
        rw [at_] at past
        dsimp only
        split
        · next early => simpa [at_] using past
        · next late =>
            simp only [Option.getD_some, List.length_singleton] at past ⊢
            omega

variable (trig config extrinsics) in
theorem lastPubTime_step {first last : ℤ} {event : PubEvent network} (within : Within first last event)
    (past : pub.lastPubTime.getD first ≤ last) :
    (pub.step trig config extrinsics event).lastPubTime.getD first ≤ last ∧
      (pub.publishedFree trig config extrinsics event).length *
          (config.publishInterval.toNat : ℤ) + pub.lastPubTime.getD first ≤
        (pub.step trig config extrinsics event).lastPubTime.getD first := by
  cases event with
  | onLivoxLidarPointCloudCallback lidar devType data now =>
      have none : pub.publishedFree trig config extrinsics
          (.onLivoxLidarPointCloudCallback lidar devType data now) = [] := by
        simp [publishedFree, published, react]
      rw [none]
      exact ⟨past, by simp [PubHandler.step, react]⟩
  | rawDataProcess now =>
      rw [publishedFree, published, PubHandler.step, react]
      cases pub.rawPacketQueue with
      | nil => exact ⟨past, by simp⟩
      | cons rawData rest => exact lastPubTime_checkTimer within rawData.handle past

/-- By the time of the host the driver never publishes more frames than one in an interval. -/
theorem frames_paced (trig : Trigonometry K) (config : PointCloudConfig)
    (extrinsics : ℕ → Option (LidarExtParameter K)) {first last : ℤ} (ordered : first ≤ last)
    {events : List (PubEvent network)} (within : ∀ event ∈ events, Within first last event) :
    (Machine.collect (step trig config extrinsics) (publishedFree trig config extrinsics) start
        events).length * (config.publishInterval.toNat : ℤ) ≤ last - first := by
  have past : (start : PubHandler K).lastPubTime.getD first ≤ last := ordered
  refine Machine.length_collect_mul_le (fun pub : PubHandler K => last - pub.lastPubTime.getD first)
    _ (fun pub => pub.lastPubTime.getD first ≤ last)
    (fun pub event past within => (lastPubTime_step trig config extrinsics within past).1)
    (fun pub event past within => ?_) (fun pub past => Int.sub_nonneg_of_le past) past
    (Machine.throughout_of_forall_mem (fun event member _ => within event member) start)
  have paid := (lastPubTime_step trig config extrinsics within past).2
  omega

end Steps

/-- A network of one lidar. -/
def oneLidar : Network where
  handles := [7]
  ascending := List.pairwise_singleton _ _
  few := by decide

/-- Ten frames in a second. -/
def tenHertz : PointCloudConfig where
  publishInterval := 100000000
  atLeast := by decide

/-- No turn. -/
def still : Trigonometry ℚ where
  cos _ := 1
  sin _ := 0
  pi := 3

/-- A point one metre ahead. -/
def oneMetre : LivoxLidarEthernetPacket where
  timeInterval := 10
  timeType := 0
  timestamp := 0
  data := some (.cartesianHigh [⟨1000, 0, 0, 10, 0⟩])
  dots raw member := by
    obtain rfl := Option.some.inj member
    decide

/-- Two packets, an interval apart. -/
def twoPackets : List (PubEvent oneLidar) :=
  [.onLivoxLidarPointCloudCallback ⟨7, by decide⟩ 9 oneMetre 1000, .rawDataProcess 0,
    .onLivoxLidarPointCloudCallback ⟨7, by decide⟩ 9 oneMetre 100001000,
    .rawDataProcess 100000000]

theorem frames_paced_twoPackets :
    (Machine.collect (step still tenHertz fun _ => none)
      (publishedFree still tenHertz fun _ => none) start twoPackets).length *
        ((100000000 : ℕ) : ℤ) ≤ 100000000 - 0 :=
  frames_paced still tenHertz (fun _ => none) (by decide) (by simp [twoPackets, Within])

end PubHandler

end ScoutStack.LivoxDriver
