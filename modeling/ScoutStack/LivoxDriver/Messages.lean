import ScoutStack.LivoxDriver.Frames
import ScoutStack.LivoxDriver.Handoff
import ScoutStack.LivoxDriver.Index

/-!
# From packets to messages

`StoragePointData` of `lds.cpp` pushes the packets of a frame to the queues of their lidars, and
`FillPointsToCustomMsg` of `lddc.cpp` makes a message of a packet that was taken.
-/

namespace ScoutStack.LivoxDriver

variable {K : Type}

/-- The packet that `QueuePushAny` stores. -/
def PointPacket.storage (packet : PointPacket K) : StoragePacket (PointXyzlt K) where
  baseTime := packet.baseTime
  points := packet.points

/-- `StoragePointData`: the calls of `PushLidarData`. -/
def storagePointData (cache : CacheIndex) (frame : PointFrame K) :
    List (ℕ × StoragePacket (PointXyzlt K)) :=
  frame.filterMap fun packet =>
    (cache.getIndex livoxLidarType packet.handle).map fun index => (index, packet.storage)

/-- `CustomPoint`. -/
structure CustomPoint (K : Type) where
  offsetTime : BitVec 32
  x : K
  y : K
  z : K
  reflectivity : BitVec 8
  tag : BitVec 8
  line : BitVec 8

/-- `CustomMsg`. -/
structure CustomMsg (K : Type) where
  timebase : BitVec 64
  points : List (CustomPoint K)

/-- `InitCustomMsg` and `FillPointsToCustomMsg`. -/
def customMsg (pkg : StoragePacket (PointXyzlt K)) : CustomMsg K where
  timebase := if pkg.points.isEmpty then 0 else pkg.baseTime
  points := pkg.points.map fun point =>
    { offsetTime := (point.offsetTime - pkg.baseTime).setWidth 32
      x := point.x
      y := point.y
      z := point.z
      reflectivity := point.intensity
      tag := point.tag
      line := point.line }

/-- The points of a message, as a subscriber reads them. -/
def CustomMsg.read (msg : CustomMsg K) : List (PointXyzlt K) :=
  msg.points.map fun point =>
    { x := point.x
      y := point.y
      z := point.z
      intensity := point.reflectivity
      tag := point.tag
      line := point.line
      offsetTime := msg.timebase + point.offsetTime.setWidth 64 }

/-! ## The times of a message -/

/-- An offset of 32 bits is enough for less than `2 ^ 32` nanoseconds. -/
theorem add_setWidth_eq_iff (base time : BitVec 64) :
    base + ((time - base).setWidth 32).setWidth 64 = time ↔ (time - base).toNat < 2 ^ 32 := by
  have shifted : base + ((time - base).setWidth 32).setWidth 64 = time ↔
      ((time - base).setWidth 32).setWidth 64 = time - base := by
    constructor
    · intro same
      rw [BitVec.eq_sub_iff_add_eq, BitVec.add_comm, same]
    · intro same
      rw [same, BitVec.add_comm, BitVec.sub_add_cancel]
  rw [shifted, ← BitVec.toNat_inj, BitVec.toNat_setWidth, BitVec.toNat_setWidth]
  have small : (time - base).toNat % 2 ^ 32 < 2 ^ 32 := Nat.mod_lt _ (by decide)
  rw [Nat.mod_eq_of_lt (Nat.lt_trans small (by decide))]
  exact ⟨fun same => same ▸ small, fun less => Nat.mod_eq_of_lt less⟩

/-- A message says what its packet says, just if every time is less than `2 ^ 32` nanoseconds
after its base. -/
theorem read_customMsg_iff {packet : PointPacket K} (some_ : packet.points ≠ []) :
    (customMsg packet.storage).read = packet.points ↔
      ∀ point ∈ packet.points, (point.offsetTime - packet.baseTime).toNat < 2 ^ 32 := by
  have filled : packet.points.isEmpty = false := by
    simpa using some_
  have each : (customMsg packet.storage).read = packet.points.map fun point =>
      { point with offsetTime :=
          packet.baseTime + ((point.offsetTime - packet.baseTime).setWidth 32).setWidth 64 } := by
    simp [customMsg, CustomMsg.read, PointPacket.storage, filled]
  rw [each]
  constructor
  · intro same point member
    have kept := List.map_inj_left.mp (same.trans (List.map_id _).symm) point member
    exact (add_setWidth_eq_iff _ _).mp (congrArg PointXyzlt.offsetTime kept)
  · intro less
    refine Eq.trans (List.map_congr_left fun point member => ?_) (List.map_id _)
    rw [(add_setWidth_eq_iff _ _).mpr (less point member), id]

/-- In the order of time, the last point decides. -/
theorem read_customMsg_iff_last {packet : PointPacket K} (begins : PubHandler.Begins packet)
    (ascending : packet.points.Pairwise fun earlier later => earlier.offsetTime ≤ later.offsetTime) :
    ∃ last ∈ packet.points.getLast?, ((customMsg packet.storage).read = packet.points ↔
      last.offsetTime.toNat - packet.baseTime.toNat < 2 ^ 32) := by
  obtain ⟨first, rest, points, base⟩ := begins
  have some_ : packet.points ≠ [] := by simp [points]
  have after : ∀ point ∈ packet.points, packet.baseTime ≤ point.offsetTime := by
    intro point member
    rw [points] at ascending member
    rw [base]
    rcases List.mem_cons.mp member with same | later
    · rw [same]
      exact BitVec.le_refl _
    · exact (List.pairwise_cons.mp ascending).1 point later
  have before : ∀ point ∈ packet.points,
      point.offsetTime ≤ (packet.points.getLast some_).offsetTime := by
    intro point member
    rw [← List.dropLast_append_getLast some_] at ascending member
    rcases List.mem_append.mp member with earlier | same
    · exact (List.pairwise_append.mp ascending).2.2 point earlier _ (List.mem_singleton_self _)
    · rw [List.mem_singleton.mp same]
      exact BitVec.le_refl _
  refine ⟨packet.points.getLast some_, List.getLast?_eq_some_getLast some_, ?_⟩
  rw [read_customMsg_iff some_]
  constructor
  · intro less
    have last := less _ (List.getLast_mem some_)
    rwa [BitVec.toNat_sub_of_le (after _ (List.getLast_mem some_))] at last
  · intro less point member
    rw [BitVec.toNat_sub_of_le (after point member)]
    have until_ := BitVec.le_def.mp (before point member)
    omega

section Runs

variable [Field K] {network : Network}

/-- If the points of a lidar come in the order of time, its packets cut them in that order, and
the message of a packet says what the packet says just if the packet lasts less than `2 ^ 32`
nanoseconds. -/
theorem messages_exact (trig : Trigonometry K) (config : PointCloudConfig)
    (extrinsics : ℕ → Option (LidarExtParameter K)) (lidar : network.Lidar)
    (events : List (PubEvent network))
    (ascending : (Machine.collect (PubHandler.step trig config extrinsics)
      (fun _ event => PubHandler.received trig extrinsics lidar event) .start events).Pairwise
        fun earlier later => earlier.offsetTime ≤ later.offsetTime) :
    ((Machine.collect (PubHandler.step trig config extrinsics)
        (PubHandler.published trig config extrinsics) .start events).flatMap
          (packetsOf lidar)).Pairwise
      (fun earlier later => ∀ point ∈ earlier.points, point.offsetTime ≤ later.baseTime) ∧
    ∀ packet ∈ (Machine.collect (PubHandler.step trig config extrinsics)
        (PubHandler.published trig config extrinsics) .start events).flatMap (packetsOf lidar),
      ∃ first ∈ packet.points.head?, ∃ last ∈ packet.points.getLast?,
        packet.baseTime = first.offsetTime ∧
          ((customMsg packet.storage).read = packet.points ↔
            last.offsetTime.toNat - first.offsetTime.toNat < 2 ^ 32) := by
  obtain ⟨between, each⟩ :=
    PubHandler.frames_cut trig config extrinsics lidar events ascending
  refine ⟨between, fun packet member => ?_⟩
  obtain ⟨begins, inside⟩ := each packet member
  obtain ⟨last, ends, exact_⟩ := read_customMsg_iff_last begins inside
  obtain ⟨first, rest, points, base⟩ := begins
  exact ⟨first, by simp [points], last, ends, base, base ▸ exact_⟩

end Runs

open PubHandler in
theorem messages_exact_twoPackets :
    ((Machine.collect (step still tenHertz fun _ => none) (published still tenHertz fun _ => none)
        start twoPackets).flatMap (packetsOf 7)).Pairwise
      (fun earlier later => ∀ point ∈ earlier.points, point.offsetTime ≤ later.baseTime) ∧
    ∀ packet ∈ (Machine.collect (step still tenHertz fun _ => none)
        (published still tenHertz fun _ => none) start twoPackets).flatMap (packetsOf 7),
      ∃ first ∈ packet.points.head?, ∃ last ∈ packet.points.getLast?,
        packet.baseTime = first.offsetTime ∧
          ((customMsg packet.storage).read = packet.points ↔
            last.offsetTime.toNat - first.offsetTime.toNat < 2 ^ 32) :=
  messages_exact still tenHertz (fun _ => none) ⟨7, by decide⟩ twoPackets (by
    rw [Machine.collect_eq_flatMap]
    simp [twoPackets, received, oneMetre, LivoxLidarEthernetPacket.rawPacket, RawPacket.placed,
      RawPacket.point, getEthPacketTimestamp])

/-! ## From a lidar to its messages -/

/-- The calls of `PushLidarData` among the accesses. -/
def Access.pushed {P : Type*} : Access P → List (ℕ × StoragePacket P)
  | .push index packet => [(index, packet)]
  | _ => []

/-- A packet that is pushed to a queue. -/
def sentTo {P : Type*} (index : ℕ) (push : ℕ × StoragePacket P) : List (StoragePacket P) :=
  if push.1 = index then [push.2] else []

/-- The thread of the points, with the indices of the lidars. -/
structure Driver (K : Type) where
  pub : PubHandler K
  cache : CacheIndex

/-- What happens in the driver.  Indices are given, and never taken. -/
inductive DriverEvent (network : Network) where
  | pub (event : PubEvent network)
  | getFreeIndex (lidarType : BitVec 8) (handle : ℕ)

namespace Driver

/-- The driver before any lidar. -/
def start : Driver K where
  pub := .start
  cache := .new

section Model

variable [Field K] (trig : Trigonometry K) (config : PointCloudConfig)
  (extrinsics : ℕ → Option (LidarExtParameter K)) {network : Network} (driver : Driver K)

/-- The driver after an event. -/
def step : DriverEvent network → Driver K
  | .pub event => { driver with pub := driver.pub.step trig config extrinsics event }
  | .getFreeIndex lidarType handle =>
      { driver with cache := (driver.cache.getFreeIndex lidarType handle).1 }

/-- The calls of `PushLidarData` at an event. -/
def pushes : DriverEvent network → List (ℕ × StoragePacket (PointXyzlt K))
  | .pub event => (driver.pub.published trig config extrinsics event).flatMap
      (storagePointData driver.cache)
  | .getFreeIndex _ _ => []

/-- The points of a lidar that an event publishes. -/
def published (handle : ℕ) : DriverEvent network → List (PointXyzlt K)
  | .pub event => (driver.pub.published trig config extrinsics event).flatMap (pointsOf handle)
  | .getFreeIndex _ _ => []

/-- The points of a lidar that an event brings. -/
def received (handle : ℕ) : DriverEvent network → List (PointXyzlt K)
  | .pub event => PubHandler.received trig extrinsics handle event
  | .getFreeIndex _ _ => []

end Model

section Steps

variable {driver : Driver K}

/-- Only points of the lidar that an index belongs to are pushed to it. -/
theorem storagePointData_sublist {cache : CacheIndex} {index handle : ℕ}
    (alone : ∀ other, cache.getIndex livoxLidarType other = some index → other = handle)
    (frame : PointFrame K) :
    (((storagePointData cache frame).flatMap (sentTo index)).flatMap
      StoragePacket.points).Sublist (pointsOf handle frame) := by
  induction frame with
  | nil => exact List.Sublist.slnil
  | cons packet frame ih =>
      have parts : pointsOf handle (packet :: frame) =
          (if packet.handle = handle then packet.points else []) ++ pointsOf handle frame := rfl
      rw [parts, storagePointData, List.filterMap_cons]
      cases given : cache.getIndex livoxLidarType packet.handle with
      | none => exact ih.trans (List.sublist_append_right _ _)
      | some index' =>
          dsimp only [Option.map_some]
          rw [List.flatMap_cons, List.flatMap_append]
          refine List.Sublist.append ?_ ih
          by_cases same : index' = index
          · rw [if_pos (alone packet.handle (same ▸ given))]
            simp [sentTo, same, PointPacket.storage]
          · simp [sentTo, same]

theorem accepted_sublist {P : Type*} (memory : ℕ → StoragePacket P) (queueSize : BitVec 32)
    (index : ℕ) (handoff : Handoff P) (access : Access P) :
    (handoff.accepted memory queueSize index access).Sublist
      (access.pushed.flatMap (sentTo index)) := by
  cases access with
  | push index' packet =>
      rw [Handoff.accepted]
      cases handoff.producer with
      | idle =>
          dsimp only
          split
          · next accepted => simp [Access.pushed, sentTo, accepted.1]
          · exact List.nil_sublist _
      | _ => exact List.nil_sublist _
  | _ => exact List.nil_sublist _

variable [Field K] {trig : Trigonometry K} {config : PointCloudConfig}
  {extrinsics : ℕ → Option (LidarExtParameter K)} {network : Network}

variable (trig extrinsics) in
/-- The points and the indices are in order. -/
def Sound (driver : Driver K) : Prop :=
  driver.pub.Sound trig extrinsics ∧ driver.cache.Sound

theorem sound_start : Sound trig extrinsics (start : Driver K) :=
  ⟨PubHandler.sound_start, CacheIndex.sound_new⟩

theorem Sound.step (sound : Sound trig extrinsics driver) (event : DriverEvent network) :
    Sound trig extrinsics (driver.step trig config extrinsics event) := by
  cases event with
  | pub event => exact ⟨(sound.1.step event).1, sound.2⟩
  | getFreeIndex lidarType handle => exact ⟨sound.1, sound.2.getFreeIndex lidarType handle⟩

theorem Sound.published_append_held (sound : Sound trig extrinsics driver) (lidar : network.Lidar)
    (event : DriverEvent network) :
    driver.published trig config extrinsics lidar event ++
        PubHandler.held trig extrinsics lidar (driver.step trig config extrinsics event).pub =
      PubHandler.held trig extrinsics lidar driver.pub ++
        received trig extrinsics lidar event := by
  cases event with
  | pub event => exact (sound.1.step event).2 lidar
  | getFreeIndex lidarType handle => exact (List.append_nil _).symm

variable (trig config extrinsics) in
/-- An index that belongs to a lidar in the end never was another's. -/
theorem throughout_alone {events : List (DriverEvent network)} {index handle : ℕ}
    (sound : Sound trig extrinsics driver)
    (given : (Machine.run (Driver.step trig config extrinsics) driver events).cache.getIndex
      livoxLidarType handle = some index) :
    Machine.Throughout (Driver.step trig config extrinsics)
      (fun driver _ => ¬∃ other, other ≠ handle ∧
        driver.cache.getIndex livoxLidarType other = some index) driver events := by
  refine Machine.throughout_not_of_run (fun driver event stray => ?_) fun stray => ?_
  · obtain ⟨other, different, theirs⟩ := stray
    cases event with
    | pub event => exact ⟨other, different, theirs⟩
    | getFreeIndex lidarType handle' =>
        refine ⟨other, different, ?_⟩
        have call : CacheIndex.Call.getFreeIndex lidarType handle' ≠
            .resetIndex livoxLidarType other := by simp
        exact CacheIndex.getIndex_step theirs call
  · obtain ⟨other, different, theirs⟩ := stray
    have kept : ∀ (driver : Driver K) (event : DriverEvent network), Sound trig extrinsics driver →
        True → Sound trig extrinsics (Driver.step trig config extrinsics driver event) :=
      fun _ event sound _ => sound.step event
    have last := Machine.invariant_run kept sound (Machine.throughout_true _ events)
      (List.prefix_refl events)
    exact different (last.2.getIndex_unique theirs given)

/-- What is pushed to the index of a lidar. -/
theorem pushes_sublist {events : List (DriverEvent network)} {index : ℕ} {lidar : network.Lidar}
    (sound : Sound trig extrinsics driver)
    (given : (Machine.run (Driver.step trig config extrinsics) driver events).cache.getIndex
      livoxLidarType lidar = some index) :
    (((Machine.collect (Driver.step trig config extrinsics) (pushes trig config extrinsics) driver
        events).flatMap (sentTo index)).flatMap StoragePacket.points).Sublist
      (Machine.collect (Driver.step trig config extrinsics)
        (fun driver => driver.published trig config extrinsics lidar) driver events) := by
  rw [Machine.flatMap_collect, Machine.flatMap_collect]
  refine Machine.collect_sublist (fun driver event alone => ?_)
    (throughout_alone trig config extrinsics sound given)
  cases event with
  | getFreeIndex lidarType handle => exact List.Sublist.slnil
  | pub event =>
      have mine : ∀ other, driver.cache.getIndex livoxLidarType other = some index →
          other = lidar := by
        intro other theirs
        by_contra different
        exact alone ⟨other, different, theirs⟩
      rw [pushes, published, List.flatMap_assoc, List.flatMap_assoc]
      refine List.Sublist.flatMap_right _ fun frame _ => ?_
      have part := storagePointData_sublist mine frame
      rwa [List.flatMap_assoc] at part

/-- Let the driver push the packets of its frames, while another thread takes packets from the
queues, in any interleaving.  The points of the packets that are taken from the queue of a lidar
are points received from that lidar, in order and each at most once, each where the mounting of
the lidar puts it. -/
theorem popped_from_lidar (trig : Trigonometry K) (config : PointCloudConfig)
    (extrinsics : ℕ → Option (LidarExtParameter K)) (events : List (DriverEvent network))
    (memory : ℕ → StoragePacket (PointXyzlt K)) (queueSize : BitVec 32)
    (accesses : List (Access (PointXyzlt K)))
    (calls : accesses.flatMap Access.pushed =
      Machine.collect (Driver.step trig config extrinsics) (pushes trig config extrinsics) .start
        events)
    (lidar : network.Lidar) {index : ℕ}
    (given : (Machine.run (Driver.step trig config extrinsics) .start events).cache.getIndex
      livoxLidarType lidar = some index) :
    ((Machine.collect (Handoff.step memory queueSize) (Handoff.popped index) .start
        accesses).flatMap StoragePacket.points).Sublist
      (Machine.collect (Driver.step trig config extrinsics)
        (fun _ event => received trig extrinsics lidar event) .start events) := by
  have sound : Sound trig extrinsics (start : Driver K) := sound_start
  have taken : Machine.collect (Handoff.step memory queueSize) (Handoff.popped index) .start
      accesses ++ _ = [] ++ _ := Handoff.sound_start.popped_append_held accesses index
  have accepted : (Machine.collect (Handoff.step memory queueSize)
      (fun handoff => handoff.accepted memory queueSize index) .start accesses).Sublist
      ((accesses.flatMap Access.pushed).flatMap (sentTo index)) := by
    rw [List.flatMap_assoc, ← Machine.collect_eq_flatMap]
    exact Machine.collect_sublist
      (fun handoff access _ => accepted_sublist memory queueSize index handoff access)
      (Machine.throughout_true _ accesses)
  have conserved : Machine.collect (Driver.step trig config extrinsics)
      (fun driver => driver.published trig config extrinsics lidar) .start events ++ _ = [] ++ _ :=
    Machine.collect_append_held
      (fun driver : Driver K => PubHandler.held trig extrinsics lidar driver.pub)
      (Sound trig extrinsics) (fun _ event sound _ => sound.step event)
      (fun _ event sound _ => sound.published_append_held lidar event) sound
      (Machine.throughout_true _ events)
  rw [List.nil_append] at taken conserved
  rw [← taken] at accepted
  have atQueue := ((List.sublist_append_left _ _).trans accepted).flatMap StoragePacket.points
  rw [calls] at atQueue
  refine (atQueue.trans (pushes_sublist sound given)).trans ?_
  rw [← conserved]
  exact List.sublist_append_left _ _

end Steps

/-- A lidar is found, and two packets come. -/
def foundLidar : List (DriverEvent PubHandler.oneLidar) :=
  .getFreeIndex livoxLidarType 7 :: PubHandler.twoPackets.map .pub

/-- The frames of `foundLidar` are pushed, and a packet is taken. -/
def takenOnce : List (Access (PointXyzlt ℚ)) :=
  (Machine.collect (step PubHandler.still PubHandler.tenHertz fun _ => none)
      (pushes PubHandler.still PubHandler.tenHertz fun _ => none) start foundLidar).map
    (fun push => .push push.1 push.2) ++
  (List.replicate 5 .producer ++ List.replicate 7 (.consumer true))

theorem popped_from_lidar_foundLidar :
    ((Machine.collect (Handoff.step (fun _ => ⟨0, []⟩) 16) (Handoff.popped 0) .start
        takenOnce).flatMap StoragePacket.points).Sublist
      (Machine.collect (step PubHandler.still PubHandler.tenHertz fun _ => none)
        (fun _ event => received PubHandler.still (fun _ => none) 7 event) start foundLidar) :=
  popped_from_lidar PubHandler.still PubHandler.tenHertz (fun _ => none) foundLidar
    (fun _ => ⟨0, []⟩) 16 takenOnce (by simp [takenOnce, List.flatMap_map, Access.pushed])
    ⟨7, by decide⟩ (by
      have found : (CacheIndex.new.getFreeIndex livoxLidarType 7).1.getIndex livoxLidarType 7 =
          some 0 := by
        have free : (List.range maxSourceLidar).find? (fun _ => true) = some 0 := rfl
        simp [CacheIndex.getFreeIndex, CacheIndex.getIndex, CacheIndex.new, CacheIndex.occupy,
          generateIndexKey, free]
      exact found)

end Driver

end ScoutStack.LivoxDriver
