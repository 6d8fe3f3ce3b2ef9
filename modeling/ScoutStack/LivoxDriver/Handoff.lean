import ScoutStack.Lib.Buffer
import ScoutStack.LivoxDriver.Queue

/-!
# From the thread of the points to the thread of the messages

`PushLidarData` of `lds.cpp` runs in the thread that makes the packets, and
`DistributePointCloudData` of `lddc.cpp` in the thread that publishes them.  They share the
queues without a lock, and a semaphore; every event is one access to what they share.
-/

namespace ScoutStack.LivoxDriver

variable {P : Type*}

/-- Where `PushLidarData` is. -/
inductive Producer (P : Type*) where
  | idle
  /-- `QueueIsFull` was false. -/
  | storing (index : ℕ) (packet : StoragePacket P)
  /-- `QueuePushAny` has yet to move `wr_idx`. -/
  | stored (index : ℕ) (packet : StoragePacket P)
  /-- Before `QueueIsEmpty`. -/
  | pushed (index : ℕ)
  /-- Before `GetCount`. -/
  | counting
  /-- Before `Signal`. -/
  | signalling

/-- The packet that is being pushed to a lidar. -/
def Producer.inHand (lidar : ℕ) : Producer P → List (StoragePacket P)
  | .storing index packet => if index = lidar then [packet] else []
  | .stored index packet => if index = lidar then [packet] else []
  | _ => []

/-- The packet that the next access of `PushLidarData` makes visible. -/
def Producer.adds (lidar : ℕ) : Producer P → List (StoragePacket P)
  | .stored index packet => if index = lidar then [packet] else []
  | _ => []

/-- What `PushLidarData` relies on. -/
def Producer.Fits (lidars : ℕ → LidarDataQueue P) : Producer P → Prop
  | .storing index _ => (lidars index).Room
  | .stored index packet => (lidars index).Room ∧ (lidars index).written? = some packet
  | _ => True

/-- Where `DistributePointCloudData` is. -/
inductive Consumer (P : Type*) where
  /-- In `Wait`. -/
  | waiting
  /-- In the loop over the lidars. -/
  | visiting (index : ℕ)
  /-- Before `QueueIsEmpty` in `PollingLidarPointCloudData`. -/
  | polling (index : ℕ)
  /-- Before `QueueIsEmpty` in the function that publishes. -/
  | publishing (index : ℕ)
  /-- In `QueuePrePop`, before `QueueIsEmpty`. -/
  | popping (index : ℕ)
  /-- In `QueuePrePop`, before the packet is copied. -/
  | copying (index : ℕ)
  /-- Before `QueuePopUpdate`. -/
  | copied (index : ℕ) (packet : StoragePacket P)

/-- What `DistributePointCloudData` relies on. -/
def Consumer.Fits (lidars : ℕ → LidarDataQueue P) : Consumer P → Prop
  | .popping index => (lidars index).contents ≠ []
  | .copying index => (lidars index).contents ≠ []
  | .copied index packet => (lidars index).contents.head? = some packet
  | _ => True

/-- What the threads share, and where they are. -/
structure Handoff (P : Type*) where
  lidars : ℕ → LidarDataQueue P
  count : ℕ
  producer : Producer P
  consumer : Consumer P

/-- An access. -/
inductive Access (P : Type*) where
  /-- `PushLidarData` is called. -/
  | push (index : ℕ) (packet : StoragePacket P)
  | producer
  /-- The second thread goes on; a lidar that it visits is sampling or not. -/
  | consumer (sampling : Bool)

namespace Handoff

/-- The driver before any packet. -/
def start : Handoff P where
  lidars _ := zeroQueue
  count := 0
  producer := .idle
  consumer := .waiting

section Model

variable (memory : ℕ → StoragePacket P) (queueSize : BitVec 32) (handoff : Handoff P)

/-- The queue of a lidar, with storage. -/
def opened (index : ℕ) : LidarDataQueue P :=
  if (handoff.lidars index).storagePacket.isNone then initQueue memory queueSize
  else handoff.lidars index

/-- Change the queue of a lidar. -/
def withQueue (index : ℕ) (queue : LidarDataQueue P) : Handoff P :=
  { handoff with lidars := Function.update handoff.lidars index queue }

/-- `PushLidarData` up to `QueueIsFull`. -/
def push (index : ℕ) (packet : StoragePacket P) : Handoff P :=
  let queue := handoff.opened memory queueSize index
  { handoff.withQueue index queue with
    producer := if queue.isFull then .counting else .storing index packet }

/-- The next access of `PushLidarData`. -/
def produce : Handoff P :=
  match handoff.producer with
  | .idle => handoff
  | .storing index packet =>
      { handoff.withQueue index ((handoff.lidars index).store packet) with
        producer := .stored index packet }
  | .stored index _ =>
      { handoff.withQueue index (handoff.lidars index).advance with producer := .pushed index }
  | .pushed index =>
      { handoff with producer := if (handoff.lidars index).isEmpty then .idle else .counting }
  | .counting => { handoff with producer := if handoff.count = 0 then .signalling else .idle }
  | .signalling => { handoff with count := handoff.count + 1, producer := .idle }

/-- The next access of `DistributePointCloudData`. -/
def consume (sampling : Bool) : Handoff P :=
  match handoff.consumer with
  | .waiting =>
      match handoff.count with
      | 0 => handoff
      | count + 1 => { handoff with count := count, consumer := .visiting 0 }
  | .visiting index =>
      if maxSourceLidar ≤ index then { handoff with consumer := .waiting }
      else if sampling && (handoff.lidars index).storagePacket.isSome then
        { handoff with consumer := .polling index }
      else { handoff with consumer := .visiting (index + 1) }
  | .polling index =>
      if (handoff.lidars index).isEmpty then { handoff with consumer := .visiting (index + 1) }
      else { handoff with consumer := .publishing index }
  | .publishing index =>
      if (handoff.lidars index).isEmpty then { handoff with consumer := .polling index }
      else { handoff with consumer := .popping index }
  | .popping index =>
      if (handoff.lidars index).isEmpty then { handoff with consumer := .publishing index }
      else { handoff with consumer := .copying index }
  | .copying index =>
      match (handoff.lidars index).front? with
      | none => handoff
      | some packet => { handoff with consumer := .copied index packet }
  | .copied index _ =>
      { handoff.withQueue index (handoff.lidars index).popUpdate with
        consumer := .publishing index }

/-- The state after an access.  `PushLidarData` is called when it has returned, for one of the
lidars. -/
def step : Access P → Handoff P
  | .push index packet =>
      match handoff.producer with
      | .idle =>
          if index < maxSourceLidar then handoff.push memory queueSize index packet else handoff
      | _ => handoff
  | .producer => handoff.produce
  | .consumer sampling => handoff.consume sampling

/-- The packets that an access accepts for a lidar. -/
def accepted (lidar : ℕ) : Access P → List (StoragePacket P)
  | .push index packet =>
      match handoff.producer with
      | .idle =>
          if index = lidar ∧ index < maxSourceLidar ∧
              (handoff.opened memory queueSize index).isFull = false then [packet]
          else []
      | _ => []
  | _ => []

end Model

/-- The packets that an access takes from a lidar. -/
def popped (lidar : ℕ) (handoff : Handoff P) : Access P → List (StoragePacket P)
  | .consumer _ =>
      match handoff.consumer with
      | .copied index packet => if index = lidar then [packet] else []
      | _ => []
  | _ => []

/-- The packets accepted for a lidar and not taken. -/
def held (lidar : ℕ) (handoff : Handoff P) : List (StoragePacket P) :=
  (handoff.lidars lidar).contents ++ handoff.producer.inHand lidar

/-! ## The queues through both threads -/

/-- Every queue is sound, and each thread finds what it relies on. -/
structure Sound (handoff : Handoff P) : Prop where
  lidars : ∀ index, (handoff.lidars index).Sound
  producer : handoff.producer.Fits handoff.lidars
  consumer : handoff.consumer.Fits handoff.lidars

theorem sound_start : Sound (start : Handoff P) where
  lidars _ := LidarDataQueue.sound_zeroQueue
  producer := trivial
  consumer := trivial

section Steps

variable {memory : ℕ → StoragePacket P} {queueSize : BitVec 32} {handoff : Handoff P}
  {lidars lidars' : ℕ → LidarDataQueue P}

/-- More packets do not hinder the second thread. -/
theorem consumer_fits_of_more {consumer : Consumer P} (fits : consumer.Fits lidars)
    (more : ∀ index, (lidars index).contents <+: (lidars' index).contents) :
    consumer.Fits lidars' := by
  cases consumer with
  | waiting => trivial
  | visiting index => trivial
  | polling index => trivial
  | publishing index => trivial
  | popping index => exact fun none => fits (List.prefix_nil.mp (none ▸ more index))
  | copying index => exact fun none => fits (List.prefix_nil.mp (none ▸ more index))
  | copied index packet =>
      obtain ⟨rest, same⟩ := more index
      simp only [Consumer.Fits] at fits ⊢
      rw [← same, List.head?_append, fits, Option.some_or]

/-- Taking packets does not hinder the first thread. -/
theorem producer_fits_of_room {producer : Producer P} (fits : producer.Fits lidars)
    (room : ∀ index, (lidars index).Room → (lidars' index).Room)
    (same : ∀ index, (lidars' index).written? = (lidars index).written?) :
    producer.Fits lidars' := by
  cases producer with
  | idle => trivial
  | storing index packet => exact room index fits
  | stored index packet => exact ⟨room index fits.1, (same index).trans fits.2⟩
  | pushed index => trivial
  | counting => trivial
  | signalling => trivial

/-- A property of all queues after one has changed. -/
theorem forall_withQueue (property : ℕ → LidarDataQueue P → Prop) {index : ℕ}
    {queue : LidarDataQueue P} (there : property index queue)
    (elsewhere : ∀ other, property other (handoff.lidars other)) (other : ℕ) :
    property other ((handoff.withQueue index queue).lidars other) := by
  by_cases same : other = index
  · subst same
    simpa [withQueue] using there
  · simpa [withQueue, same] using elsewhere other

@[simp] theorem withQueue_self (index : ℕ) (queue : LidarDataQueue P) :
    (handoff.withQueue index queue).lidars index = queue := by
  simp [withQueue]

theorem contents_withQueue (lidar index : ℕ) (queue : LidarDataQueue P) :
    ((handoff.withQueue index queue).lidars lidar).contents =
      if index = lidar then queue.contents else (handoff.lidars lidar).contents := by
  by_cases same : index = lidar
  · subst same
    simp
  · simp [withQueue, same, Ne.symm same]

theorem contents_withQueue_of_eq {index : ℕ} {queue : LidarDataQueue P}
    (same : queue.contents = (handoff.lidars index).contents) (lidar : ℕ) :
    ((handoff.withQueue index queue).lidars lidar).contents = (handoff.lidars lidar).contents := by
  rw [contents_withQueue, same]
  split
  · next here => rw [here]
  · rfl

/-- `PushLidarData` opens the queue that it needs. -/
theorem opened_spec (memory : ℕ → StoragePacket P) (queueSize : BitVec 32)
    (sound : Sound handoff) (index : ℕ) :
    (handoff.opened memory queueSize index).Sound ∧
      (handoff.opened memory queueSize index).contents = (handoff.lidars index).contents ∧
      (handoff.opened memory queueSize index).storagePacket.isNone = false := by
  rw [opened]
  split
  · next closed =>
      refine ⟨LidarDataQueue.sound_initQueue memory queueSize, ?_, rfl⟩
      rw [LidarDataQueue.contents_initQueue, LidarDataQueue.contents,
        Option.isNone_iff_eq_none.mp closed, Option.elim_none]
  · next some_ => exact ⟨sound.lidars index, rfl, Bool.eq_false_iff.mpr some_⟩

/-! What an access changes in a queue. -/

theorem Sound.contents_push (sound : Sound handoff) (index : ℕ) (packet : StoragePacket P)
    (lidar : ℕ) :
    ((handoff.push memory queueSize index packet).lidars lidar).contents =
      (handoff.lidars lidar).contents :=
  contents_withQueue_of_eq (opened_spec memory queueSize sound index).2.1 lidar

theorem Sound.contents_produce (sound : Sound handoff) (lidar : ℕ) :
    (handoff.produce.lidars lidar).contents =
      (handoff.lidars lidar).contents ++ handoff.producer.adds lidar := by
  have producer := sound.producer
  rw [Handoff.produce]
  cases at_ : handoff.producer with
  | storing index packet =>
      rw [at_] at producer
      obtain ⟨_, same, _⟩ := LidarDataQueue.Room.store producer packet
      exact (contents_withQueue_of_eq same lidar).trans (List.append_nil _).symm
  | stored index packet =>
      rw [at_] at producer
      obtain ⟨_, more⟩ := LidarDataQueue.Room.advance producer.1 producer.2
      dsimp only [Producer.adds]
      rw [contents_withQueue, more]
      split
      · next here => rw [here]
      · exact (List.append_nil _).symm
  | _ => exact (List.append_nil _).symm

theorem Sound.contents_consume (sound : Sound handoff) (sampling : Bool) (lidar : ℕ) :
    popped lidar handoff (.consumer sampling) ++
        ((handoff.consume sampling).lidars lidar).contents =
      (handoff.lidars lidar).contents := by
  have consumer := sound.consumer
  rw [Handoff.consume, popped]
  cases at_ : handoff.consumer with
  | waiting => cases handoff.count <;> rfl
  | copying index =>
      dsimp only
      cases (handoff.lidars index).front? <;> rfl
  | copied index packet =>
      rw [at_] at consumer
      obtain ⟨rest, first⟩ := List.head?_eq_some_iff.mp consumer
      obtain ⟨_, _, left⟩ := (sound.lidars index).popUpdate first
      dsimp only
      rw [contents_withQueue, left]
      split
      · next here => rw [← here, first, List.singleton_append]
      · rfl
  | _ =>
      dsimp only
      split
      · rfl
      · first
        | rfl
        | (split <;> rfl)

/-! Every access keeps the queues sound. -/

theorem Sound.push (sound : Sound handoff) (index : ℕ) (packet : StoragePacket P) :
    Sound (handoff.push memory queueSize index packet) := by
  obtain ⟨opened, _, some_⟩ := opened_spec memory queueSize sound index
  refine ⟨forall_withQueue (fun _ => LidarDataQueue.Sound) opened sound.lidars, ?_,
    consumer_fits_of_more sound.consumer fun lidar => ?_⟩
  · change Producer.Fits _ (if _ then _ else _)
    split
    · trivial
    · next free =>
        simp only [Producer.Fits, Handoff.push, withQueue_self]
        exact opened.room some_ (by simpa using free)
  · exact (sound.contents_push index packet lidar).symm ▸ List.prefix_rfl

theorem Sound.produce (sound : Sound handoff) : Sound handoff.produce := by
  have producer := sound.producer
  have fits : handoff.consumer.Fits handoff.produce.lidars :=
    consumer_fits_of_more sound.consumer fun lidar => by
      rw [sound.contents_produce]
      exact List.prefix_append _ _
  rw [Handoff.produce] at fits ⊢
  cases at_ : handoff.producer with
  | idle => exact sound
  | storing index packet =>
      rw [at_] at producer fits
      obtain ⟨room, _, written⟩ := LidarDataQueue.Room.store producer packet
      refine ⟨forall_withQueue (fun _ => LidarDataQueue.Sound) room.sound sound.lidars, ?_, fits⟩
      simpa only [Producer.Fits, withQueue_self] using ⟨room, written⟩
  | stored index packet =>
      rw [at_] at producer fits
      obtain ⟨queue, _⟩ := LidarDataQueue.Room.advance producer.1 producer.2
      exact ⟨forall_withQueue (fun _ => LidarDataQueue.Sound) queue sound.lidars, trivial, fits⟩
  | pushed index =>
      refine ⟨sound.lidars, ?_, sound.consumer⟩
      dsimp only
      split <;> trivial
  | counting =>
      refine ⟨sound.lidars, ?_, sound.consumer⟩
      dsimp only
      split <;> trivial
  | signalling => exact ⟨sound.lidars, trivial, sound.consumer⟩

theorem Sound.consume (sound : Sound handoff) (sampling : Bool) :
    Sound (handoff.consume sampling) := by
  have consumer := sound.consumer
  have moves : ∀ next : Consumer P, next.Fits handoff.lidars →
      Sound { handoff with consumer := next } :=
    fun next fits => ⟨sound.lidars, sound.producer, fits⟩
  have filled : ∀ index, ¬(handoff.lidars index).isEmpty = true →
      (handoff.lidars index).contents ≠ [] := by
    intro index some_ none
    exact some_ (by simp [(sound.lidars index).isEmpty_eq, none])
  rw [Handoff.consume]
  cases at_ : handoff.consumer with
  | waiting =>
      cases handoff.count with
      | zero => exact sound
      | succ count => exact ⟨sound.lidars, sound.producer, trivial⟩
  | visiting index =>
      dsimp only
      split
      · exact moves _ trivial
      · split <;> exact moves _ trivial
  | polling index =>
      dsimp only
      split <;> exact moves _ trivial
  | publishing index =>
      dsimp only
      split
      · exact moves _ trivial
      · next some_ => exact moves _ (filled index some_)
  | popping index =>
      dsimp only
      split
      · exact moves _ trivial
      · next some_ => exact moves _ (filled index some_)
  | copying index =>
      rw [at_] at consumer
      obtain ⟨packet, rest, first⟩ := List.exists_cons_of_ne_nil consumer
      obtain ⟨front, _, _⟩ := (sound.lidars index).popUpdate first
      dsimp only
      rw [front]
      exact moves _ (by simp [Consumer.Fits, first])
  | copied index packet =>
      rw [at_] at consumer
      obtain ⟨rest, first⟩ := List.head?_eq_some_iff.mp consumer
      obtain ⟨_, room, _⟩ := (sound.lidars index).popUpdate first
      refine ⟨forall_withQueue (fun _ => LidarDataQueue.Sound) room.sound sound.lidars,
        producer_fits_of_room sound.producer (fun other => ?_) fun other => ?_, trivial⟩
      · exact forall_withQueue (fun other queue => (handoff.lidars other).Room → queue.Room)
          (fun _ => room) (fun _ => id) other
      · refine forall_withQueue (fun other queue =>
          queue.written? = (handoff.lidars other).written?) ?_ (fun _ => rfl) other
        rfl

theorem Sound.step (sound : Sound handoff) (access : Access P) :
    Sound (handoff.step memory queueSize access) := by
  cases access with
  | push index packet =>
      rw [Handoff.step]
      cases handoff.producer with
      | idle =>
          dsimp only
          split
          · exact sound.push index packet
          · exact sound
      | _ => exact sound
  | producer => exact sound.produce
  | consumer sampling => exact sound.consume sampling

/-! ## Every packet once -/

theorem held_push (sound : Sound handoff) (idle : handoff.producer = .idle) (index : ℕ)
    (packet : StoragePacket P) (lidar : ℕ) :
    held lidar (handoff.push memory queueSize index packet) = held lidar handoff ++
      if index = lidar ∧ (handoff.opened memory queueSize index).isFull = false then [packet]
      else [] := by
  rw [held, held, sound.contents_push, idle, Handoff.push]
  cases (handoff.opened memory queueSize index).isFull
  · simp [Producer.inHand]
  · simp [Producer.inHand]

theorem held_produce (sound : Sound handoff) (lidar : ℕ) :
    held lidar handoff.produce = held lidar handoff := by
  have passes : handoff.producer.adds lidar ++ handoff.produce.producer.inHand lidar =
      handoff.producer.inHand lidar := by
    rw [Handoff.produce]
    cases at_ : handoff.producer with
    | idle => exact congrArg (Producer.inHand lidar) at_
    | stored index packet => exact List.append_nil _
    | pushed index =>
        dsimp only
        split <;> rfl
    | counting =>
        dsimp only
        split <;> rfl
    | _ => rfl
  rw [held, held, sound.contents_produce, List.append_assoc, passes]

theorem held_consume (sound : Sound handoff) (sampling : Bool) (lidar : ℕ) :
    popped lidar handoff (.consumer sampling) ++ held lidar (handoff.consume sampling) =
      held lidar handoff := by
  have same : (handoff.consume sampling).producer = handoff.producer := by
    rw [Handoff.consume]
    split
    all_goals first
      | rfl
      | (split <;> first | rfl | (split <;> rfl))
  rw [held, held, ← List.append_assoc, sound.contents_consume, same]

/-- An access keeps the packets of a lidar in order. -/
theorem Sound.held_step (sound : Sound handoff) (access : Access P) (lidar : ℕ) :
    popped lidar handoff access ++ held lidar (handoff.step memory queueSize access) =
      held lidar handoff ++ handoff.accepted memory queueSize lidar access := by
  cases access with
  | push index packet =>
      rw [Handoff.step, accepted]
      cases idle : handoff.producer with
      | idle =>
          dsimp only
          split
          · next inside =>
              rw [held_push sound idle]
              simp [inside, popped]
          · next outside => simp [outside, popped]
      | _ => exact (List.append_nil _).symm
  | producer => exact (held_produce sound lidar).trans (List.append_nil _).symm
  | consumer sampling => exact (held_consume sound sampling lidar).trans (List.append_nil _).symm

end Steps

section Runs

variable (memory : ℕ → StoragePacket P) (queueSize : BitVec 32) (accesses : List (Access P))

theorem sound_run : Sound (Machine.run (step memory queueSize) start accesses) := by
  have kept : ∀ handoff access, Sound handoff → True →
      Sound (step memory queueSize handoff access) := fun _ access sound _ => sound.step access
  exact Machine.invariant_run kept sound_start (Machine.throughout_true _ accesses)
    (List.prefix_refl accesses)

variable {memory queueSize} in
/-- From any sound state, the packets of a lidar stay in order. -/
theorem Sound.popped_append_held {handoff : Handoff P} (sound : Sound handoff)
    (accesses : List (Access P)) (lidar : ℕ) :
    Machine.collect (Handoff.step memory queueSize) (popped lidar) handoff accesses ++
        held lidar (Machine.run (Handoff.step memory queueSize) handoff accesses) =
      held lidar handoff ++ Machine.collect (Handoff.step memory queueSize)
        (fun handoff => handoff.accepted memory queueSize lidar) handoff accesses :=
  Machine.collect_append_held (held lidar) Sound (fun _ access sound _ => sound.step access)
    (fun _ access sound _ => sound.held_step access lidar) sound (Machine.throughout_true _ _)

/-- However the two threads interleave, the packets taken from a lidar's queue, those in it and
the one being pushed are the packets accepted, in order and each once. -/
theorem popped_exactly_once (lidar : ℕ) :
    Machine.collect (step memory queueSize) (popped lidar) start accesses ++
        held lidar (Machine.run (step memory queueSize) start accesses) =
      Machine.collect (step memory queueSize)
        (fun handoff => handoff.accepted memory queueSize lidar) start accesses :=
  sound_start.popped_append_held accesses lidar

/-- The threads never work on the same cell of a queue at once. -/
theorem cells_apart {index : ℕ} {packet : StoragePacket P}
    (storing : (Machine.run (step memory queueSize) start accesses).producer =
      .storing index packet)
    (copying : (Machine.run (step memory queueSize) start accesses).consumer =
      .copying index) :
    (((Machine.run (step memory queueSize) start accesses).lidars index).wrIdx &&&
        ((Machine.run (step memory queueSize) start accesses).lidars index).mask).toNat ≠
      (((Machine.run (step memory queueSize) start accesses).lidars index).rdIdx &&&
        ((Machine.run (step memory queueSize) start accesses).lidars index).mask).toNat := by
  have sound := sound_run memory queueSize accesses
  have room := sound.producer
  have some_ := sound.consumer
  rw [storing] at room
  rw [copying] at some_
  exact LidarDataQueue.Room.index_ne room some_

end Runs

/-- A second packet comes while the first is about to be copied. -/
def secondMeanwhile : List (Access Unit) :=
  .push 0 ⟨1, [()]⟩ :: List.replicate 5 .producer ++
    (List.replicate 5 (.consumer true) ++ [.push 0 ⟨2, [()]⟩])

theorem cells_apart_secondMeanwhile :
    (((Machine.run (step (fun _ => ⟨0, []⟩) 2) start secondMeanwhile).lidars 0).wrIdx &&&
        ((Machine.run (step (fun _ => ⟨0, []⟩) 2) start secondMeanwhile).lidars 0).mask).toNat ≠
      (((Machine.run (step (fun _ => ⟨0, []⟩) 2) start secondMeanwhile).lidars 0).rdIdx &&&
        ((Machine.run (step (fun _ => ⟨0, []⟩) 2) start secondMeanwhile).lidars 0).mask).toNat :=
  cells_apart (fun _ => ⟨0, []⟩) 2 secondMeanwhile rfl rfl

end Handoff

end ScoutStack.LivoxDriver
