import ScoutStack.Lib.Buffer
import ScoutStack.UgvSdk.RingBuffer

/-!
# Sending on the serial port

How `AsyncSerial` of `async_serial.cpp` sends.  Callers store bytes and post a handler, and the
thread of the port runs the handlers and is told when a write is complete; the three come in
any order.  The port is open and reports no error.
-/

namespace ScoutStack.UgvSdk

/-- A byte. -/
abbrev Byte := BitVec 8

/-- What `AsyncSerial` sends with.  `posted` handlers wait to call `WriteToPort(true)`, and the
writes under way send the first bytes of `tx_buf_`, as many as each says. -/
structure AsyncSerial where
  txRbuf : RingBuffer Byte
  txBuf : List Byte
  txInProgress : Bool
  posted : ℕ
  underWay : List ℕ

namespace AsyncSerial

/-- `rxtx_buffer_size` is two to this power. -/
def bufferPower : ℕ := 13

/-- The port before anything was sent, with what is in memory. -/
def start (buffer : ℕ → Byte) (txBuf : List Byte) : AsyncSerial where
  txRbuf := RingBuffer.new bufferPower buffer
  txBuf := txBuf
  txInProgress := false
  posted := 0
  underWay := []

variable (serial : AsyncSerial)

/-- `WriteToPort`. -/
def writeToPort (checkIfBusy : Bool) : AsyncSerial :=
  if checkIfBusy && serial.txInProgress then serial
  else if serial.txRbuf.isEmpty then serial
  else
    let taken := serial.txRbuf.read serial.txRbuf.getOccupiedSize.toNat
    { serial with
      txInProgress := true
      txBuf := taken.1 ++ serial.txBuf.drop taken.1.length
      txRbuf := taken.2
      underWay := taken.1.length :: serial.underWay }

/-- Whether `SendBytes` throws. -/
def overflows (bytes : List Byte) : Bool :=
  decide (serial.txRbuf.getFreeSize.toNat < bytes.length)

/-- `SendBytes`. -/
def sendBytes (bytes : List Byte) : AsyncSerial :=
  if serial.overflows bytes then serial
  else { serial with
    txRbuf := (serial.txRbuf.write bytes).2
    posted := serial.posted + 1 }

/-- The thread of the port runs a handler that was posted. -/
def runPosted : AsyncSerial :=
  match serial.posted with
  | 0 => serial
  | posted + 1 => { serial with posted := posted }.writeToPort true

/-- The handler of a complete write. -/
def complete : AsyncSerial :=
  match serial.underWay with
  | [] => serial
  | _ :: rest =>
      if serial.txRbuf.isEmpty then { serial with underWay := rest, txInProgress := false }
      else { serial with underWay := rest }.writeToPort false

/-- What happens to the port. -/
inductive Event where
  | sendBytes (bytes : List Byte)
  | runPosted
  | complete (bytesTransferred : ℕ)

/-- The port after an event. -/
def step : Event → AsyncSerial
  | .sendBytes bytes => serial.sendBytes bytes
  | .runPosted => serial.runPosted
  | .complete _ => serial.complete

/-- The bytes that the port has sent when it reports a write complete. -/
def sent : Event → List Byte
  | .complete bytesTransferred =>
      serial.underWay.head?.toList.flatMap fun length =>
        serial.txBuf.take (min bytesTransferred length)
  | _ => []

/-- The bytes that a call of `SendBytes` accepts. -/
def accepted : Event → List Byte
  | .sendBytes bytes => if serial.overflows bytes then [] else bytes
  | _ => []

/-- The bytes accepted and not sent. -/
def waiting : List Byte :=
  (serial.underWay.flatMap fun length => serial.txBuf.take length) ++
    serial.txRbuf.peek serial.txRbuf.getOccupiedSize.toNat

/-- The port sends all that it is told to send. -/
def Whole (serial : AsyncSerial) : Event → Prop
  | .complete bytesTransferred => ∀ length ∈ serial.underWay, length ≤ bytesTransferred
  | _ => True

/-! ## One write at a time -/

/-- One write at a time, told by `tx_in_progress_`, and no stored byte forgotten. -/
structure Sending (serial : AsyncSerial) : Prop where
  holds : ∃ contents, RingBuffer.Holds bufferPower serial.txRbuf contents
  alone : serial.underWay.length ≤ 1
  busy : serial.txInProgress = true ↔ serial.underWay ≠ []
  awake : serial.txRbuf.isEmpty = false → 0 < serial.posted ∨ serial.underWay ≠ []

variable {serial} {contents : List Byte}

theorem small : bufferPower < 64 := by decide

theorem sending_start (buffer : ℕ → Byte) (txBuf : List Byte) : Sending (start buffer txBuf) where
  holds := ⟨[], RingBuffer.holds_new _ _⟩
  alone := Nat.zero_le _
  busy := by simp [start]
  awake filled := by simp [start, RingBuffer.new, RingBuffer.isEmpty] at filled

/-- The bytes in the ring. -/
theorem peek_eq {ring : RingBuffer Byte} (holds : RingBuffer.Holds bufferPower ring contents) :
    ring.peek ring.getOccupiedSize.toNat = contents := by
  rw [RingBuffer.peek, holds.peekFrom_eq small _ 0 (Nat.zero_le _),
    holds.toNat_getOccupiedSize small, List.drop_zero, List.take_length]

/-- A write that starts takes all that is stored. -/
theorem writeToPort_spec (holds : RingBuffer.Holds bufferPower serial.txRbuf contents)
    {checkIfBusy : Bool} (free : (checkIfBusy && serial.txInProgress) = false)
    (filled : contents ≠ []) :
    ∃ txRbuf, RingBuffer.Holds bufferPower txRbuf [] ∧ serial.writeToPort checkIfBusy =
      { serial with
        txInProgress := true
        txBuf := contents ++ serial.txBuf.drop contents.length
        txRbuf := txRbuf
        underWay := contents.length :: serial.underWay } := by
  have some_ : serial.txRbuf.isEmpty = false := by
    simpa [holds.isEmpty_eq small] using filled
  obtain ⟨bytes, left⟩ := holds.read_spec small serial.txRbuf.getOccupiedSize.toNat
  rw [holds.toNat_getOccupiedSize small] at bytes left
  rw [List.take_length] at bytes
  rw [List.drop_length] at left
  refine ⟨_, left, ?_⟩
  simp [writeToPort, free, some_, holds.toNat_getOccupiedSize small, bytes]

theorem writeToPort_empty (holds : RingBuffer.Holds bufferPower serial.txRbuf [])
    (checkIfBusy : Bool) : serial.writeToPort checkIfBusy = serial := by
  simp [writeToPort, holds.isEmpty_eq small]

/-- `SendBytes` stores all bytes or none. -/
theorem sendBytes_spec (holds : RingBuffer.Holds bufferPower serial.txRbuf contents)
    (bytes : List Byte) :
    ∃ txRbuf, RingBuffer.Holds bufferPower txRbuf (contents ++ serial.accepted (.sendBytes bytes)) ∧
      ∃ more, serial.sendBytes bytes =
        { serial with txRbuf := txRbuf, posted := serial.posted + more } ∧
        (serial.accepted (.sendBytes bytes) ≠ [] → 0 < more) := by
  rw [accepted, sendBytes]
  cases full : serial.overflows bytes with
  | true => exact ⟨serial.txRbuf, by simpa using holds, 0, by simp⟩
  | false =>
      have room : bytes.length ≤ 2 ^ bufferPower - contents.length := by
        simpa [overflows, holds.toNat_getFreeSize small] using full
      obtain ⟨_, stored⟩ := holds.write_spec small bytes
      rw [List.take_of_length_le room] at stored
      exact ⟨_, by simpa using stored, 1, by simp⟩

/-- An idle port starts a write if anything is stored. -/
theorem writeToPort_idle (serial : AsyncSerial) (checkIfBusy : Bool)
    (holds : RingBuffer.Holds bufferPower serial.txRbuf contents) (idle : serial.underWay = [])
    (free : (checkIfBusy && serial.txInProgress) = false)
    (rests : contents = [] → serial.txInProgress = false) :
    Sending (serial.writeToPort checkIfBusy) ∧
      (serial.writeToPort checkIfBusy).waiting = contents := by
  by_cases filled : contents = []
  · subst filled
    rw [writeToPort_empty holds]
    exact ⟨⟨⟨_, holds⟩, by simp [idle], by simp [idle, rests rfl],
      by simp [holds.isEmpty_eq small]⟩, by simp [waiting, idle, peek_eq holds]⟩
  · obtain ⟨txRbuf, empty, same⟩ := writeToPort_spec holds free filled
    rw [same]
    refine ⟨⟨⟨_, empty⟩, by simp [idle], by simp, by simp⟩, ?_⟩
    have none : txRbuf.peek txRbuf.getOccupiedSize.toNat = [] := by
      simp [empty.toNat_getOccupiedSize small, RingBuffer.peek, RingBuffer.peekFrom]
    simp [waiting, idle, none]

/-- Every event keeps the port sending, and loses no byte of a write that is whole. -/
theorem Sending.step (sending : Sending serial) (event : Event) :
    Sending (serial.step event) ∧
      (serial.sent event ++ (serial.step event).waiting).Sublist
        (serial.waiting ++ serial.accepted event) ∧
      (Whole serial event → serial.sent event ++ (serial.step event).waiting =
        serial.waiting ++ serial.accepted event) := by
  obtain ⟨contents, holds⟩ := sending.holds
  have stored := peek_eq holds
  cases event with
  | sendBytes bytes =>
      obtain ⟨txRbuf, holds', more, same, posts⟩ := sendBytes_spec holds bytes
      have stored' := peek_eq holds'
      have equal : (serial.sendBytes bytes).waiting =
          serial.waiting ++ serial.accepted (.sendBytes bytes) := by
        rw [same, waiting, waiting, stored', stored, List.append_assoc]
      refine ⟨?_, equal ▸ List.Sublist.refl _, fun _ => equal⟩
      rw [AsyncSerial.step, same]
      refine ⟨⟨_, holds'⟩, sending.alone, sending.busy, fun filled => ?_⟩
      by_cases none : serial.accepted (.sendBytes bytes) = []
      · rw [holds'.isEmpty_eq small, none, List.append_nil, ← holds.isEmpty_eq small] at filled
        exact (sending.awake filled).imp_left fun posted => Nat.add_pos_left posted more
      · exact .inl (Nat.add_pos_right _ (posts none))
  | runPosted =>
      change Sending serial.runPosted ∧ (serial.runPosted.waiting).Sublist (serial.waiting ++ []) ∧
        (True → serial.runPosted.waiting = serial.waiting ++ [])
      rw [List.append_nil]
      suffices kept : Sending serial.runPosted ∧ serial.runPosted.waiting = serial.waiting from
        ⟨kept.1, kept.2 ▸ List.Sublist.refl _, fun _ => kept.2⟩
      cases posts : serial.posted with
      | zero => simpa [runPosted, posts] using sending
      | succ posted =>
          rw [runPosted, posts]
          dsimp only
          by_cases busy : serial.txInProgress = true
          · have underWay := sending.busy.mp busy
            rw [writeToPort]
            simp only [busy, Bool.and_self, if_true]
            exact ⟨⟨⟨_, holds⟩, sending.alone, by simpa using underWay, fun _ => .inr underWay⟩,
              rfl⟩
          · have idle : serial.underWay = [] := by
              simpa [busy] using sending.busy
            obtain ⟨sending', equal⟩ := writeToPort_idle { serial with posted := posted } true
              holds idle (by simpa using busy) fun _ => Bool.eq_false_iff.mpr busy
            exact ⟨sending', equal.trans (by simp [waiting, idle, stored])⟩
  | complete bytesTransferred =>
      cases underWay : serial.underWay with
      | nil => simpa [AsyncSerial.step, complete, sent, accepted, underWay] using sending
      | cons length rest =>
          have last : rest = [] := by
            have alone := sending.alone
            rw [underWay] at alone
            simpa using alone
          subst last
          suffices kept : Sending serial.complete ∧ serial.complete.waiting = contents by
            have before : serial.waiting = serial.txBuf.take length ++ contents := by
              simp [waiting, underWay, stored]
            simp only [AsyncSerial.step, sent, accepted, underWay, before, kept.2,
              List.append_nil, List.head?_cons, Option.toList_some, List.flatMap_singleton]
            refine ⟨kept.1, ?_, fun whole => ?_⟩
            · exact (List.take_sublist_take_left (Nat.min_le_right _ _)).append_right _
            · rw [Nat.min_eq_right (whole length (by simp [underWay]))]
          rw [complete, underWay]
          dsimp only
          cases empty : serial.txRbuf.isEmpty with
          | true =>
              have none : contents = [] := by
                simpa [holds.isEmpty_eq small] using empty
              simp only [if_true]
              exact ⟨⟨⟨_, holds⟩, by simp, by simp, by simp [empty]⟩, by
                simp [waiting, stored, none]⟩
          | false =>
              have filled : contents ≠ [] := by
                simpa [holds.isEmpty_eq small] using empty
              exact writeToPort_idle { serial with underWay := [] } false holds rfl rfl
                fun none => absurd none filled

/-- However callers, handlers and the port interleave, at most one write is under way, and as
long as bytes are stored a write is under way or a handler waits to start one. -/
theorem write_alone (buffer : ℕ → Byte) (txBuf : List Byte) (events : List Event) :
    (Machine.run step (start buffer txBuf) events).underWay.length ≤ 1 ∧
      ((Machine.run step (start buffer txBuf) events).txRbuf.isEmpty = false →
        0 < (Machine.run step (start buffer txBuf) events).posted ∨
          (Machine.run step (start buffer txBuf) events).underWay ≠ []) := by
  have kept : ∀ serial event, Sending serial → True → Sending (step serial event) :=
    fun _ event sending _ => (sending.step event).1
  have sending := Machine.invariant_run kept (sending_start buffer txBuf)
    (Machine.throughout_true _ events) (List.prefix_refl events)
  exact ⟨sending.alone, sending.awake⟩

/-- The bytes sent and those that wait are bytes accepted, in order and each once.  They are all
of them if the port sends all that it is told to. -/
theorem sent_exactly_once (buffer : ℕ → Byte) (txBuf : List Byte) (events : List Event) :
    (Machine.collect step sent (start buffer txBuf) events ++
        (Machine.run step (start buffer txBuf) events).waiting).Sublist
      (Machine.collect step accepted (start buffer txBuf) events) ∧
    (Machine.Throughout step Whole (start buffer txBuf) events →
      Machine.collect step sent (start buffer txBuf) events ++
          (Machine.run step (start buffer txBuf) events).waiting =
        Machine.collect step accepted (start buffer txBuf) events) := by
  have none : (start buffer txBuf).waiting = [] := by
    simp [waiting, start, RingBuffer.new, RingBuffer.getOccupiedSize, RingBuffer.peek,
      RingBuffer.peekFrom]
  have initial := sending_start buffer txBuf
  constructor
  · have parts := Machine.collect_append_held_sublist waiting Sending
      (fun _ event sending => (sending.step event).1)
      (fun _ event sending => (sending.step event).2.1) initial events
    rwa [none] at parts
  · intro whole
    have all := Machine.collect_append_held waiting Sending
      (fun _ event sending _ => (sending.step event).1)
      (fun _ event sending whole => (sending.step event).2.2 whole) initial whole
    rwa [none] at all

end AsyncSerial

end ScoutStack.UgvSdk
