import ScoutStack.Lib.Machine
import ScoutStack.Lib.Ring

/-!
# The ring buffer of the ports

`RingBuffer<T, N>` of `ring_buffer.hpp`, and the bounded queue that it is meant to be.  The
indices are of type `size_t` and wrap; `N` is a power of two, as the class asserts.
-/

namespace ScoutStack.UgvSdk

variable {T : Type*}

/-- `RingBuffer<T, N>`. -/
structure RingBuffer (T : Type*) where
  buffer : ℕ → T
  size : BitVec 64
  sizeMask : BitVec 64
  writeIndex : BitVec 64
  readIndex : BitVec 64

namespace RingBuffer

/-- `RingBuffer()` for `N = 2 ^ power`, with what is in memory. -/
def new (power : ℕ) (buffer : ℕ → T) : RingBuffer T where
  buffer := buffer
  size := BitVec.ofNat 64 (2 ^ power)
  sizeMask := BitVec.ofNat 64 (2 ^ power) - 1
  writeIndex := 0
  readIndex := 0

/-- `Reset`. -/
def reset (ring : RingBuffer T) : RingBuffer T := { ring with writeIndex := 0, readIndex := 0 }

/-- `GetOccupiedSize`. -/
def getOccupiedSize (ring : RingBuffer T) : BitVec 64 := ring.writeIndex - ring.readIndex

/-- `GetFreeSize`. -/
def getFreeSize (ring : RingBuffer T) : BitVec 64 := ring.size - ring.getOccupiedSize

/-- `IsEmpty`. -/
def isEmpty (ring : RingBuffer T) : Bool := ring.readIndex == ring.writeIndex

/-- `IsFull`. -/
def isFull (ring : RingBuffer T) : Bool := ring.size == ring.getOccupiedSize

/-- `ReadByte`. -/
def readByte (ring : RingBuffer T) : Option (T × RingBuffer T) :=
  if ring.isEmpty then none
  else some (ring.buffer (ring.readIndex &&& ring.sizeMask).toNat,
    { ring with readIndex := ring.readIndex + 1 })

/-- `PeekByteAt`. -/
def peekByteAt (ring : RingBuffer T) (n : ℕ) : Option T :=
  if ring.getOccupiedSize ≤ BitVec.ofNat 64 n then none
  else some (ring.buffer ((ring.readIndex + BitVec.ofNat 64 n) &&& ring.sizeMask).toNat)

/-- `WriteByte`. -/
def writeByte (ring : RingBuffer T) (newData : T) : Option (RingBuffer T) :=
  if ring.getOccupiedSize == ring.size then none
  else some { ring with
    buffer := Function.update ring.buffer (ring.writeIndex &&& ring.sizeMask).toNat newData
    writeIndex := ring.writeIndex + 1 }

/-- `Read`, with the bytes that it stores; it returns their number. -/
def read (ring : RingBuffer T) : ℕ → List T × RingBuffer T
  | 0 => ([], ring)
  | btr + 1 =>
      match ring.readByte with
      | none => ([], ring)
      | some (byte, next) => (byte :: (next.read btr).1, (next.read btr).2)

/-- The loop of `Peek` from its `i`-th turn. -/
def peekFrom (ring : RingBuffer T) (i : ℕ) : ℕ → List T
  | 0 => []
  | rest + 1 =>
      match ring.peekByteAt i with
      | none => []
      | some byte => byte :: ring.peekFrom (i + 1) rest

/-- `Peek`, with the bytes that it stores; it returns their number. -/
def peek (ring : RingBuffer T) (btp : ℕ) : List T := ring.peekFrom 0 btp

/-- `Write`, with the number that it returns. -/
def write (ring : RingBuffer T) : List T → ℕ × RingBuffer T
  | [] => (0, ring)
  | byte :: bytes =>
      match ring.writeByte byte with
      | none => (0, ring)
      | some next => ((next.write bytes).1 + 1, (next.write bytes).2)

/-- The calls of the class. -/
inductive Call (T : Type*) where
  | reset
  | isEmpty
  | isFull
  | getFreeSize
  | getOccupiedSize
  | read (btr : ℕ)
  | peek (btp : ℕ)
  | write (newData : List T)

/-- What a call returns. -/
inductive Reply (T : Type*) where
  | flag (value : Bool)
  | number (value : ℕ)
  | bytes (values : List T)

/-- The buffer after a call. -/
def step (ring : RingBuffer T) : Call T → RingBuffer T
  | .reset => ring.reset
  | .read btr => (ring.read btr).2
  | .write newData => (ring.write newData).2
  | _ => ring

/-- What a call on the buffer returns. -/
def reply (ring : RingBuffer T) : Call T → List (Reply T)
  | .reset => []
  | .isEmpty => [.flag ring.isEmpty]
  | .isFull => [.flag ring.isFull]
  | .getFreeSize => [.number ring.getFreeSize.toNat]
  | .getOccupiedSize => [.number ring.getOccupiedSize.toNat]
  | .read btr => [.bytes (ring.read btr).1]
  | .peek btp => [.bytes (ring.peek btp)]
  | .write newData => [.number (ring.write newData).1]

end RingBuffer

/-! ## The bounded queue -/

namespace BoundedQueue

/-- A queue after a call. -/
def step (capacity : ℕ) (contents : List T) : RingBuffer.Call T → List T
  | .reset => []
  | .read btr => contents.drop btr
  | .write newData => contents ++ newData.take (capacity - contents.length)
  | _ => contents

/-- What a call on a queue returns. -/
def reply (capacity : ℕ) (contents : List T) : RingBuffer.Call T → List (RingBuffer.Reply T)
  | .reset => []
  | .isEmpty => [.flag contents.isEmpty]
  | .isFull => [.flag (contents.length == capacity)]
  | .getFreeSize => [.number (capacity - contents.length)]
  | .getOccupiedSize => [.number contents.length]
  | .read btr => [.bytes (contents.take btr)]
  | .peek btp => [.bytes (contents.take btp)]
  | .write newData => [.number (min newData.length (capacity - contents.length))]

end BoundedQueue

/-! ## The buffer is the queue -/

namespace RingBuffer

/-- A buffer of `2 ^ power` bytes holds a queue. -/
structure Holds (power : ℕ) (ring : RingBuffer T) (contents : List T) : Prop where
  size_eq : ring.size = BitVec.ofNat 64 (2 ^ power)
  sizeMask_eq : ring.sizeMask = BitVec.ofNat 64 (2 ^ power) - 1
  holds : CellRing.Holds power ⟨ring.buffer, ring.readIndex, ring.writeIndex⟩ contents

variable {power : ℕ} {ring : RingBuffer T} {contents : List T}

theorem holds_new (power : ℕ) (buffer : ℕ → T) : Holds power (new power buffer) [] where
  size_eq := rfl
  sizeMask_eq := rfl
  holds := CellRing.Holds.nil rfl

theorem Holds.reset (holds : Holds power ring contents) : Holds power ring.reset [] where
  size_eq := holds.size_eq
  sizeMask_eq := holds.sizeMask_eq
  holds := CellRing.Holds.nil rfl

section Small

variable (small : power < 64) (holds : Holds power ring contents)
include small holds

theorem Holds.toNat_size : ring.size.toNat = 2 ^ power := by
  rw [holds.size_eq, BitVec.toNat_ofNat, Nat.mod_eq_of_lt]
  exact Nat.pow_lt_pow_right (by decide) small

theorem Holds.toNat_getOccupiedSize : ring.getOccupiedSize.toNat = contents.length :=
  holds.holds.toNat_sub small

theorem Holds.isEmpty_eq : ring.isEmpty = contents.isEmpty := by
  rw [Bool.eq_iff_iff, RingBuffer.isEmpty, beq_iff_eq, List.isEmpty_iff]
  exact holds.holds.read_eq_write_iff small

theorem Holds.size_eq_iff : ring.size = ring.getOccupiedSize ↔ contents.length = 2 ^ power := by
  rw [← BitVec.toNat_inj, holds.toNat_size small, holds.toNat_getOccupiedSize small, eq_comm]

theorem Holds.isFull_eq : ring.isFull = (contents.length == 2 ^ power) := by
  rw [Bool.eq_iff_iff, RingBuffer.isFull, beq_iff_eq, beq_iff_eq]
  exact holds.size_eq_iff small

theorem Holds.toNat_getFreeSize :
    ring.getFreeSize.toNat = 2 ^ power - contents.length := by
  rw [getFreeSize, BitVec.toNat_sub_of_le, holds.toNat_size small,
    holds.toNat_getOccupiedSize small]
  rw [BitVec.le_def, holds.toNat_size small, holds.toNat_getOccupiedSize small]
  exact holds.holds.length_le

theorem Holds.index_eq (index : BitVec 64) :
    (index &&& ring.sizeMask).toNat = index.toNat % 2 ^ power := by
  rw [holds.sizeMask_eq, CellRing.toNat_and_mask small]

/-- `ReadByte` takes the first byte. -/
theorem Holds.readByte_spec : match contents with
    | [] => ring.readByte = none
    | first :: rest => ∃ next, ring.readByte = some (first, next) ∧ Holds power next rest := by
  cases contents with
  | nil => simp [readByte, holds.isEmpty_eq small]
  | cons first rest =>
      refine ⟨{ ring with readIndex := ring.readIndex + 1 }, ?_,
        holds.size_eq, holds.sizeMask_eq, holds.holds.pop small⟩
      have cell : ring.buffer (ring.readIndex.toNat % 2 ^ power) = first := holds.holds.first
      rw [readByte, holds.isEmpty_eq small, holds.index_eq small, cell]
      rfl

/-- `Read` takes the first bytes, as many as there are. -/
theorem Holds.read_spec (btr : ℕ) :
    (ring.read btr).1 = contents.take btr ∧
      Holds power (ring.read btr).2 (contents.drop btr) := by
  induction btr generalizing ring contents with
  | zero => exact ⟨rfl, holds⟩
  | succ btr ih =>
      have first := holds.readByte_spec small
      cases contents with
      | nil => simp [read, first, holds]
      | cons first rest =>
          obtain ⟨next, done, holds'⟩ := first
          obtain ⟨bytes, left⟩ := ih holds'
          simp [read, done, bytes, left]

/-- `PeekByteAt` looks at a place. -/
theorem Holds.peekByteAt_eq (n : ℕ) (fits : n < 2 ^ 64) : ring.peekByteAt n = contents[n]? := by
  simp only [peekByteAt, BitVec.le_def, holds.toNat_getOccupiedSize small, BitVec.toNat_ofNat,
    Nat.mod_eq_of_lt fits]
  split
  · next outside => rw [List.getElem?_eq_none outside]
  · next inside =>
      rw [holds.holds.getElem?_eq small (Nat.lt_of_not_le inside), holds.index_eq small]

/-- `WriteByte` appends a byte if there is room. -/
theorem Holds.writeByte_spec (byte : T) :
    (contents.length = 2 ^ power ∧ ring.writeByte byte = none) ∨
      (contents.length < 2 ^ power ∧ ∃ next, ring.writeByte byte = some next ∧
        Holds power next (contents ++ [byte])) := by
  have full := holds.size_eq_iff small
  by_cases equal : contents.length = 2 ^ power
  · exact .inl ⟨equal, by simp [writeByte, full.mpr equal]⟩
  · have room := Nat.lt_of_le_of_ne holds.holds.length_le equal
    have other : ¬ring.getOccupiedSize = ring.size := fun same => equal (full.mp same.symm)
    refine .inr ⟨room, { ring with
        buffer := Function.update ring.buffer (ring.writeIndex.toNat % 2 ^ power) byte
        writeIndex := ring.writeIndex + 1 }, ?_, holds.size_eq, holds.sizeMask_eq,
      holds.holds.push small room⟩
    rw [writeByte, holds.index_eq small]
    simp [other]

/-- `Write` appends the first bytes, as many as there is room for. -/
theorem Holds.write_spec (newData : List T) :
    (ring.write newData).1 = min newData.length (2 ^ power - contents.length) ∧
      Holds power (ring.write newData).2
        (contents ++ newData.take (2 ^ power - contents.length)) := by
  induction newData generalizing ring contents with
  | nil => simp [write, holds]
  | cons byte bytes ih =>
      rcases holds.writeByte_spec small byte with ⟨full, none⟩ | ⟨room, next, done, holds'⟩
      · simp [write, none, full, holds]
      · obtain ⟨count, after⟩ := ih holds'
        have left : 2 ^ power - contents.length = 2 ^ power - (contents.length + 1) + 1 := by
          omega
        simp only [List.length_append, List.length_singleton, List.append_assoc] at count after
        simp only [write, done, count, List.length_cons, left, List.take_succ_cons]
        exact ⟨by omega, after⟩

end Small

/-- `Peek` looks at the first bytes. -/
theorem Holds.peekFrom_eq (small : power < 64) (holds : Holds power ring contents) (btp : ℕ) :
    ∀ i, i ≤ contents.length → ring.peekFrom i btp = (contents.drop i).take btp := by
  have fits : 2 ^ power < 2 ^ 64 := Nat.pow_lt_pow_right (by decide) small
  induction btp with
  | zero => simp [peekFrom]
  | succ btp ih =>
      intro i inside
      have below := Nat.lt_of_le_of_lt (Nat.le_trans inside holds.holds.length_le) fits
      rw [peekFrom, holds.peekByteAt_eq small i below]
      rcases Nat.lt_or_eq_of_le inside with before | rfl
      · rw [List.getElem?_eq_getElem before, List.drop_eq_getElem_cons before,
          List.take_succ_cons]
        exact congrArg _ (ih (i + 1) before)
      · simp

/-- The buffer and a queue, call by call. -/
theorem Holds.step (small : power < 64) (holds : Holds power ring contents) (call : Call T) :
    Holds power (ring.step call) (BoundedQueue.step (2 ^ power) contents call) ∧
      ring.reply call = BoundedQueue.reply (2 ^ power) contents call := by
  cases call with
  | reset => exact ⟨holds.reset, rfl⟩
  | isEmpty => exact ⟨holds, by simp [reply, BoundedQueue.reply, holds.isEmpty_eq small]⟩
  | isFull => exact ⟨holds, by simp [reply, BoundedQueue.reply, holds.isFull_eq small]⟩
  | getFreeSize =>
      exact ⟨holds, by simp [reply, BoundedQueue.reply, holds.toNat_getFreeSize small]⟩
  | getOccupiedSize =>
      exact ⟨holds, by simp [reply, BoundedQueue.reply, holds.toNat_getOccupiedSize small]⟩
  | read btr =>
      obtain ⟨bytes, left⟩ := holds.read_spec small btr
      exact ⟨left, by simp [reply, BoundedQueue.reply, bytes]⟩
  | peek btp =>
      have bytes := holds.peekFrom_eq small btp 0 (Nat.zero_le _)
      exact ⟨holds, by simp [reply, BoundedQueue.reply, peek, bytes]⟩
  | write newData =>
      obtain ⟨count, after⟩ := holds.write_spec small newData
      exact ⟨after, by simp [reply, BoundedQueue.reply, count]⟩

/-- Through any calls the buffer answers as a bounded queue does, however often the indices
wrap.  The bound on the size keeps the `int` counters of `Read`, `Peek` and `Write` in range. -/
theorem replies_eq (small : power ≤ 30) (buffer : ℕ → T) (calls : List (Call T)) :
    Machine.collect RingBuffer.step reply (new power buffer) calls =
      Machine.collect (BoundedQueue.step (2 ^ power)) (BoundedQueue.reply (2 ^ power)) []
        calls := by
  suffices same : ∀ (ring : RingBuffer T) contents, Holds power ring contents →
      Machine.collect RingBuffer.step reply ring calls =
        Machine.collect (BoundedQueue.step (2 ^ power)) (BoundedQueue.reply (2 ^ power)) contents
          calls from same _ _ (holds_new power buffer)
  induction calls with
  | nil => exact fun _ _ _ => rfl
  | cons call calls ih =>
      intro ring contents holds
      obtain ⟨holds', equal⟩ := holds.step (Nat.lt_of_le_of_lt small (by decide)) call
      rw [Machine.collect_cons, Machine.collect_cons, equal, ih _ _ holds']

theorem replies_eq_bytes :
    Machine.collect RingBuffer.step reply (new 13 fun _ => (0 : BitVec 8))
        [.write [1, 2], .read 1, .peek 5] =
      Machine.collect (BoundedQueue.step (2 ^ 13)) (BoundedQueue.reply (2 ^ 13)) []
        [.write [1, 2], .read 1, .peek 5] :=
  replies_eq (by decide) _ _

end RingBuffer

end ScoutStack.UgvSdk
