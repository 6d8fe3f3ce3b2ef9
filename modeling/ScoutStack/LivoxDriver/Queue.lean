import ScoutStack.Lib.Ring

/-!
# The queue of a lidar

`LidarDataQueue` of the driver and the functions of `ldq.cpp` on it.  The indices are of type
`uint32_t` and wrap.  `QueuePushAny` and `QueuePop` are in the parts that another thread can
come between.
-/

namespace ScoutStack.LivoxDriver

variable {P : Type*}

/-- `kMaxSourceLidar`. -/
def maxSourceLidar : ℕ := 32

/-- `StoragePacket`; `points_num` is the number of points. -/
structure StoragePacket (P : Type*) where
  baseTime : BitVec 64
  points : List P

/-- `LidarDataQueue`. -/
structure LidarDataQueue (P : Type*) where
  storagePacket : Option (ℕ → StoragePacket P)
  rdIdx : BitVec 32
  wrIdx : BitVec 32
  mask : BitVec 32
  size : BitVec 32

/-- `IsPowerOf2`. -/
def isPowerOf2 (size : BitVec 32) : Bool := size != 0 && size &&& (size - 1) == 0

/-- `RoundupPowerOf2`. -/
def roundupPowerOf2 (size : BitVec 32) : BitVec 32 :=
  BitVec.ofNat 32 (2 ^ (((List.range 32).find? fun i =>
    decide (size ≤ BitVec.ofNat 32 (2 ^ i))).getD 31))

/-- `InitQueue`, with what is in the memory that it allocates. -/
def initQueue (memory : ℕ → StoragePacket P) (queueSize : BitVec 32) : LidarDataQueue P :=
  let queueSize := if isPowerOf2 queueSize then queueSize else roundupPowerOf2 queueSize
  { storagePacket := some memory
    rdIdx := 0
    wrIdx := 0
    size := queueSize
    mask := queueSize - 1 }

/-- The queue of a static `LidarDevice` at start. -/
def zeroQueue : LidarDataQueue P where
  storagePacket := none
  rdIdx := 0
  wrIdx := 0
  size := 0
  mask := 0

namespace LidarDataQueue

variable (queue : LidarDataQueue P)

/-- `QueueUsedSize`. -/
def usedSize : BitVec 32 := queue.wrIdx - queue.rdIdx

/-- `QueueIsFull`. -/
def isFull : Bool := decide (queue.mask < queue.wrIdx - queue.rdIdx)

/-- `QueueIsEmpty`. -/
def isEmpty : Bool := queue.rdIdx == queue.wrIdx

/-- `QueuePushAny` up to the last statement. -/
def store (packet : StoragePacket P) : LidarDataQueue P :=
  { queue with storagePacket := queue.storagePacket.map fun cells =>
      Function.update cells (queue.wrIdx &&& queue.mask).toNat packet }

/-- The last statement of `QueuePushAny`. -/
def advance : LidarDataQueue P := { queue with wrIdx := queue.wrIdx + 1 }

/-- What `QueuePrePop` copies from a queue that is not empty. -/
def front? : Option (StoragePacket P) :=
  queue.storagePacket.map fun cells => cells (queue.rdIdx &&& queue.mask).toNat

/-- The packet in the cell that is stored to. -/
def written? : Option (StoragePacket P) :=
  queue.storagePacket.map fun cells => cells (queue.wrIdx &&& queue.mask).toNat

/-- `QueuePopUpdate`. -/
def popUpdate : LidarDataQueue P := { queue with rdIdx := queue.rdIdx + 1 }

/-- The packets in the queue. -/
def contents : List (StoragePacket P) :=
  queue.storagePacket.elim [] fun cells =>
    CellRing.view cells queue.size.toNat queue.rdIdx.toNat queue.usedSize.toNat

end LidarDataQueue

/-! ## What a queue stores -/

/-- The size of a queue is a power of two, not less than asked for if that can be. -/
theorem exists_power (memory : ℕ → StoragePacket P) (queueSize : BitVec 32) :
    ∃ power < 32, (initQueue memory queueSize).size = BitVec.ofNat 32 (2 ^ power) ∧
      (queueSize.toNat ≤ 2 ^ 31 → queueSize.toNat ≤ 2 ^ power) := by
  have fits : ∀ power < 32, (BitVec.ofNat 32 (2 ^ power)).toNat = 2 ^ power := by
    intro power small
    rw [BitVec.toNat_ofNat, Nat.mod_eq_of_lt (Nat.pow_lt_pow_right (by decide) small)]
  rw [initQueue]
  cases exact : isPowerOf2 queueSize with
  | true =>
      rw [isPowerOf2, Bool.and_eq_true, bne_iff_ne, beq_iff_eq] at exact
      obtain ⟨nonzero, masked⟩ := exact
      have positive : queueSize.toNat ≠ 0 := fun zero => nonzero (BitVec.eq_of_toNat_eq zero)
      have both := congrArg BitVec.toNat masked
      rw [BitVec.toNat_and, BitVec.toNat_sub_of_le (by simp [BitVec.le_def]; omega)] at both
      obtain ⟨power, same⟩ := (Nat.and_sub_one_eq_zero_iff_isPowerOfTwo positive).mp both
      have small : power < 32 := (Nat.pow_lt_pow_iff_right (by decide)).mp (same ▸ queueSize.isLt)
      exact ⟨power, small, BitVec.eq_of_toNat_eq (same.trans (fits power small).symm),
        fun _ => Nat.le_of_eq same⟩
  | false =>
      simp only [Bool.false_eq_true, if_false, roundupPowerOf2]
      cases found : (List.range 32).find? fun i => decide (queueSize ≤ BitVec.ofNat 32 (2 ^ i)) with
      | none =>
          refine ⟨31, by decide, rfl, fun le => le⟩
      | some power =>
          have small := List.mem_range.mp (List.mem_of_find?_eq_some found)
          have le := List.find?_some found
          rw [decide_eq_true_iff, BitVec.le_def, fits power small] at le
          exact ⟨power, small, rfl, fun _ => le⟩

namespace LidarDataQueue

/-- A queue with storage holds a list. -/
structure Holds (queue : LidarDataQueue P) (power : ℕ) (contents : List (StoragePacket P)) :
    Prop where
  small : power < 32
  size_eq : queue.size = BitVec.ofNat 32 (2 ^ power)
  mask_eq : queue.mask = BitVec.ofNat 32 (2 ^ power) - 1
  holds : ∃ cells, queue.storagePacket = some cells ∧
    CellRing.Holds power ⟨cells, queue.rdIdx, queue.wrIdx⟩ contents

theorem exists_holds_initQueue (memory : ℕ → StoragePacket P) (queueSize : BitVec 32) :
    ∃ power, Holds (initQueue memory queueSize) power [] := by
  obtain ⟨power, small, size, _⟩ := exists_power memory queueSize
  exact ⟨power, small, size, congrArg (· - 1) size, _, rfl, CellRing.Holds.nil rfl⟩

variable {queue : LidarDataQueue P} {power : ℕ} {contents : List (StoragePacket P)}

namespace Holds

theorem contents_eq (holds : Holds queue power contents) : queue.contents = contents := by
  obtain ⟨cells, storage, ring⟩ := holds.holds
  have fits : 2 ^ power < 2 ^ 32 := Nat.pow_lt_pow_right (by decide) holds.small
  have used : queue.usedSize.toNat = contents.length := ring.toNat_sub holds.small
  rw [LidarDataQueue.contents, storage, used, holds.size_eq, BitVec.toNat_ofNat,
    Nat.mod_eq_of_lt fits]
  exact ring.view_eq

theorem isEmpty_eq (holds : Holds queue power contents) :
    queue.isEmpty = contents.isEmpty := by
  obtain ⟨cells, _, ring⟩ := holds.holds
  rw [Bool.eq_iff_iff, LidarDataQueue.isEmpty, beq_iff_eq, List.isEmpty_iff]
  exact ring.read_eq_write_iff holds.small

theorem isFull_eq (holds : Holds queue power contents) :
    queue.isFull = decide (2 ^ power ≤ contents.length) := by
  obtain ⟨cells, _, ring⟩ := holds.holds
  have used : (queue.wrIdx - queue.rdIdx).toNat = contents.length := ring.toNat_sub holds.small
  have pos := Nat.two_pow_pos power
  rw [LidarDataQueue.isFull, Bool.eq_iff_iff, decide_eq_true_iff, decide_eq_true_iff,
    BitVec.lt_def, used, holds.mask_eq, CellRing.toNat_size_sub_one holds.small]
  omega

theorem index_eq (holds : Holds queue power contents) (index : BitVec 32) :
    (index &&& queue.mask).toNat = index.toNat % 2 ^ power := by
  rw [holds.mask_eq, CellRing.toNat_and_mask holds.small]

/-- Storing a packet where there is room changes nothing yet. -/
theorem store (holds : Holds queue power contents) (room : contents.length < 2 ^ power)
    (packet : StoragePacket P) : Holds (queue.store packet) power contents := by
  obtain ⟨cells, storage, ring⟩ := holds.holds
  refine ⟨holds.small, holds.size_eq, holds.mask_eq,
    Function.update cells (queue.wrIdx &&& queue.mask).toNat packet,
    by rw [LidarDataQueue.store, storage, Option.map_some], ?_⟩
  rw [holds.index_eq]
  exact ring.written holds.small room

/-- The cell that was stored is appended. -/
theorem advance (holds : Holds queue power contents) (room : contents.length < 2 ^ power)
    {packet : StoragePacket P} (stored : queue.written? = some packet) :
    Holds queue.advance power (contents ++ [packet]) := by
  obtain ⟨cells, storage, ring⟩ := holds.holds
  rw [written?, storage, holds.index_eq] at stored
  exact ⟨holds.small, holds.size_eq, holds.mask_eq, cells, storage,
    ring.advanced holds.small room (Option.some.inj stored)⟩

theorem front?_eq {packet : StoragePacket P} (holds : Holds queue power (packet :: contents)) :
    queue.front? = some packet := by
  obtain ⟨cells, storage, ring⟩ := holds.holds
  rw [front?, storage, Option.map_some, holds.index_eq]
  exact congrArg some ring.first

theorem popUpdate {packet : StoragePacket P} (holds : Holds queue power (packet :: contents)) :
    Holds queue.popUpdate power contents := by
  obtain ⟨cells, storage, ring⟩ := holds.holds
  exact ⟨holds.small, holds.size_eq, holds.mask_eq, cells, storage, ring.pop holds.small⟩

/-- The cells written and read next differ while the queue is neither full nor empty. -/
theorem index_ne (holds : Holds queue power contents) (room : contents.length < 2 ^ power)
    (some_ : contents ≠ []) :
    (queue.wrIdx &&& queue.mask).toNat ≠ (queue.rdIdx &&& queue.mask).toNat := by
  obtain ⟨cells, _, ring⟩ := holds.holds
  have written : queue.wrIdx.toNat % 2 ^ power = _ := ring.write_mod holds.small
  rw [holds.index_eq, holds.index_eq, written]
  exact (CellRing.mod_ne_of_lt (List.length_pos_iff.mpr some_) room).symm

end Holds

/-! ## Queues as the driver keeps them -/

/-- A queue without storage, or with what it holds. -/
def Sound (queue : LidarDataQueue P) : Prop :=
  (queue.storagePacket = none ∧ queue.rdIdx = queue.wrIdx) ∨
    ∃ power, queue.Holds power queue.contents

/-- A queue that is not full. -/
def Room (queue : LidarDataQueue P) : Prop :=
  ∃ power, queue.Holds power queue.contents ∧ queue.contents.length < 2 ^ power

theorem Room.sound (room : Room queue) : Sound queue := by
  obtain ⟨power, holds, _⟩ := room
  exact .inr ⟨power, holds⟩

theorem Holds.sound (holds : Holds queue power contents) : Sound queue :=
  .inr ⟨power, holds.contents_eq.symm ▸ holds⟩

theorem sound_zeroQueue : Sound (zeroQueue : LidarDataQueue P) := .inl ⟨rfl, rfl⟩

@[simp] theorem contents_zeroQueue : (zeroQueue : LidarDataQueue P).contents = [] := rfl

theorem contents_initQueue (memory : ℕ → StoragePacket P) (queueSize : BitVec 32) :
    (initQueue memory queueSize).contents = [] := by
  simp [LidarDataQueue.contents, LidarDataQueue.usedSize, initQueue]

theorem sound_initQueue (memory : ℕ → StoragePacket P) (queueSize : BitVec 32) :
    Sound (initQueue memory queueSize) := by
  obtain ⟨power, holds⟩ := exists_holds_initQueue memory queueSize
  exact holds.sound

theorem Sound.isEmpty_eq (sound : Sound queue) : queue.isEmpty = queue.contents.isEmpty := by
  rcases sound with ⟨none, same⟩ | ⟨power, holds⟩
  · simp [LidarDataQueue.isEmpty, LidarDataQueue.contents, none, same]
  · exact holds.isEmpty_eq

/-- What is not full has room. -/
theorem Sound.room (sound : Sound queue) (some_ : queue.storagePacket.isNone = false)
    (free : queue.isFull = false) : Room queue := by
  rcases sound with ⟨none, _⟩ | ⟨power, holds⟩
  · simp [none] at some_
  · rw [holds.isFull_eq, decide_eq_false_iff_not, Nat.not_le] at free
    exact ⟨power, holds, free⟩

theorem Room.store (room : Room queue) (packet : StoragePacket P) :
    Room (queue.store packet) ∧ (queue.store packet).contents = queue.contents ∧
      (queue.store packet).written? = some packet := by
  obtain ⟨power, holds, less⟩ := room
  have holds' := holds.store less packet
  have same := holds'.contents_eq
  refine ⟨⟨power, same.symm ▸ holds', same.symm ▸ less⟩, same, ?_⟩
  obtain ⟨cells, storage, _⟩ := holds.holds
  simp [written?, LidarDataQueue.store, storage]

theorem Room.advance (room : Room queue) {packet : StoragePacket P}
    (stored : queue.written? = some packet) :
    Sound queue.advance ∧ queue.advance.contents = queue.contents ++ [packet] := by
  obtain ⟨power, holds, less⟩ := room
  have holds' := holds.advance less stored
  exact ⟨holds'.sound, holds'.contents_eq⟩

/-- Taking the first packet makes room. -/
theorem Sound.popUpdate (sound : Sound queue) {packet : StoragePacket P}
    {rest : List (StoragePacket P)} (first : queue.contents = packet :: rest) :
    queue.front? = some packet ∧ Room queue.popUpdate ∧ queue.popUpdate.contents = rest := by
  rcases sound with ⟨none, _⟩ | ⟨power, holds⟩
  · simp [LidarDataQueue.contents, none] at first
  · rw [first] at holds
    have holds' := holds.popUpdate
    have same := holds'.contents_eq
    obtain ⟨_, _, ring⟩ := holds.holds
    exact ⟨holds.front?_eq, ⟨power, same.symm ▸ holds', same.symm ▸ ring.length_le⟩, same⟩

theorem Room.index_ne (room : Room queue) (some_ : queue.contents ≠ []) :
    (queue.wrIdx &&& queue.mask).toNat ≠ (queue.rdIdx &&& queue.mask).toNat := by
  obtain ⟨power, holds, less⟩ := room
  exact holds.index_ne less some_

end LidarDataQueue

end ScoutStack.LivoxDriver
