import Mathlib.Algebra.Group.Nat.Defs
import Mathlib.Logic.Function.Basic
import Mathlib.Order.Basic
import Mathlib.Tactic.Common

/-!
# Rings of cells

A buffer whose size is a power of two, in which two counters go round.  The counters are
machine words that wrap; their difference is what the buffer holds.  A ring holds a list, and
writing and reading one cell appends to it and takes its first element.
-/

/-- A buffer with a counter of what was read and a counter of what was written. -/
structure CellRing (width : ℕ) (α : Type*) where
  cells : ℕ → α
  read : BitVec width
  write : BitVec width

namespace CellRing

variable {width power : ℕ} {α : Type*}

/-- What `used` cells hold from a counter on. -/
def view (cells : ℕ → α) (size first used : ℕ) : List α :=
  (List.range used).map fun place => cells ((first + place) % size)

section View

variable {cells : ℕ → α} {size first used : ℕ}

@[simp] theorem view_zero : view cells size first 0 = [] := rfl

@[simp] theorem length_view : (view cells size first used).length = used := by
  simp [view]

theorem view_succ_first : view cells size first (used + 1) =
    cells (first % size) :: view cells size (first + 1) used := by
  simp [view, List.range_succ_eq_map, Function.comp_def, Nat.add_assoc, Nat.add_comm 1]

theorem view_succ_last : view cells size first (used + 1) =
    view cells size first used ++ [cells ((first + used) % size)] := by
  simp [view, List.range_succ]

theorem view_mod : view cells size (first % size) used = view cells size first used := by
  simp [view]

/-- Places less than a round apart are different cells. -/
theorem mod_ne_of_lt {place : ℕ} (before : place < used) (room : used < size) :
    (first + place) % size ≠ (first + used) % size := by
  intro same
  have apart : (first + used - (first + place)) % size = 0 :=
    Nat.sub_mod_eq_zero_of_mod_eq same.symm
  rw [Nat.mod_eq_of_lt (by omega)] at apart
  omega

/-- A write past the end is not seen. -/
theorem view_update (room : used < size) (value : α) :
    view (Function.update cells ((first + used) % size) value) size first used =
      view cells size first used := by
  apply List.map_congr_left
  intro place member
  exact Function.update_of_ne (mod_ne_of_lt (List.mem_range.mp member) room) _ _

end View

/-! ## Words -/

theorem toNat_size_sub_one (small : power < width) :
    (BitVec.ofNat width (2 ^ power) - 1).toNat = 2 ^ power - 1 := by
  have fits : 2 ^ power < 2 ^ width := Nat.pow_lt_pow_right (by decide) small
  have pos := Nat.two_pow_pos power
  have wraps : 2 ^ width - 1 + 2 ^ power = 2 ^ power - 1 + 2 ^ width := by omega
  rw [BitVec.toNat_sub, BitVec.toNat_ofNat, Nat.mod_eq_of_lt fits, BitVec.ofNat_eq_ofNat,
    BitVec.toNat_ofNat, Nat.mod_eq_of_lt (by omega : 1 < 2 ^ width), wraps, Nat.add_mod_right,
    Nat.mod_eq_of_lt (by omega)]

/-- The mask of a power of two takes a word modulo it. -/
theorem toNat_and_mask (small : power < width) (index : BitVec width) :
    (index &&& (BitVec.ofNat width (2 ^ power) - 1)).toNat = index.toNat % 2 ^ power := by
  rw [BitVec.toNat_and, toNat_size_sub_one small, Nat.and_two_pow_sub_one_eq_mod]

/-- A counter that wraps goes on round the ring. -/
theorem toNat_add_mod (small : power < width) (index : BitVec width) (places : ℕ) :
    (index + BitVec.ofNat width places).toNat % 2 ^ power =
      (index.toNat + places) % 2 ^ power := by
  have divides : 2 ^ power ∣ 2 ^ width := Nat.pow_dvd_pow 2 (Nat.le_of_lt small)
  rw [BitVec.toNat_add, BitVec.toNat_ofNat, Nat.mod_mod_of_dvd _ divides, Nat.add_mod,
    Nat.mod_mod_of_dvd _ divides, ← Nat.add_mod]

/-! ## What a ring holds -/

/-- A ring of `2 ^ power` cells holds a list. -/
structure Holds (power : ℕ) (ring : CellRing width α) (contents : List α) : Prop where
  length_le : contents.length ≤ 2 ^ power
  write_eq : ring.write = ring.read + BitVec.ofNat width contents.length
  view_eq : view ring.cells (2 ^ power) ring.read.toNat contents.length = contents

namespace Holds

variable {ring : CellRing width α} {contents : List α} {value : α}

theorem nil (same : ring.write = ring.read) : Holds power ring [] where
  length_le := Nat.zero_le _
  write_eq := by simp [same]
  view_eq := rfl

/-- The difference of the counters is what is held. -/
theorem toNat_sub (small : power < width) (holds : Holds power ring contents) :
    (ring.write - ring.read).toNat = contents.length := by
  have fits : 2 ^ power < 2 ^ width := Nat.pow_lt_pow_right (by decide) small
  rw [holds.write_eq, BitVec.add_comm, BitVec.add_sub_cancel, BitVec.toNat_ofNat,
    Nat.mod_eq_of_lt (Nat.lt_of_le_of_lt holds.length_le fits)]

theorem read_eq_write_iff (small : power < width) (holds : Holds power ring contents) :
    ring.read = ring.write ↔ contents = [] := by
  rw [← List.length_eq_zero_iff, ← holds.toNat_sub small]
  constructor
  · intro same
    simp [same]
  · intro none
    have equal : ring.write - ring.read = 0 := BitVec.eq_of_toNat_eq (by simp [none])
    rw [BitVec.sub_eq_iff_eq_add] at equal
    simp [equal]

/-- The cell that is written next. -/
theorem write_mod (small : power < width) (holds : Holds power ring contents) :
    ring.write.toNat % 2 ^ power = (ring.read.toNat + contents.length) % 2 ^ power := by
  rw [holds.write_eq, toNat_add_mod small]

/-- The cell that is written next holds nothing. -/
theorem written (small : power < width) (holds : Holds power ring contents)
    (room : contents.length < 2 ^ power) :
    Holds power { ring with
      cells := Function.update ring.cells (ring.write.toNat % 2 ^ power) value } contents where
  length_le := holds.length_le
  write_eq := holds.write_eq
  view_eq := by
    simp only [holds.write_mod small, view_update room, holds.view_eq]

/-- A cell that was written is appended when its counter goes on. -/
theorem advanced (small : power < width) (holds : Holds power ring contents)
    (room : contents.length < 2 ^ power)
    (cell : ring.cells (ring.write.toNat % 2 ^ power) = value) :
    Holds power { ring with write := ring.write + 1 } (contents ++ [value]) where
  length_le := by
    rw [List.length_append, List.length_singleton]
    exact room
  write_eq := by
    simp [holds.write_eq, BitVec.add_assoc, BitVec.ofNat_add]
  view_eq := by
    rw [List.length_append, List.length_singleton, view_succ_last, holds.view_eq,
      ← holds.write_mod small, cell]

theorem push (small : power < width) (holds : Holds power ring contents)
    (room : contents.length < 2 ^ power) :
    Holds power
      { ring with
        cells := Function.update ring.cells (ring.write.toNat % 2 ^ power) value
        write := ring.write + 1 } (contents ++ [value]) :=
  (holds.written small room).advanced small room (Function.update_self ..)

/-- The cell that is read next holds the first element. -/
theorem first (holds : Holds power ring (value :: contents)) :
    ring.cells (ring.read.toNat % 2 ^ power) = value := by
  have view := holds.view_eq
  rw [List.length_cons, view_succ_first] at view
  exact (List.cons.inj view).1

/-- The element at a place. -/
theorem getElem?_eq (small : power < width) (holds : Holds power ring contents) {place : ℕ}
    (inside : place < contents.length) :
    contents[place]? =
      some (ring.cells ((ring.read + BitVec.ofNat width place).toNat % 2 ^ power)) := by
  rw [toNat_add_mod small]
  conv_lhs => rw [← holds.view_eq]
  simp [view, inside]

/-- Reading a cell takes the first element. -/
theorem pop (small : power < width) (holds : Holds power ring (value :: contents)) :
    Holds power { ring with read := ring.read + 1 } contents where
  length_le := Nat.le_trans (Nat.le_succ _) holds.length_le
  write_eq := by
    rw [holds.write_eq, List.length_cons, Nat.add_comm, BitVec.ofNat_add, BitVec.add_assoc]
    rfl
  view_eq := by
    have view := holds.view_eq
    rw [List.length_cons, view_succ_first] at view
    rw [← view_mod, show ring.read + 1 = ring.read + BitVec.ofNat width 1 from rfl,
      toNat_add_mod small, view_mod]
    exact (List.cons.inj view).2

end Holds

end CellRing
