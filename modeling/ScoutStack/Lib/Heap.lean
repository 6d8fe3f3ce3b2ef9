import Mathlib.Data.Multiset.Range
import Mathlib.Order.Lattice

/-!
# Binary heaps in place

A heap of `size` values lies in the first cells of a memory.  Both loops carry a value and
a hole, move one cell at a time into the hole and put the value down where it stops.  The
comparison is a test `lt`; it has to agree with a key only on the values that are present.
-/

namespace Heap

open Function

variable {α κ : Type*}

section Loops

variable (lt : α → α → Bool)

/-- The hole climbs while the parent is below the value. -/
def floatUp (cells : ℕ → α) (hole : ℕ) (value : α) : ℕ → α :=
  if 0 < hole ∧ lt (cells ((hole - 1) / 2)) value = true then
    floatUp (update cells hole (cells ((hole - 1) / 2))) ((hole - 1) / 2) value
  else update cells hole value
termination_by hole

/-- The child of the hole that is not below the other. -/
def largerChild (size : ℕ) (cells : ℕ → α) (hole : ℕ) : ℕ :=
  if hole * 2 + 2 < size ∧ lt (cells (hole * 2 + 1)) (cells (hole * 2 + 2)) = true then
    hole * 2 + 2
  else hole * 2 + 1

/-- The hole sinks while the value is below the larger child. -/
def moveDown (size : ℕ) (cells : ℕ → α) (hole : ℕ) (value : α) : ℕ → α :=
  if hole * 2 + 1 < size ∧ lt value (cells (largerChild lt size cells hole)) = true then
    moveDown size (update cells hole (cells (largerChild lt size cells hole)))
      (largerChild lt size cells hole) value
  else update cells hole value
termination_by size - hole
decreasing_by
  have larger : hole < largerChild lt size cells hole := by
    rw [largerChild]
    split <;> omega
  omega

end Loops

/-! ## Contents -/

/-- The values of the heap. -/
def contents (size : ℕ) (cells : ℕ → α) : Multiset α := (Multiset.range size).map cells

@[simp] theorem contents_zero (cells : ℕ → α) : contents 0 cells = 0 := rfl

@[simp] theorem card_contents (size : ℕ) (cells : ℕ → α) :
    (contents size cells).card = size := by simp [contents]

theorem contents_succ (size : ℕ) (cells : ℕ → α) :
    contents (size + 1) cells = cells size ::ₘ contents size cells := by
  simp [contents, Multiset.range_succ]

theorem mem_contents {size : ℕ} {cells : ℕ → α} {value : α} :
    value ∈ contents size cells ↔ ∃ i < size, cells i = value := by
  simp [contents]

theorem forall_mem_contents {size : ℕ} {cells : ℕ → α} {admits : α → Prop} :
    (∀ value ∈ contents size cells, admits value) ↔ ∀ i < size, admits (cells i) := by
  simp [contents]

theorem contents_congr {size : ℕ} {cells cells' : ℕ → α}
    (same : ∀ i < size, cells i = cells' i) : contents size cells = contents size cells' :=
  Multiset.map_congr rfl fun i member => same i (Multiset.mem_range.mp member)

/-- Values in the places of a set that leaves out the updated one. -/
theorem map_update_of_notMem {places : Multiset ℕ} {i : ℕ} (absent : i ∉ places)
    (cells : ℕ → α) (value : α) : places.map (update cells i value) = places.map cells := by
  apply Multiset.map_congr rfl
  intro j member
  have other : j ≠ i := fun equal => absent (equal ▸ member)
  rw [update_of_ne other]

theorem notMem_erase_range (size i : ℕ) : i ∉ (Multiset.range size).erase i :=
  (Multiset.nodup_range size).notMem_erase

theorem contents_eq_cons {size i : ℕ} (inside : i < size) (cells : ℕ → α) :
    contents size cells = cells i ::ₘ ((Multiset.range size).erase i).map cells := by
  rw [contents, ← Multiset.map_cons, Multiset.cons_erase (Multiset.mem_range.mpr inside)]

theorem contents_update {size i : ℕ} (inside : i < size) (cells : ℕ → α) (value : α) :
    contents size (update cells i value) =
      value ::ₘ ((Multiset.range size).erase i).map cells := by
  rw [contents_eq_cons inside, update_self, map_update_of_notMem (notMem_erase_range size i)]

/-- Moving a cell into the hole moves the hole to that cell. -/
theorem contents_move {size hole cell : ℕ} (holeInside : hole < size) (cellInside : cell < size)
    (apart : cell ≠ hole) (cells : ℕ → α) (value : α) :
    contents size (update (update cells hole (cells cell)) cell value) =
      contents size (update cells hole value) := by
  rw [contents_update cellInside, contents_update holeInside]
  have there : hole ∈ (Multiset.range size).erase cell := by
    rw [Multiset.mem_erase_of_ne (Ne.symm apart)]
    exact Multiset.mem_range.mpr holeInside
  have here : cell ∈ (Multiset.range size).erase hole := by
    rw [Multiset.mem_erase_of_ne apart]
    exact Multiset.mem_range.mpr cellInside
  have absent : hole ∉ ((Multiset.range size).erase cell).erase hole :=
    ((Multiset.nodup_range size).erase cell).notMem_erase
  rw [← Multiset.cons_erase there, ← Multiset.cons_erase here, Multiset.map_cons,
    Multiset.map_cons, update_self, map_update_of_notMem absent, Multiset.erase_comm]

/-- What holds of all the values holds after one is replaced. -/
theorem admits_update {admits : α → Prop} {size hole : ℕ} {cells : ℕ → α} {value : α}
    (all : ∀ i < size, admits (cells i)) (good : admits value) :
    ∀ i < size, admits (update cells hole value i) := by
  intro i inside
  rcases eq_or_ne i hole with rfl | other
  · rw [update_self]
    exact good
  · rw [update_of_ne other]
    exact all i inside

/-! ## Order -/

section Order

variable [LinearOrder κ] (key : α → κ)

/-- No value is above its parent. -/
def Ordered (size : ℕ) (cells : ℕ → α) : Prop :=
  ∀ i, 0 < i → i < size → key (cells i) ≤ key (cells ((i - 1) / 2))

/-- The pairs that the hole does not touch are in order, and the children of the hole are
not above its parent. -/
structure Open (size : ℕ) (cells : ℕ → α) (hole : ℕ) : Prop where
  inside : hole < size
  apart : ∀ i, 0 < i → i < size → i ≠ hole → (i - 1) / 2 ≠ hole →
    key (cells i) ≤ key (cells ((i - 1) / 2))
  across : ∀ i, 0 < i → i < size → (i - 1) / 2 = hole → 0 < hole →
    key (cells i) ≤ key (cells ((hole - 1) / 2))

/-- The comparison decides the order of the keys on the values the predicate admits. -/
def Agrees (lt : α → α → Bool) (admits : α → Prop) : Prop :=
  ∀ a b, admits a → admits b → (lt a b = true ↔ key a < key b)

variable {key} {size : ℕ} {cells : ℕ → α} {hole : ℕ} {value : α}

/-- The first cell holds a largest key. -/
theorem Ordered.le_root (ordered : Ordered key size cells) :
    ∀ i, i < size → key (cells i) ≤ key (cells 0) := by
  intro i
  induction i using Nat.strong_induction_on with
  | _ i ih =>
      intro inside
      rcases Nat.eq_zero_or_pos i with rfl | positive
      · exact le_refl _
      · have parent : (i - 1) / 2 < i := by omega
        exact (ordered i positive inside).trans (ih _ parent (by omega))

/-- A hole is closed by a value between its children and its parent. -/
theorem Open.close (free : Open key size cells hole)
    (below : ∀ i, 0 < i → i < size → (i - 1) / 2 = hole → key (cells i) ≤ key value)
    (above : 0 < hole → key value ≤ key (cells ((hole - 1) / 2))) :
    Ordered key size (update cells hole value) := by
  intro i positive within
  rcases eq_or_ne i hole with rfl | other
  · have parent : (i - 1) / 2 ≠ i := by omega
    rw [update_self, update_of_ne parent]
    exact above positive
  · rw [update_of_ne other]
    rcases eq_or_ne ((i - 1) / 2) hole with equal | apart
    · rw [equal, update_self]
      exact below i positive within equal
    · rw [update_of_ne apart]
      exact free.apart i positive within other apart

/-- The hole moves to its parent. -/
theorem Open.up (free : Open key size cells hole) (positive : 0 < hole) :
    Open key size (update cells hole (cells ((hole - 1) / 2))) ((hole - 1) / 2) := by
  have inside := free.inside
  have climb : ∀ i, 0 < i → i < size → (i - 1) / 2 = (hole - 1) / 2 → 0 < (hole - 1) / 2 →
      key (update cells hole (cells ((hole - 1) / 2)) i) ≤
        key (cells (((hole - 1) / 2 - 1) / 2)) := by
    intro i first within equal above
    have grand : key (cells ((hole - 1) / 2)) ≤ key (cells (((hole - 1) / 2 - 1) / 2)) :=
      free.apart _ above (by omega) (by omega) (by omega)
    rcases eq_or_ne i hole with rfl | other
    · rw [update_self]
      exact grand
    · rw [update_of_ne other]
      have step := free.apart i first within other (by omega)
      rw [equal] at step
      exact step.trans grand
  refine ⟨by omega, ?_, ?_⟩
  · intro i first within other apart
    have self : i ≠ hole := by
      rintro rfl
      exact apart rfl
    rw [update_of_ne self]
    rcases eq_or_ne ((i - 1) / 2) hole with equal | else_
    · rw [equal, update_self]
      exact free.across i first within equal positive
    · rw [update_of_ne else_]
      exact free.apart i first within self else_
  · intro i first within equal above
    rw [update_of_ne (show ((hole - 1) / 2 - 1) / 2 ≠ hole by omega)]
    exact climb i first within equal above

/-- The hole moves to a child that is not below its sibling. -/
theorem Open.down (free : Open key size cells hole) {child : ℕ} (first : 0 < child)
    (within : child < size) (parent : (child - 1) / 2 = hole)
    (largest : ∀ i, 0 < i → i < size → (i - 1) / 2 = hole → key (cells i) ≤ key (cells child)) :
    Open key size (update cells hole (cells child)) child := by
  refine ⟨within, ?_, ?_⟩
  · intro i positive inside other apart
    rcases eq_or_ne i hole with rfl | self
    · rw [update_self, update_of_ne (show (i - 1) / 2 ≠ i by omega)]
      exact free.across child first within parent positive
    · rw [update_of_ne self]
      rcases eq_or_ne ((i - 1) / 2) hole with equal | else_
      · rw [equal, update_self]
        exact largest i positive inside equal
      · rw [update_of_ne else_]
        exact free.apart i positive inside self else_
  · intro i positive inside equal above
    rw [parent, update_self, update_of_ne (show i ≠ hole by omega)]
    have step := free.apart i positive inside (by omega) (by omega)
    rwa [equal] at step

section Agreement

variable {lt : α → α → Bool} {admits : α → Prop} (agrees : Agrees key lt admits)

include agrees

theorem Agrees.of_false {a b : α} (first : admits a) (second : admits b)
    (fails : ¬lt a b = true) : key b ≤ key a :=
  not_lt.mp fun less => fails ((agrees a b first second).mpr less)

/-- The climbing value keeps the contents and ends in order. -/
theorem floatUp_spec (free : Open key size cells hole) (all : ∀ i < size, admits (cells i))
    (good : admits value)
    (below : ∀ i, 0 < i → i < size → (i - 1) / 2 = hole → key (cells i) ≤ key value) :
    Ordered key size (floatUp lt cells hole value) ∧
      contents size (floatUp lt cells hole value) = contents size (update cells hole value) := by
  fun_induction floatUp lt cells hole value with
  | case1 cells hole climbs ih =>
      obtain ⟨positive, less⟩ := climbs
      have inside := free.inside
      have parent : admits (cells ((hole - 1) / 2)) := all _ (by omega)
      have rises : key (cells ((hole - 1) / 2)) < key value :=
        (agrees _ _ parent good).mp less
      have sides : ∀ i, 0 < i → i < size → (i - 1) / 2 = (hole - 1) / 2 →
          key (update cells hole (cells ((hole - 1) / 2)) i) ≤ key value := by
        intro i first within equal
        rcases eq_or_ne i hole with rfl | other
        · rw [update_self]
          exact rises.le
        · rw [update_of_ne other]
          have step := free.apart i first within other (by omega)
          rw [equal] at step
          exact step.trans rises.le
      obtain ⟨ordered, same⟩ := ih (free.up positive) (admits_update all parent) sides
      refine ⟨ordered, same.trans ?_⟩
      exact contents_move inside (by omega) (by omega) cells value
  | case2 cells hole stops =>
      refine ⟨free.close below ?_, rfl⟩
      intro positive
      have parent : admits (cells ((hole - 1) / 2)) := all _ (by have := free.inside; omega)
      exact agrees.of_false parent good fun less => stops ⟨positive, less⟩

/-- What `largerChild` picks. -/
theorem largerChild_spec (all : ∀ i < size, admits (cells i)) (inner : hole * 2 + 1 < size) :
    0 < largerChild lt size cells hole ∧ largerChild lt size cells hole < size ∧
      (largerChild lt size cells hole - 1) / 2 = hole ∧
      ∀ i, 0 < i → i < size → (i - 1) / 2 = hole →
        key (cells i) ≤ key (cells (largerChild lt size cells hole)) := by
  have left := all _ inner
  rw [largerChild]
  split
  · next picks =>
      obtain ⟨within, less⟩ := picks
      have step := (agrees _ _ left (all _ within)).mp less
      refine ⟨by omega, within, by omega, ?_⟩
      intro i first inside equal
      have which : i = hole * 2 + 1 ∨ i = hole * 2 + 2 := by omega
      rcases which with rfl | rfl
      · exact step.le
      · exact le_refl _
  · next keeps =>
      refine ⟨by omega, inner, by omega, ?_⟩
      intro i first inside equal
      have which : i = hole * 2 + 1 ∨ i = hole * 2 + 2 := by omega
      rcases which with rfl | rfl
      · exact le_refl _
      · exact agrees.of_false left (all _ inside) fun less => keeps ⟨inside, less⟩

/-- The sinking value keeps the contents and ends in order. -/
theorem moveDown_spec (free : Open key size cells hole) (all : ∀ i < size, admits (cells i))
    (good : admits value) (above : 0 < hole → key value ≤ key (cells ((hole - 1) / 2))) :
    Ordered key size (moveDown lt size cells hole value) ∧
      contents size (moveDown lt size cells hole value) =
        contents size (update cells hole value) := by
  fun_induction moveDown lt size cells hole value with
  | case1 cells hole sinks ih =>
      obtain ⟨inner, less⟩ := sinks
      obtain ⟨first, within, parent, largest⟩ := largerChild_spec agrees all inner
      generalize largerChild lt size cells hole = child at *
      have moved : admits (cells child) := all child within
      have falls : key value < key (cells child) := (agrees _ _ good moved).mp less
      have larger : 0 < child →
          key value ≤ key (update cells hole (cells child) ((child - 1) / 2)) := by
        intro _
        rw [parent, update_self]
        exact falls.le
      obtain ⟨ordered, same⟩ := ih (free.down first within parent largest)
        (admits_update all moved) larger
      refine ⟨ordered, same.trans ?_⟩
      exact contents_move free.inside within (by omega) cells value
  | case2 cells hole stops =>
      refine ⟨free.close ?_ above, rfl⟩
      intro i first within equal
      have inner : hole * 2 + 1 < size := by omega
      obtain ⟨_, inside, _, largest⟩ := largerChild_spec agrees all inner
      have stays := agrees.of_false good (all _ inside) fun less => stops ⟨inner, less⟩
      exact (largest i first within equal).trans stays

/-- A value put behind the last one and let climb is one more value. -/
theorem append_spec (ordered : Ordered key size cells) (all : ∀ i < size, admits (cells i))
    (good : admits value) :
    Ordered key (size + 1) (floatUp lt (update cells size value) size value) ∧
      contents (size + 1) (floatUp lt (update cells size value) size value) =
        value ::ₘ contents size cells := by
  have outside : ∀ i < size, update cells size value i = cells i := fun i inside =>
    update_of_ne (Nat.ne_of_lt inside) value cells
  have free : Open key (size + 1) (update cells size value) size := by
    refine ⟨Nat.lt_succ_self size, ?_, ?_⟩
    · intro i first within other _
      rw [outside i (by omega), outside ((i - 1) / 2) (by omega)]
      exact ordered i first (by omega)
    · intro i first within equal _
      omega
  have admitted : ∀ i < size + 1, admits (update cells size value i) := by
    intro i inside
    rcases eq_or_ne i size with rfl | other
    · rw [update_self]
      exact good
    · rw [update_of_ne other]
      exact all i (by omega)
  obtain ⟨kept, same⟩ := floatUp_spec agrees free admitted good
    fun i first within equal => by omega
  refine ⟨kept, same.trans ?_⟩
  rw [update_idem, contents_succ, update_self, contents_congr outside]

/-- The last value put in place of the first and let sink: the first is gone. -/
theorem removeTop_spec (ordered : Ordered key (size + 1) cells)
    (all : ∀ i < size + 1, admits (cells i)) :
    Ordered key size (moveDown lt size (update cells 0 (cells size)) 0 (cells size)) ∧
      contents (size + 1) cells =
        cells 0 ::ₘ contents size (moveDown lt size (update cells 0 (cells size)) 0
          (cells size)) := by
  have last : admits (cells size) := all size (Nat.lt_succ_self size)
  cases size with
  | zero => exact ⟨fun i _ inside => absurd inside (Nat.not_lt_zero i), rfl⟩
  | succ size =>
      have shorter : Ordered key (size + 1) cells := fun i first within =>
        ordered i first (by omega)
      have free : Open key (size + 1) (update cells 0 (cells (size + 1))) 0 := by
        refine ⟨Nat.succ_pos size, ?_, ?_⟩
        · intro i first within other apart
          rw [update_of_ne other, update_of_ne apart]
          exact shorter i first within
        · intro i _ _ _ positive
          exact absurd positive (Nat.lt_irrefl 0)
      obtain ⟨kept, same⟩ := moveDown_spec agrees free
        (admits_update (fun i inside => all i (by omega)) last) last
        fun positive => absurd positive (Nat.lt_irrefl 0)
      refine ⟨kept, ?_⟩
      rw [same, update_idem, contents_update (Nat.succ_pos size), contents_succ,
        contents_eq_cons (Nat.succ_pos size), Multiset.cons_swap]

end Agreement

end Order

end Heap
