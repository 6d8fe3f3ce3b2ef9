import Mathlib.Data.List.Sort
import Mathlib.Order.Basic

/-!
# Values that compare

Types with a `less` and an `equal` that need not decide every pair, as numbers with a
NaN, and tuples of such values, compared from the front.  Sorting is stable insertion
by `less`.  A list of values that are equal to themselves has one sorted arrangement.
-/

/-- A type whose values are compared by `less` and `equal`. -/
class Compares (α : Type*) where
  less : α → α → Bool
  equal : α → α → Bool

namespace Compares

variable {α β : Type*}

/-- A value that is equal to itself. -/
def Proper [Compares α] (value : α) : Prop := equal value value = true

/-- The comparison orders the values that are equal to themselves. -/
class Lawful (α : Type*) [Compares α] : Prop where
  eq_of_equal : ∀ {a b : α}, equal a b = true → a = b
  irrefl : ∀ a : α, less a a = false
  trans : ∀ {a b c : α}, less a b = true → less b c = true → less a c = true
  connected : ∀ {a b : α}, Proper a → Proper b → less a b = false → less b a = false →
    equal a b = true

/-! ## Instances -/

instance [LinearOrder α] : Compares α where
  less left right := decide (left < right)
  equal left right := decide (left = right)

theorem less_iff_lt [LinearOrder α] {left right : α} : less left right = true ↔ left < right :=
  decide_eq_true_iff

@[simp] theorem proper_of_linearOrder [LinearOrder α] (value : α) : Proper value :=
  decide_eq_true rfl

instance [LinearOrder α] : Lawful α where
  eq_of_equal same := of_decide_eq_true same
  irrefl value := decide_eq_false (lt_irrefl value)
  trans first second := decide_eq_true ((of_decide_eq_true first).trans (of_decide_eq_true second))
  connected _ _ above below :=
    decide_eq_true (le_antisymm (not_lt.mp (of_decide_eq_false below))
      (not_lt.mp (of_decide_eq_false above)))

/-- Tuples compare by the first pair of components that are not equal. -/
instance [Compares α] [Compares β] : Compares (α × β) where
  less left right :=
    if equal left.1 right.1 then less left.2 right.2 else less left.1 right.1
  equal left right := equal left.1 right.1 && equal left.2 right.2

section Tuples

variable [Compares α] [Compares β]

theorem less_pair (a b : α) (x y : β) :
    less (a, x) (b, y) = if equal a b then less x y else less a b := rfl

@[simp] theorem equal_pair (a b : α) (x y : β) :
    equal (a, x) (b, y) = (equal a b && equal x y) := rfl

@[simp] theorem proper_pair (a : α) (x : β) : Proper (a, x) ↔ Proper a ∧ Proper x := by
  simp [Proper]

variable [Lawful α] [Lawful β]

instance : Lawful (α × β) where
  eq_of_equal := by
    rintro ⟨a, x⟩ ⟨b, y⟩ same
    rw [equal_pair, Bool.and_eq_true] at same
    rw [Lawful.eq_of_equal same.1, Lawful.eq_of_equal same.2]
  irrefl := by
    rintro ⟨a, x⟩
    rw [less_pair, Lawful.irrefl, Lawful.irrefl, ite_self]
  trans := by
    rintro ⟨a, x⟩ ⟨b, y⟩ ⟨c, z⟩ first second
    rw [less_pair] at first second ⊢
    by_cases ab : equal a b = true
    · cases Lawful.eq_of_equal ab
      rw [if_pos ab] at first
      by_cases ac : equal a c = true
      · rw [if_pos ac] at second ⊢
        exact Lawful.trans first second
      · rw [if_neg ac] at second ⊢
        exact second
    · rw [if_neg ab] at first
      by_cases bc : equal b c = true
      · cases Lawful.eq_of_equal bc
        rw [if_neg ab]
        exact first
      · rw [if_neg bc] at second
        have below := Lawful.trans first second
        have ac : ¬equal a c = true := by
          intro same
          cases Lawful.eq_of_equal same
          exact absurd below (by simp [Lawful.irrefl])
        rw [if_neg ac]
        exact below
  connected := by
    rintro ⟨a, x⟩ ⟨b, y⟩ left right above below
    rw [proper_pair] at left right
    rw [less_pair] at above below
    by_cases ab : equal a b = true
    · cases Lawful.eq_of_equal ab
      rw [if_pos ab] at above below
      rw [equal_pair, ab, Lawful.connected left.2 right.2 above below, Bool.and_self]
    · have ba : ¬equal b a = true := by
        intro same
        cases Lawful.eq_of_equal same
        exact ab same
      rw [if_neg ab] at above
      rw [if_neg ba] at below
      exact absurd (Lawful.connected left.1 right.1 above below) ab

end Tuples

/-- Values compare as their images. -/
@[reducible] def along [Compares β] (image : α → β) : Compares α where
  less left right := less (image left) (image right)
  equal left right := equal (image left) (image right)

theorem lawful_along [Compares β] [Lawful β] {image : α → β}
    (injective : Function.Injective image) : @Lawful α (along image) :=
  letI := along image
  { eq_of_equal := fun same => injective (Lawful.eq_of_equal same)
    irrefl := fun value => Lawful.irrefl (image value)
    trans := fun first second => Lawful.trans (a := image _) first second
    connected := fun left right above below =>
      Lawful.connected (a := image _) left right above below }

/-! ## Sorting -/

section Sorting

variable [Compares α]

/-- The list sorted by `less`; values that do not compare keep their order. -/
def sorted (list : List α) : List α := list.insertionSort fun left right => less right left = false

@[simp] theorem sorted_nil : sorted ([] : List α) = [] := rfl

theorem sorted_perm (list : List α) : (sorted list).Perm list := List.perm_insertionSort _ list

@[simp] theorem mem_sorted {list : List α} {value : α} : value ∈ sorted list ↔ value ∈ list :=
  (sorted_perm list).mem_iff

@[simp] theorem length_sorted (list : List α) : (sorted list).length = list.length :=
  (sorted_perm list).length_eq

/-- Insertion keeps a list ordered by a relation that `less` decides one way or the other. -/
theorem pairwise_orderedInsert {related : α → α → Prop} {first : α} {list : List α}
    (trans : ∀ b ∈ list, ∀ c ∈ list, related first b → related b c → related first c)
    (before : ∀ b ∈ list, less b first = false → related first b)
    (after : ∀ b ∈ list, less b first = true → related b first)
    (ordered : list.Pairwise related) :
    (list.orderedInsert (fun left right => less right left = false) first).Pairwise related := by
  induction list with
  | nil => simp
  | cons second others ih =>
      obtain ⟨least, inner⟩ := List.pairwise_cons.mp ordered
      rw [List.orderedInsert_cons]
      split
      next stays =>
        have step := before second List.mem_cons_self stays
        refine .cons ?_ ordered
        intro value member
        rcases List.mem_cons.mp member with rfl | member
        · exact step
        · exact trans second List.mem_cons_self value (.tail _ member) step (least value member)
      next passes =>
        refine .cons ?_ (ih ?_ ?_ ?_ inner)
        · intro value member
          rcases (List.mem_orderedInsert _).mp member with rfl | member
          · exact after second List.mem_cons_self (by simpa using passes)
          · exact least value member
        · intro b memB c memC
          exact trans b (.tail _ memB) c (.tail _ memC)
        · intro b memB
          exact before b (.tail _ memB)
        · intro b memB
          exact after b (.tail _ memB)

/-- A transitive relation that `less` decides one way or the other orders the sorted list. -/
theorem pairwise_sorted_of {related : α → α → Prop} {list : List α}
    (trans : ∀ a ∈ list, ∀ b ∈ list, ∀ c ∈ list, related a b → related b c → related a c)
    (before : ∀ a ∈ list, ∀ b ∈ list, less b a = false → related a b)
    (after : ∀ a ∈ list, ∀ b ∈ list, less b a = true → related b a) :
    (sorted list).Pairwise related := by
  induction list with
  | nil => exact .nil
  | cons first rest ih =>
      have member : ∀ value ∈ sorted rest, value ∈ first :: rest :=
        fun value found => .tail _ (mem_sorted.mp found)
      apply pairwise_orderedInsert
      · intro b memB c memC
        exact trans first List.mem_cons_self b (member b memB) c (member c memC)
      · intro b memB
        exact before first List.mem_cons_self b (member b memB)
      · intro b memB
        exact after first List.mem_cons_self b (member b memB)
      · apply ih
        · intro a memA b memB c memC
          exact trans a (.tail _ memA) b (.tail _ memB) c (.tail _ memC)
        · intro a memA b memB
          exact before a (.tail _ memA) b (.tail _ memB)
        · intro a memA b memB
          exact after a (.tail _ memA) b (.tail _ memB)

/-- A key that `less` never contradicts is ordered in the sorted list. -/
theorem pairwise_sorted_key [LinearOrder β] (key : α → β) {list : List α}
    (decides : ∀ a b, key a < key b → less a b = true)
    (follows : ∀ a b, less a b = true → key a ≤ key b) :
    (sorted list).Pairwise fun a b => key a ≤ key b := by
  apply pairwise_sorted_of
  · intro a _ b _ c _ first second
    exact first.trans second
  · intro a _ b _ notLess
    by_contra above
    rw [decides b a (not_le.mp above)] at notLess
    contradiction
  · intro a _ b _ isLess
    exact follows b a isLess

/-- Sorted tuples are in the order of their first components. -/
theorem pairwise_sorted_fst [LinearOrder β] (list : List (β × α)) :
    (sorted list).Pairwise fun a b => a.1 ≤ b.1 := by
  apply pairwise_sorted_key Prod.fst
  · rintro ⟨a, x⟩ ⟨b, y⟩ below
    have different : ¬equal a b = true := fun same => below.ne (of_decide_eq_true same)
    rw [less_pair, if_neg different]
    exact less_iff_lt.mpr below
  · rintro ⟨a, x⟩ ⟨b, y⟩ isLess
    rw [less_pair] at isLess
    split at isLess
    next same => exact (of_decide_eq_true same).le
    next => exact (less_iff_lt.mp isLess).le

variable [Lawful α]

theorem pairwise_sorted {list : List α} (proper : ∀ value ∈ list, Proper value) :
    (sorted list).Pairwise fun a b => less b a = false := by
  apply pairwise_sorted_of
  · intro a memA b memB c memC first second
    by_contra above
    rw [Bool.not_eq_false] at above
    by_cases ab : less a b = true
    · exact absurd (Lawful.trans above ab) (by simp [second])
    · have same := Lawful.eq_of_equal
        (Lawful.connected (proper a memA) (proper b memB) (by simpa using ab) first)
      rw [same, second] at above
      contradiction
  · exact fun _ _ _ _ notLess => notLess
  · intro a memA b memB isLess
    by_contra above
    rw [Bool.not_eq_false] at above
    exact absurd (Lawful.trans isLess above) (by simp [Lawful.irrefl])

/-- The order in which the values are read makes no difference once they are sorted. -/
theorem sorted_eq_of_perm {first second : List α} (same : first.Perm second)
    (proper : ∀ value ∈ first, Proper value) : sorted first = sorted second := by
  have other : ∀ value ∈ second, Proper value :=
    fun value member => proper value (same.mem_iff.mpr member)
  apply List.Perm.eq_of_pairwise _ (pairwise_sorted proper) (pairwise_sorted other)
    ((sorted_perm first).trans (same.trans (sorted_perm second).symm))
  intro a b memA memB above below
  exact Lawful.eq_of_equal (Lawful.connected (proper a (mem_sorted.mp memA))
    (other b (mem_sorted.mp memB)) below above)

end Sorting

/-- Sorting numbers is sorting by `≤`. -/
theorem sorted_eq_insertionSort [LinearOrder α] (list : List α) :
    sorted list = list.insertionSort (· ≤ ·) := by
  unfold sorted
  congr 1
  funext left right
  rw [← Bool.not_eq_true, less_iff_lt, not_lt]

theorem pairwise_le_sorted [LinearOrder α] (list : List α) : (sorted list).Pairwise (· ≤ ·) := by
  rw [sorted_eq_insertionSort]
  exact List.pairwise_insertionSort _ _

/-- A list in the order of its values is sorted. -/
theorem sorted_eq_of_ordered [LinearOrder α] {values ordered : List α}
    (same : ordered.Perm values) (inOrder : ordered.Pairwise (· ≤ ·)) :
    sorted values = ordered := by
  rw [sorted_eq_of_perm same.symm fun value _ => proper_of_linearOrder value,
    sorted_eq_insertionSort]
  exact inOrder.insertionSort_eq

end Compares
