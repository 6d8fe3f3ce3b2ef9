import Mathlib.Data.List.Basic
import Mathlib.Order.Lattice

/-!
# Bisection

Binary search for the place in a list where a test stops to hold.  The list is arranged
for the test when the values that pass it come first.
-/

namespace Bisect

variable {α : Type*} (test : α → Bool)

/-- The loop on the places from `low` up to `high`. -/
def search (list : List α) (low high : ℕ) : ℕ :=
  if low < high then
    match list[(low + high) / 2]? with
    | some value =>
        if test value then search list ((low + high) / 2 + 1) high
        else search list low ((low + high) / 2)
    | none => low
  else low
termination_by high - low

/-- The place where the test stops to hold. -/
def bisect (list : List α) : ℕ := search test list 0 list.length

/-- The values that pass the test come first. -/
def Arranged (list : List α) : Prop :=
  list.Pairwise fun earlier later => test later = true → test earlier = true

variable {test} {list : List α}

theorem Arranged.of_le (arranged : Arranged test list) {i j : ℕ} {earlier later : α}
    (order : i ≤ j) (first : list[i]? = some earlier) (second : list[j]? = some later)
    (passes : test later = true) : test earlier = true := by
  rcases Nat.eq_or_lt_of_le order with rfl | before
  · cases first.symm.trans second
    exact passes
  · obtain ⟨boundI, rfl⟩ := List.getElem?_eq_some_iff.mp first
    obtain ⟨boundJ, rfl⟩ := List.getElem?_eq_some_iff.mp second
    exact List.pairwise_iff_getElem.mp arranged i j boundI boundJ before passes

/-- The loop keeps the values that pass below `low` and those that fail from `high` on. -/
theorem search_spec (arranged : Arranged test list) {low high : ℕ} (order : low ≤ high)
    (inside : high ≤ list.length)
    (below : ∀ (place : ℕ) (value : α), list[place]? = some value → place < low →
      test value = true)
    (above : ∀ (place : ℕ) (value : α), list[place]? = some value → high ≤ place →
      test value = false) :
    search test list low high ≤ list.length ∧
      ∀ (place : ℕ) (value : α), list[place]? = some value →
        (place < search test list low high ↔ test value = true) := by
  fun_induction search test list low high with
  | case1 low high open_ middle found passes ih =>
      apply ih (by omega) inside _ above
      intro place value at_place before
      exact arranged.of_le (by omega) at_place found passes
  | case2 low high open_ middle found fails ih =>
      apply ih (by omega) (by omega) below
      intro place value at_place after
      by_contra passes
      exact fails (arranged.of_le after found at_place (by simpa using passes))
  | case3 low high open_ missing =>
      rw [List.getElem?_eq_none_iff] at missing
      omega
  | case4 low high closed =>
      refine ⟨by omega, ?_⟩
      intro place value at_place
      constructor
      · exact below place value at_place
      · intro passes
        by_contra after
        rw [above place value at_place (by omega)] at passes
        contradiction

theorem bisect_spec (arranged : Arranged test list) :
    bisect test list ≤ list.length ∧
      ∀ (place : ℕ) (value : α), list[place]? = some value →
        (place < bisect test list ↔ test value = true) := by
  apply search_spec arranged (Nat.zero_le _) (Nat.le_refl _)
  · intro place _ _ below
    exact absurd below (Nat.not_lt_zero place)
  · intro place value at_place outside
    rw [List.getElem?_eq_none outside] at at_place
    contradiction

theorem bisect_le_length (arranged : Arranged test list) : bisect test list ≤ list.length :=
  (bisect_spec arranged).1

/-- The values before the place pass the test, the others fail. -/
theorem lt_bisect_iff (arranged : Arranged test list) {place : ℕ} {value : α}
    (found : list[place]? = some value) : place < bisect test list ↔ test value = true :=
  (bisect_spec arranged).2 place value found

section Ordered

variable [LinearOrder α]

/-- `bisect_left`: the place of the first value that is not below. -/
def bisectLeft (list : List α) (value : α) : ℕ := bisect (fun item => decide (item < value)) list

/-- `bisect_right`: the place of the first value that is above. -/
def bisectRight (list : List α) (value : α) : ℕ := bisect (fun item => !decide (value < item)) list

variable {list : List α} (ordered : list.Pairwise (· ≤ ·)) (value : α)

include ordered

theorem arranged_left : Arranged (fun item => decide (item < value)) list := by
  apply ordered.imp
  intro earlier later le below
  exact decide_eq_true (lt_of_le_of_lt le (of_decide_eq_true below))

theorem arranged_right : Arranged (fun item => !decide (value < item)) list := by
  apply ordered.imp
  intro earlier later le notAbove
  simp only [Bool.not_eq_true', decide_eq_false_iff_not, not_lt] at notAbove ⊢
  exact le_trans le notAbove

theorem bisectLeft_le_length : bisectLeft list value ≤ list.length :=
  bisect_le_length (arranged_left ordered value)

theorem bisectRight_le_length : bisectRight list value ≤ list.length :=
  bisect_le_length (arranged_right ordered value)

variable {value} {place : ℕ} {item : α} (found : list[place]? = some item)

include found

theorem lt_bisectLeft_iff : place < bisectLeft list value ↔ item < value := by
  rw [bisectLeft, lt_bisect_iff (arranged_left ordered value) found, decide_eq_true_iff]

theorem lt_bisectRight_iff : place < bisectRight list value ↔ item ≤ value := by
  rw [bisectRight, lt_bisect_iff (arranged_right ordered value) found, Bool.not_eq_true',
    decide_eq_false_iff_not, not_lt]

end Ordered

/-! ## Keys -/

section Keys

variable {β : Type*} [LinearOrder α] {key : β → α} {list : List β}
  (ordered : list.Pairwise fun a b => key a ≤ key b)

include ordered

theorem bisectLeft_map_le_length (value : α) : bisectLeft (list.map key) value ≤ list.length := by
  rw [← List.length_map key]
  exact bisectLeft_le_length (List.pairwise_map.mpr ordered) value

theorem bisectRight_map_le_length (value : α) :
    bisectRight (list.map key) value ≤ list.length := by
  rw [← List.length_map key]
  exact bisectRight_le_length (List.pairwise_map.mpr ordered) value

variable {value : α} {place : ℕ} {item : β} (found : list[place]? = some item)

include found

theorem lt_bisectLeft_map_iff : place < bisectLeft (list.map key) value ↔ key item < value := by
  apply lt_bisectLeft_iff (List.pairwise_map.mpr ordered)
  rw [List.getElem?_map, found, Option.map_some]

theorem lt_bisectRight_map_iff : place < bisectRight (list.map key) value ↔ key item ≤ value := by
  apply lt_bisectRight_iff (List.pairwise_map.mpr ordered)
  rw [List.getElem?_map, found, Option.map_some]

end Keys

end Bisect
