import ScoutStack.Lib.Compares
import Mathlib.Algebra.Order.Floor.Ring
import Mathlib.Data.Int.ConditionallyCompleteOrder
import Mathlib.Data.List.Forall2
import Mathlib.Data.List.GetD
import Mathlib.Data.List.Pairwise
import Mathlib.Tactic.GCongr
import Mathlib.Tactic.Linarith
import Mathlib.Tactic.LinearCombination
import Mathlib.Tactic.Ring

/-!
# Interpolation between ordered values

Values at the integers, joined by straight lines: what is monotone at the integers is
monotone in between, and in the values.  The values of a list are continued by the first
and the last one.  Sorting keeps lists that are ordered place by place so.
-/

namespace Interpolation

section Lines

variable {K : Type*} [Field K] [LinearOrder K] [IsStrictOrderedRing K] [FloorRing K]

/-- The line through the values at the integers around a position. -/
def interpolate (value : ℤ → K) (position : K) : K :=
  value ⌊position⌋ * (1 - Int.fract position) + value (⌊position⌋ + 1) * Int.fract position

@[simp] theorem interpolate_intCast (value : ℤ → K) (place : ℤ) :
    interpolate value place = value place := by
  simp [interpolate]

/-- Between two integers the weights are the distances to them. -/
theorem interpolate_of_floor_ne_ceil (value : ℤ → K) {position : K}
    (between : ⌊position⌋ ≠ ⌈position⌉) :
    interpolate value position =
      value ⌊position⌋ * (⌈position⌉ - position) + value ⌈position⌉ * (position - ⌊position⌋) := by
  have next : ⌈position⌉ = ⌊position⌋ + 1 := by
    have low := Int.floor_le_ceil position
    have high := Int.ceil_le_floor_add_one position
    omega
  have split := Int.floor_add_fract position
  rw [interpolate, next]
  push_cast
  linear_combination (value (⌊position⌋ + 1) - value ⌊position⌋) * split

/-- A larger value at every integer. -/
theorem interpolate_le_interpolate {lower upper : ℤ → K} (le : ∀ place, lower place ≤ upper place)
    (position : K) : interpolate lower position ≤ interpolate upper position := by
  have nonneg := Int.fract_nonneg position
  have below := (Int.fract_lt_one position).le
  unfold interpolate
  have rest : 0 ≤ 1 - Int.fract position := by linarith
  gcongr
  · exact le _
  · exact le _

variable {value : ℤ → K} (monotone : Monotone value)

include monotone

theorem le_interpolate (position : K) : value ⌊position⌋ ≤ interpolate value position := by
  have nonneg := Int.fract_nonneg position
  have step := monotone (Int.le_add_one (le_refl ⌊position⌋))
  unfold interpolate
  nlinarith

theorem interpolate_le (position : K) : interpolate value position ≤ value (⌊position⌋ + 1) := by
  have below := (Int.fract_lt_one position).le
  have step := monotone (Int.le_add_one (le_refl ⌊position⌋))
  unfold interpolate
  nlinarith

theorem monotone_interpolate : Monotone (interpolate value) := by
  intro first second order
  rcases (Int.floor_le_floor order).eq_or_lt with same | passed
  · have step := monotone (Int.le_add_one (le_refl ⌊first⌋))
    have fract : Int.fract first ≤ Int.fract second := by
      have splitFirst := Int.floor_add_fract first
      have splitSecond := Int.floor_add_fract second
      rw [← same] at splitSecond
      linarith
    unfold interpolate
    rw [← same]
    nlinarith
  · calc interpolate value first
        ≤ value (⌊first⌋ + 1) := interpolate_le monotone first
      _ ≤ value ⌊second⌋ := monotone passed
      _ ≤ interpolate value second := le_interpolate monotone second

end Lines

section Continued

variable {α : Type*} [Zero α]

/-- The value at a place of a list, before it the first and after it the last one. -/
def continued (list : List α) (place : ℤ) : α := list.getD (min place.toNat (list.length - 1)) 0

theorem continued_of_lt {list : List α} {place : ℕ} {value : α} (found : list[place]? = some value) :
    continued list place = value := by
  obtain ⟨inside, rfl⟩ := List.getElem?_eq_some_iff.mp found
  have least : min (place : ℤ).toNat (list.length - 1) = place := by
    rw [Int.toNat_natCast]
    omega
  rw [continued, least, List.getD_eq_getElem _ _ inside]

theorem continued_mem {list : List α} (nonempty : list ≠ []) (place : ℤ) :
    continued list place ∈ list := by
  have positive := List.length_pos_iff.mpr nonempty
  rw [continued, List.getD_eq_getElem _ _ (by omega)]
  exact List.getElem_mem _

variable [LinearOrder α]

theorem monotone_continued {list : List α} (ordered : list.Pairwise (· ≤ ·)) :
    Monotone (continued list) := by
  intro first second le
  by_cases nonempty : list = []
  · simp [continued, nonempty]
  · have positive := List.length_pos_iff.mpr nonempty
    have inside : ∀ place : ℤ, min place.toNat (list.length - 1) < list.length := by omega
    have places : (⟨_, inside first⟩ : Fin list.length) ≤ ⟨_, inside second⟩ := by
      rw [Fin.mk_le_mk]
      omega
    rw [continued, continued, List.getD_eq_getElem _ _ (inside first),
      List.getD_eq_getElem _ _ (inside second)]
    exact ordered.rel_get_of_le places

theorem continued_le_continued {first second : List α}
    (pointwise : List.Forall₂ (· ≤ ·) first second) (place : ℤ) :
    continued first place ≤ continued second place := by
  have same := pointwise.length_eq
  by_cases nonempty : first = []
  · cases nonempty
    cases pointwise
    exact le_rfl
  · have positive := List.length_pos_iff.mpr nonempty
    rw [continued, continued, ← same, List.getD_eq_getElem _ _ (by omega),
      List.getD_eq_getElem _ _ (by omega)]
    exact (List.forall₂_iff_get.mp pointwise).2 _ _ _

end Continued

section Sorting

variable {α : Type*} [LinearOrder α]

/-- Insertion of a larger value into a larger list. -/
theorem forall₂_orderedInsert {low high : α} {first second : List α} (le : low ≤ high)
    (pointwise : List.Forall₂ (· ≤ ·) first second) (firstOrdered : first.Pairwise (· ≤ ·))
    (secondOrdered : second.Pairwise (· ≤ ·)) :
    List.Forall₂ (· ≤ ·) (first.orderedInsert (· ≤ ·) low)
      (second.orderedInsert (· ≤ ·) high) := by
  induction pointwise generalizing low high with
  | nil => exact .cons le .nil
  | @cons x y xs ys xy rest ih =>
      obtain ⟨leastX, innerX⟩ := List.pairwise_cons.mp firstOrdered
      obtain ⟨leastY, innerY⟩ := List.pairwise_cons.mp secondOrdered
      have insertX : xs.orderedInsert (· ≤ ·) x = x :: xs := by
        cases xs with
        | nil => rfl
        | cons x' xs => exact List.orderedInsert_cons_of_le _ _ (leastX x' List.mem_cons_self)
      have insertY : ys.orderedInsert (· ≤ ·) y = y :: ys := by
        cases ys with
        | nil => rfl
        | cons y' ys => exact List.orderedInsert_cons_of_le _ _ (leastY y' List.mem_cons_self)
      rw [List.orderedInsert_cons, List.orderedInsert_cons]
      split
      next lowFirst =>
        split
        next => exact .cons le (.cons xy rest)
        next highLater =>
          refine .cons (lowFirst.trans xy) ?_
          rw [← insertX]
          exact ih (xy.trans (not_le.mp highLater).le) innerX innerY
      next lowLater =>
        split
        next highFirst =>
          refine .cons ((not_le.mp lowLater).le.trans le) ?_
          rw [← insertY]
          exact ih (le.trans highFirst) innerX innerY
        next => exact .cons xy (ih le innerX innerY)

theorem forall₂_sorted {first second : List α} (pointwise : List.Forall₂ (· ≤ ·) first second) :
    List.Forall₂ (· ≤ ·) (Compares.sorted first) (Compares.sorted second) := by
  rw [Compares.sorted_eq_insertionSort, Compares.sorted_eq_insertionSort]
  induction pointwise with
  | nil => exact .nil
  | cons le _ ih =>
      exact forall₂_orderedInsert le ih (List.pairwise_insertionSort _ _)
        (List.pairwise_insertionSort _ _)

end Sorting

end Interpolation
