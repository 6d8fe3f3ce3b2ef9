import ScoutStack.Lib.Double
import ScoutStack.Lib.Interpolation
import Mathlib.Data.Rat.Floor
import Mathlib.Tactic.NormNum

/-!
# The percentile of a navigation bag

`percentile` of `analyze_nav_bag.py`.  Of a list of numbers it is the interpolation
between the ordered numbers.
-/

namespace ScoutStack.NavBag

open Compares Interpolation

/-- `values[index]`: a negative index counts from the end, `none` for an `IndexError`. -/
def getItem {α : Type} (values : List α) (index : ℤ) : Option α :=
  let place := if 0 ≤ index then index else index + values.length
  if 0 ≤ place then values[place.toNat]? else none

variable {K : Type} [Field K] [LinearOrder K] [FloorRing K]

/-- `k` of `percentile`. -/
def percentileIndex (count : ℕ) (p : K) : K := (count - 1) * p

/-- `percentile`. -/
def percentile (values : List (Double K)) (p : K) : Option (Double K) :=
  if values.isEmpty then some (.finite 0)
  else
    let values := sorted values
    if values.length = 1 then getItem values 0
    else
      let k := percentileIndex values.length p
      let f := ⌊k⌋
      let c := ⌈k⌉
      if f = c then getItem values (Double.truncate k)
      else do
        let low ← getItem values f
        let high ← getItem values c
        some (low * .finite (c - k) + high * .finite (k - f))

omit [LinearOrder K] [FloorRing K] in
theorem getItem_map_finite {values : List K} {index : ℤ} (nonneg : 0 ≤ index)
    (inside : index < values.length) :
    getItem (values.map .finite) index = some (Double.finite (continued values index)) := by
  have bound : index.toNat < values.length := by omega
  have value : continued values (index.toNat : ℤ) = values[index.toNat] :=
    continued_of_lt (List.getElem?_eq_getElem bound)
  rw [Int.toNat_of_nonneg nonneg] at value
  rw [getItem, if_pos nonneg, if_pos nonneg, value]
  simp [bound]

variable [IsStrictOrderedRing K]

theorem percentileIndex_inside {count : ℕ} (positive : 0 < count) {p : K} (nonneg : 0 ≤ p)
    (le_one : p ≤ 1) :
    0 ≤ ⌊percentileIndex count p⌋ ∧ ⌈percentileIndex count p⌉ < count := by
  have one : (1 : K) ≤ count := by exact_mod_cast positive
  have low : 0 ≤ percentileIndex count p := mul_nonneg (by linarith) nonneg
  have high : percentileIndex count p ≤ ((count - 1 : ℤ) : K) := by
    push_cast
    exact mul_le_of_le_one_right (by linarith) le_one
  constructor
  · exact Int.floor_nonneg.mpr low
  · have last := Int.ceil_le.mpr high
    omega

/-- The percentile of numbers is the interpolation between them, in order. -/
theorem percentile_eq {values : List K} (nonempty : values ≠ []) {p : K} (nonneg : 0 ≤ p)
    (le_one : p ≤ 1) :
    percentile (values.map .finite) p =
      some (.finite (interpolate (continued (sorted values)) (percentileIndex values.length p))) := by
  have positive := List.length_pos_iff.mpr nonempty
  obtain ⟨low, high⟩ := percentileIndex_inside positive nonneg le_one
  have order := Int.floor_le_ceil (percentileIndex values.length p)
  have item : ∀ index : ℤ, 0 ≤ index → index < values.length →
      getItem ((sorted values).map .finite) index =
        some (Double.finite (continued (sorted values) index)) := by
    intro index first last
    exact getItem_map_finite first (by simpa using last)
  have some_values : (values.map Double.finite).isEmpty = false := by simp [nonempty]
  rw [percentile, some_values, Double.sorted_map_finite]
  simp only [Bool.false_eq_true, if_false, List.length_map, length_sorted]
  split
  next single =>
    have zero : percentileIndex values.length p = ((0 : ℤ) : K) := by
      simp [percentileIndex, single]
    rw [item 0 le_rfl (by omega), zero, interpolate_intCast]
  next several =>
    split
    next whole =>
      have integral : percentileIndex values.length p = (⌊percentileIndex values.length p⌋ : K) := by
        apply le_antisymm
        · have above := Int.le_ceil (percentileIndex values.length p)
          rw [← whole] at above
          exact above
        · exact Int.floor_le _
      have truncated : Double.truncate (percentileIndex values.length p) =
          ⌊percentileIndex values.length p⌋ := by
        rw [integral, Double.truncate_intCast, Int.floor_intCast]
      rw [truncated, item _ low (by omega)]
      nth_rewrite 2 [integral]
      rw [interpolate_intCast]
    next between =>
      rw [item _ low (by omega), item _ (by omega) high,
        interpolate_of_floor_ne_ceil _ between]
      simp only [Option.bind_eq_bind, Option.bind_some, Double.finite_mul, Double.finite_add]

omit [FloorRing K] in
/-- At `j / (n - 1)` the index is `j`. -/
theorem percentileIndex_fraction {count j : ℕ} (inside : j < count) {p : K}
    (fraction : p = j / (count - 1)) : percentileIndex count p = ((j : ℤ) : K) := by
  rw [percentileIndex, fraction]
  by_cases single : count = 1
  · have first : j = 0 := by omega
    simp [single, first]
  · have two : (1 : K) < count := by exact_mod_cast (by omega : 1 < count)
    have nonzero : (count : K) - 1 ≠ 0 := by linarith
    rw [mul_div_cancel₀ _ nonzero]
    push_cast
    rfl

/-- The percentile of a list of numbers looks only inside the list, lies between two of its
values, and does not depend on their order.  At `j / (n - 1)` it is the `j`-th smallest
value.  A larger fraction or larger values do not lower it. -/
theorem percentile_interpolates {values : List K} (nonempty : values ≠ []) {p : K}
    (nonneg : 0 ≤ p) (le_one : p ≤ 1) :
    ∃ result, percentile (values.map .finite) p = some (.finite result) ∧
      (0 ≤ ⌊percentileIndex values.length p⌋ ∧
        ⌈percentileIndex values.length p⌉ < values.length) ∧
      (∃ low ∈ values, low ≤ result) ∧ (∃ high ∈ values, result ≤ high) ∧
      (∀ other : List K, other.Perm values →
        percentile (other.map .finite) p = some (.finite result)) ∧
      (∀ ordered : List K, ordered.Perm values → ordered.Pairwise (· ≤ ·) →
        ∀ (j : ℕ) (value : K), ordered[j]? = some value → p = j / (values.length - 1) →
          result = value) ∧
      (∀ q higher : K, p ≤ q → q ≤ 1 →
        percentile (values.map .finite) q = some (.finite higher) → result ≤ higher) ∧
      ∀ (raised : List K) (higher : K), List.Forall₂ (· ≤ ·) values raised →
        percentile (raised.map .finite) p = some (.finite higher) → result ≤ higher := by
  have positive := List.length_pos_iff.mpr nonempty
  have monotone := monotone_continued (pairwise_le_sorted values)
  have some_sorted : sorted values ≠ [] := by
    intro empty
    have length := length_sorted values
    rw [empty, List.length_nil] at length
    omega
  refine ⟨_, percentile_eq nonempty nonneg le_one,
    percentileIndex_inside positive nonneg le_one, ?_, ?_, ?_, ?_, ?_, ?_⟩
  · exact ⟨_, mem_sorted.mp (continued_mem some_sorted _), le_interpolate monotone _⟩
  · exact ⟨_, mem_sorted.mp (continued_mem some_sorted _), interpolate_le monotone _⟩
  · intro other same
    have some_other : other ≠ [] := by
      intro empty
      exact nonempty (List.nil_perm.mp (empty ▸ same))
    rw [percentile_eq some_other nonneg le_one, same.length_eq,
      sorted_eq_of_perm same fun value _ => proper_of_linearOrder value]
  · intro ordered same ordered_inOrder j value found fraction
    obtain ⟨inside, _⟩ := List.getElem?_eq_some_iff.mp found
    have place := percentileIndex_fraction (same.length_eq ▸ inside) fraction
    rw [place, interpolate_intCast, sorted_eq_of_ordered same ordered_inOrder]
    exact continued_of_lt found
  · intro q higher further q_le_one computed
    rw [percentile_eq nonempty (nonneg.trans further) q_le_one, Option.some.injEq,
      Double.finite.injEq] at computed
    rw [← computed]
    apply monotone_interpolate monotone
    have one : (1 : K) ≤ values.length := by exact_mod_cast positive
    exact mul_le_mul_of_nonneg_left further (by linarith)
  · intro raised higher pointwise computed
    have some_raised : raised ≠ [] := by
      intro empty
      cases empty
      cases pointwise
      exact nonempty rfl
    rw [percentile_eq some_raised nonneg le_one, Option.some.injEq, Double.finite.injEq] at computed
    rw [← computed, pointwise.length_eq]
    exact interpolate_le_interpolate (continued_le_continued (forall₂_sorted pointwise)) _

theorem percentile_interpolates_three :
    ∃ result : ℚ, percentile ([3, 1, 2].map .finite) (3 / 4) = some (.finite result) ∧
      ∃ low ∈ ([3, 1, 2] : List ℚ), low ≤ result := by
  obtain ⟨result, computed, _, low, _⟩ :=
    @percentile_interpolates ℚ _ _ _ _ [3, 1, 2] (by simp) (3 / 4) (by norm_num) (by norm_num)
  exact ⟨result, computed, low⟩

end ScoutStack.NavBag
