import Mathlib.Algebra.BigOperators.Group.List.Basic
import Mathlib.Algebra.Order.BigOperators.Group.List
import Mathlib.Algebra.Order.Floor.Ring
import Mathlib.Tactic.FieldSimp
import Mathlib.Tactic.Linarith

/-!
# Half-open cells on a line

The points of a line are binned into cells of equal width, cell `k` being
`[k * width, (k + 1) * width)`.  A cell is convex: it contains what lies between
two of its points, and the mean of its points.  Every interval of the length of a
cell contains a multiple of the width.
-/

namespace Cells

variable {K : Type*} [Field K] [LinearOrder K] [FloorRing K]

/-- Number of the cell that contains a point. -/
def cell (width point : K) : ℤ := ⌊point / width⌋

/-- The point lies in a cell, counted from `low`, that begins below `high`. -/
def Covered (low high width point : K) : Prop :=
  ∃ n : ℕ, low + n * width ≤ point ∧ point < low + (n + 1) * width ∧ low + n * width < high

variable [IsStrictOrderedRing K] {width : K} (positive : 0 < width)
include positive

/-- The bounds of a cell. -/
theorem cell_eq_iff {point : K} {k : ℤ} :
    cell width point = k ↔ k * width ≤ point ∧ point < (k + 1) * width := by
  rw [cell, Int.floor_eq_iff, le_div_iff₀ positive, div_lt_iff₀ positive]

theorem cell_mono {left right : K} (ordered : left ≤ right) :
    cell width left ≤ cell width right :=
  Int.floor_mono (div_le_div_of_nonneg_right ordered positive.le)

/-- What lies between two points of a cell is in the cell. -/
theorem cell_of_between {left point right : K} (low : left ≤ point) (high : point ≤ right)
    (same : cell width left = cell width right) : cell width point = cell width left := by
  apply le_antisymm
  · rw [same]
    exact cell_mono positive high
  · exact cell_mono positive low

/-- A line that is in a cell at both ends of a stretch is in it all along. -/
theorem cell_of_line {start slope first middle last : K} (low : first ≤ middle) (high : middle ≤ last)
    (same : cell width (start + slope * first) = cell width (start + slope * last)) :
    cell width (start + slope * middle) = cell width (start + slope * first) := by
  rcases le_total 0 slope with rising | falling
  · apply cell_of_between positive ?_ ?_ same
    · gcongr
    · gcongr
  · have reversed : cell width (start + slope * middle) = cell width (start + slope * last) := by
      apply cell_of_between positive ?_ ?_ same.symm
      · linarith [mul_le_mul_of_nonpos_left high falling]
      · linarith [mul_le_mul_of_nonpos_left low falling]
    rw [reversed, same]

/-- The mean of points of a cell is in the cell. -/
theorem cell_mean {points : List K} (nonempty : points ≠ []) {k : ℤ}
    (inside : ∀ point ∈ points, cell width point = k) :
    cell width (points.sum / points.length) = k := by
  have bounds : ∀ point ∈ points, k * width ≤ point ∧ point < (k + 1) * width :=
    fun point member => (cell_eq_iff positive).mp (inside point member)
  have count : (0 : K) < points.length := by
    exact_mod_cast List.length_pos_of_ne_nil nonempty
  have low : points.length • (k * width) ≤ points.sum :=
    List.card_nsmul_le_sum points (k * width) fun point member => (bounds point member).1
  have high : (points.map id).sum < (points.map fun _ => (k + 1) * width).sum :=
    List.sum_lt_sum_of_ne_nil nonempty _ _ fun point member => (bounds point member).2
  rw [cell_eq_iff positive, le_div_iff₀ count, div_lt_iff₀ count]
  constructor
  · rw [nsmul_eq_mul] at low
    linarith
  · rw [List.map_id, List.map_const', List.sum_replicate, nsmul_eq_mul] at high
    linarith

/-- An interval that is as long as a cell contains a multiple of the width. -/
theorem exists_multiple {left right : K} (nonneg : 0 ≤ left) (long : left + width ≤ right) :
    ∃ n : ℕ, 1 ≤ n ∧ left ≤ n * width ∧ n * width ≤ right := by
  have floor := (cell_eq_iff positive).mp (Eq.refl (cell width left))
  have first : 0 ≤ cell width left := Int.floor_nonneg.mpr (div_nonneg nonneg positive.le)
  obtain ⟨n, count⟩ := Int.eq_ofNat_of_zero_le first
  rw [count, Int.cast_natCast] at floor
  refine ⟨n + 1, Nat.le_add_left 1 n, ?_, ?_⟩
  · push_cast
    exact floor.2.le
  · push_cast
    linarith [floor.1]

/-- The cells that begin below `high` are as many as it takes to reach `high`. -/
theorem covered_iff {low high point : K} :
    Covered low high width point ↔
      0 ≤ cell width (point - low) ∧ cell width (point - low) < ⌈(high - low) / width⌉ := by
  rw [Int.lt_ceil, lt_div_iff₀ positive]
  constructor
  · rintro ⟨n, above, below, begins⟩
    have same : cell width (point - low) = n := by
      rw [cell_eq_iff positive]
      push_cast
      constructor <;> linarith
    rw [same]
    push_cast
    exact ⟨Int.natCast_nonneg n, by linarith⟩
  · rintro ⟨nonneg, begins⟩
    obtain ⟨n, count⟩ := Int.eq_ofNat_of_zero_le nonneg
    have bounds := (cell_eq_iff positive).mp count
    rw [count] at begins
    push_cast at bounds begins
    exact ⟨n, by linarith, by linarith, by linarith⟩

/-- A point that keeps a margin to the upper bound is covered. -/
theorem covered_of_lt {low high point : K} (above : low ≤ point) (below : point < high) :
    Covered low high width point := by
  apply (covered_iff positive).mpr
  constructor
  · exact Int.floor_nonneg.mpr (div_nonneg (sub_nonneg.mpr above) positive.le)
  · rw [Int.lt_ceil]
    calc (cell width (point - low) : K) ≤ (point - low) / width := Int.floor_le _
      _ < (high - low) / width := by gcongr

/-- The upper bound itself is covered unless it is the end of a cell. -/
theorem covered_self_iff {low high : K} (ordered : low ≤ high) :
    Covered low high width high ↔ ∀ n : ℕ, high ≠ low + n * width := by
  constructor
  · rintro ⟨n, _, below, begins⟩ m equal
    rw [equal] at below begins
    have more : (n : K) * width < m * width := by linarith
    have less : (m : K) * width < (n + 1) * width := by linarith
    have left : (n : K) < m := lt_of_mul_lt_mul_right more positive.le
    have right : (m : K) < n + 1 := lt_of_mul_lt_mul_right less positive.le
    norm_cast at left right
    omega
  · intro apart
    have nonneg : 0 ≤ cell width (high - low) :=
      Int.floor_nonneg.mpr (div_nonneg (sub_nonneg.mpr ordered) positive.le)
    obtain ⟨n, count⟩ := Int.eq_ofNat_of_zero_le nonneg
    have bounds := (cell_eq_iff positive).mp count
    push_cast at bounds
    have reach : low + n * width ≤ high := by linarith
    exact ⟨n, reach, by linarith, lt_of_le_of_ne reach (Ne.symm (apart n))⟩

/-- Which points between the bounds are covered. -/
theorem covered_iff_of_le {low high point : K} (above : low ≤ point) (below : point ≤ high) :
    Covered low high width point ↔ point < high ∨ ∀ n : ℕ, high ≠ low + n * width := by
  rcases below.lt_or_eq with strict | same
  · exact iff_of_true (covered_of_lt positive above strict) (.inl strict)
  · subst same
    rw [covered_self_iff positive above]
    exact ⟨.inr, fun either => either.resolve_left (lt_irrefl _)⟩

end Cells
