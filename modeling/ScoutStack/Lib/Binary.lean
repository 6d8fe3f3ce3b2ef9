import ScoutStack.Lib.Double
import Mathlib.Algebra.Order.Field.Power
import Mathlib.Data.Int.Log

/-!
# Binary floating-point formats

A result is rounded to so many significant bits, to the nearest number and halves to the even
one.  Below the least exponent the bits get fewer, and what is too large becomes infinite.
-/

namespace Binary

open Double

/-- The significant bits, the exponent of the least unit, and the power of two that is too
large. -/
structure Format where
  precision : ℕ
  least : ℤ
  limit : ℤ
  precision_pos : 0 < precision

/-- IEEE 754 binary64. -/
def binary64 : Format := ⟨53, -1074, 1024, by decide⟩

variable {K : Type*} [Field K] [LinearOrder K] [FloorRing K]

namespace Format

variable (format : Format)

/-- The exponent of the last bit. -/
def exponent (value : K) : ℤ := max (Int.log 2 |value| + 1 - (format.precision : ℤ)) format.least

/-- The nearest number of the format, where there is no limit. -/
def nearest (value : K) : K :=
  roundEven (value / 2 ^ format.exponent value) * 2 ^ format.exponent value

/-- A number in the format. -/
def round (value : K) : Double K :=
  if |format.nearest value| < 2 ^ format.limit then .finite (format.nearest value)
  else .infinite (decide (value < 0))

/-- A result in the format. -/
def rounded : Double K → Double K
  | .finite value => format.round value
  | .infinite negative => .infinite negative
  | .nan => .nan

/-- The number is one of the format. -/
def Represents (value : K) : Prop := format.rounded (.finite value) = .finite value

variable {format} {low high value : K}

theorem eq_nearest_of_round {result : K} (finite : format.round value = .finite result) :
    result = format.nearest value := by
  unfold round at finite
  split at finite
  next => exact (Double.finite.inj finite).symm
  next => contradiction

theorem isFinite_of_rounded {value : Double K} (finite : (format.rounded value).IsFinite) :
    value.IsFinite := by
  cases value with
  | finite value => trivial
  | infinite negative => exact finite
  | nan => exact finite

/-! ## Rounding keeps the order -/

omit [LinearOrder K] [FloorRing K] in
/-- A power of two is a multiple of each smaller one. -/
theorem exists_mul_zpow [CharZero K] {small large : ℤ} (ordered : small ≤ large) :
    ∃ count : ℤ, (2 : K) ^ large = count * 2 ^ small := by
  obtain ⟨more, rfl⟩ := Int.exists_add_of_le ordered
  refine ⟨2 ^ more, ?_⟩
  rw [zpow_add₀ two_ne_zero, zpow_natCast, mul_comm]
  push_cast
  rfl

variable [IsStrictOrderedRing K]

theorem nearest_le_of_le (count : ℤ) (above : value ≤ count * 2 ^ format.exponent value) :
    format.nearest value ≤ count * 2 ^ format.exponent value := by
  have unit : (0 : K) < 2 ^ format.exponent value := zpow_pos two_pos _
  have quotient : value / 2 ^ format.exponent value ≤ (count : K) := by rwa [div_le_iff₀ unit]
  have rounds : roundEven (value / 2 ^ format.exponent value) ≤ count := by
    simpa using roundEven_mono quotient
  exact mul_le_mul_of_nonneg_right (by exact_mod_cast rounds) unit.le

theorem le_nearest_of_le (count : ℤ) (below : count * 2 ^ format.exponent value ≤ value) :
    count * 2 ^ format.exponent value ≤ format.nearest value := by
  have unit : (0 : K) < 2 ^ format.exponent value := zpow_pos two_pos _
  have quotient : (count : K) ≤ value / 2 ^ format.exponent value := by rwa [le_div_iff₀ unit]
  have rounds : count ≤ roundEven (value / 2 ^ format.exponent value) := by
    simpa using roundEven_mono quotient
  exact mul_le_mul_of_nonneg_right (by exact_mod_cast rounds) unit.le

theorem nearest_nonneg (nonneg : 0 ≤ value) : 0 ≤ format.nearest value := by
  have bound : ((0 : ℤ) : K) * 2 ^ format.exponent value ≤ value := by simpa using nonneg
  simpa using le_nearest_of_le 0 bound

theorem nearest_nonpos (nonpos : value ≤ 0) : format.nearest value ≤ 0 := by
  have bound : value ≤ ((0 : ℤ) : K) * 2 ^ format.exponent value := by simpa using nonpos
  simpa using nearest_le_of_le 0 bound

theorem exponent_le_of_abs_le (nonzero : low ≠ 0) (ordered : |low| ≤ |high|) :
    format.exponent low ≤ format.exponent high := by
  have logs : Int.log 2 |low| ≤ Int.log 2 |high| :=
    Int.log_mono_right (abs_pos.mpr nonzero) ordered
  unfold exponent
  omega

/-- Between numbers with different last bits there is a power of two, a multiple of both. -/
theorem exists_between (nonzero : high ≠ 0) (finer : format.exponent low < format.exponent high) :
    ∃ below above : ℤ, |low| ≤ below * 2 ^ format.exponent low ∧
      (below * 2 ^ format.exponent low : K) = above * 2 ^ format.exponent high ∧
      above * 2 ^ format.exponent high ≤ |high| := by
  have positive := format.precision_pos
  have smaller : Int.log 2 |low| + 1 ≤ Int.log 2 |high| := by
    unfold exponent at finer
    omega
  have coarse : format.exponent high ≤ Int.log 2 |high| := by
    unfold exponent at *
    omega
  obtain ⟨below, left⟩ := exists_mul_zpow (K := K) (finer.le.trans coarse)
  obtain ⟨above, right⟩ := exists_mul_zpow (K := K) coarse
  refine ⟨below, above, ?_, left.symm.trans right, ?_⟩
  · rw [← left]
    calc |low| ≤ 2 ^ (Int.log 2 |low| + 1) := by
          simpa using (Int.lt_zpow_succ_log_self one_lt_two |low|).le
      _ ≤ 2 ^ Int.log 2 |high| := zpow_le_zpow_right₀ one_le_two smaller
  · rw [← right]
    simpa using Int.zpow_log_le_self one_lt_two (abs_pos.mpr nonzero)

theorem nearest_le_of_same (same : format.exponent low = format.exponent high)
    (ordered : low ≤ high) : format.nearest low ≤ format.nearest high := by
  have unit : (0 : K) < 2 ^ format.exponent high := zpow_pos two_pos _
  have quotients : low / 2 ^ format.exponent high ≤ high / 2 ^ format.exponent high := by gcongr
  rw [nearest, nearest, same]
  exact mul_le_mul_of_nonneg_right (by exact_mod_cast roundEven_mono quotients) unit.le

theorem nearest_le_of_pos (positive : 0 < low) (ordered : low ≤ high) :
    format.nearest low ≤ format.nearest high := by
  have larger : 0 < high := positive.trans_le ordered
  have sizes : |low| ≤ |high| := by rwa [abs_of_pos positive, abs_of_pos larger]
  rcases (exponent_le_of_abs_le positive.ne' sizes).lt_or_eq with finer | same
  · obtain ⟨below, above, left, middle, right⟩ := exists_between larger.ne' finer
    rw [abs_of_pos positive] at left
    rw [abs_of_pos larger] at right
    calc format.nearest low ≤ below * 2 ^ format.exponent low := nearest_le_of_le below left
      _ = above * 2 ^ format.exponent high := middle
      _ ≤ format.nearest high := le_nearest_of_le above right
  · exact nearest_le_of_same same ordered

theorem nearest_le_of_neg (negative : high < 0) (ordered : low ≤ high) :
    format.nearest low ≤ format.nearest high := by
  have smaller : low < 0 := ordered.trans_lt negative
  have sizes : |high| ≤ |low| := by
    rw [abs_of_neg negative, abs_of_neg smaller]
    exact neg_le_neg ordered
  rcases (exponent_le_of_abs_le negative.ne sizes).lt_or_eq with finer | same
  · obtain ⟨below, above, left, middle, right⟩ := exists_between smaller.ne finer
    rw [abs_of_neg negative] at left
    rw [abs_of_neg smaller] at right
    have first : low ≤ ((-above : ℤ) : K) * 2 ^ format.exponent low := by
      push_cast
      linarith
    have second : ((-below : ℤ) : K) * 2 ^ format.exponent high ≤ high := by
      push_cast
      linarith
    calc format.nearest low ≤ ((-above : ℤ) : K) * 2 ^ format.exponent low :=
          nearest_le_of_le _ first
      _ = ((-below : ℤ) : K) * 2 ^ format.exponent high := by
          push_cast
          linarith
      _ ≤ format.nearest high := le_nearest_of_le _ second
  · exact nearest_le_of_same same.symm ordered

theorem nearest_mono : Monotone (format.nearest : K → K) := by
  intro low high ordered
  rcases lt_or_ge 0 low with positive | nonpos
  · exact nearest_le_of_pos positive ordered
  · rcases lt_or_ge high 0 with negative | nonneg
    · exact nearest_le_of_neg negative ordered
    · exact (nearest_nonpos nonpos).trans (nearest_nonneg nonneg)

@[simp] theorem nearest_zero : format.nearest (0 : K) = 0 :=
  le_antisymm (nearest_nonpos le_rfl) (nearest_nonneg le_rfl)

@[simp] theorem rounded_zero : format.rounded (.finite (0 : K)) = .finite 0 := by
  simp [rounded, round, zpow_pos]

/-- Results are ordered as the exact values are. -/
theorem rounded_mono {left right : K} (first : format.rounded (.finite low) = .finite left)
    (second : format.rounded (.finite high) = .finite right) (ordered : low ≤ high) :
    left ≤ right := by
  rw [eq_nearest_of_round first, eq_nearest_of_round second]
  exact nearest_mono ordered

/-- A value between zero and one with a finite result has a finite result. -/
theorem exists_rounded {right : K} (second : format.rounded (.finite high) = .finite right)
    (nonneg : 0 ≤ low) (ordered : low ≤ high) :
    ∃ left, format.rounded (.finite low) = .finite left ∧ 0 ≤ left ∧ left ≤ right := by
  have below : format.nearest low ≤ format.nearest high := nearest_mono ordered
  have small : |format.nearest low| < 2 ^ format.limit := by
    have bound : |format.nearest high| < 2 ^ format.limit := by
      by_contra large
      simp [rounded, round, large] at second
    rw [abs_of_nonneg (nearest_nonneg nonneg)]
    exact below.trans_lt ((le_abs_self _).trans_lt bound)
  refine ⟨format.nearest low, if_pos small, nearest_nonneg nonneg, ?_⟩
  rwa [eq_nearest_of_round second]

end Format

/-- A result of the type `double`. -/
def double : Double K → Double K := binary64.rounded

end Binary
