import ScoutStack.Lib.Compares
import ScoutStack.Lib.Numerals
import Mathlib.Algebra.Order.Floor.Ring
import Mathlib.Algebra.Order.Round
import Mathlib.Tactic.FieldSimp
import Mathlib.Tactic.Linarith
import Mathlib.Tactic.Ring

/-!
# Floating-point numbers before rounding

A `double` is a number of an ordered field, an infinity or not a number.  The operations
give the exact result, which a format may round; infinities and NaN follow IEEE 754.  There
is one zero, with the sign of `+0`.
-/

/-- A number, an infinity with its sign, or not a number. -/
inductive Double (K : Type*) where
  | finite (value : K)
  | infinite (negative : Bool)
  | nan
  deriving DecidableEq

namespace Double

variable {K : Type*}

/-- A number, neither infinite nor NaN. -/
def IsFinite : Double K → Prop
  | finite _ => True
  | _ => False

instance : DecidablePred (IsFinite : Double K → Prop)
  | finite _ => .isTrue trivial
  | infinite _ => .isFalse not_false
  | nan => .isFalse not_false

theorem isFinite_iff {value : Double K} : value.IsFinite ↔ ∃ number, value = finite number := by
  cases value <;> simp [IsFinite]

/-- The number, zero when there is none. -/
def number [Zero K] : Double K → K
  | finite value => value
  | _ => 0

/-- The number, where there is one. -/
def number? : Double K → Option K
  | finite value => some value
  | _ => none

theorem number?_eq_some_iff {value : Double K} {number : K} :
    value.number? = some number ↔ value = finite number := by
  cases value <;> simp [number?]

section Order

variable [LinearOrder K]

/-- `left < right`, false when a side is not a number. -/
def less : Double K → Double K → Bool
  | finite left, finite right => decide (left < right)
  | infinite left, infinite right => left && !right
  | infinite left, finite _ => left
  | finite _, infinite right => !right
  | nan, _ => false
  | _, nan => false

/-- `left <= right`, false when a side is not a number. -/
def lessEqual : Double K → Double K → Bool
  | finite left, finite right => decide (left ≤ right)
  | infinite left, infinite right => left || !right
  | infinite left, finite _ => left
  | finite _, infinite right => !right
  | nan, _ => false
  | _, nan => false

/-- `std::min`. -/
def min (left right : Double K) : Double K := if less right left then right else left

/-- `std::max`. -/
def max (left right : Double K) : Double K := if less left right then right else left

@[simp] theorem min_finite (left right : K) :
    min (finite left) (finite right) = finite (Min.min left right) := by
  by_cases smaller : right < left
  · simp [min, less, smaller, min_eq_right smaller.le]
  · simp [min, less, smaller, min_eq_left (not_lt.mp smaller)]

@[simp] theorem max_finite (left right : K) :
    max (finite left) (finite right) = finite (Max.max left right) := by
  by_cases smaller : left < right
  · simp [max, less, smaller, max_eq_right smaller.le]
  · simp [max, less, smaller, max_eq_left (not_lt.mp smaller)]

@[simp] theorem min_infinite (value : K) :
    min (infinite false) (finite value) = finite value := rfl

@[simp] theorem max_infinite (value : K) :
    max (infinite true) (finite value) = finite value := rfl

/-- `left == right`, false when a side is not a number. -/
def equal : Double K → Double K → Bool
  | finite left, finite right => decide (left = right)
  | infinite left, infinite right => left == right
  | _, _ => false

instance : Compares (Double K) := ⟨less, equal⟩

theorem proper_iff {value : Double K} : Compares.Proper value ↔ value ≠ nan := by
  cases value <;> simp [Compares.Proper, Compares.equal, equal]

instance : Compares.Lawful (Double K) where
  eq_of_equal {a b} same := by
    cases a <;> cases b <;> simp_all [Compares.equal, equal]
  irrefl a := by
    cases a <;> simp [Compares.less, less]
  trans {a b c} first second := by
    cases a <;> cases b <;> cases c <;> simp_all [Compares.less, less]
    exact first.trans second
  connected {a b} left right above below := by
    rw [proper_iff] at left right
    cases a with
    | nan => exact absurd rfl left
    | finite a =>
        cases b with
        | nan => exact absurd rfl right
        | finite b =>
            simp only [Compares.less, less, decide_eq_false_iff_not, not_lt] at above below
            simpa [Compares.equal, equal] using le_antisymm below above
        | infinite b => cases b <;> simp_all [Compares.less, less]
    | infinite a =>
        cases b with
        | nan => exact absurd rfl right
        | finite b => cases a <;> simp_all [Compares.less, less]
        | infinite b => cases a <;> cases b <;> simp_all [Compares.less, less, Compares.equal, equal]

/-- Sorting finite doubles is sorting their numbers. -/
theorem sorted_map_finite (values : List K) :
    Compares.sorted (values.map finite) = (Compares.sorted values).map finite := by
  symm
  apply List.map_insertionSort
  intro a _ b _
  rfl

end Order

section Arithmetic

variable [Field K]

def add : Double K → Double K → Double K
  | finite left, finite right => finite (left + right)
  | nan, _ => nan
  | _, nan => nan
  | infinite left, infinite right => if left = right then infinite left else nan
  | infinite left, finite _ => infinite left
  | finite _, infinite right => infinite right

def neg : Double K → Double K
  | finite value => finite (-value)
  | infinite negative => infinite (!negative)
  | nan => nan

instance : Add (Double K) := ⟨add⟩

instance : Sub (Double K) := ⟨fun left right => add left (neg right)⟩

@[simp] theorem finite_add (left right : K) :
    finite left + finite right = finite (left + right) := rfl

@[simp] theorem finite_sub (left right : K) :
    finite left - finite right = finite (left - right) := by
  rw [sub_eq_add_neg]
  rfl

theorem IsFinite.of_add {left right : Double K} (sum : (left + right).IsFinite) :
    left.IsFinite ∧ right.IsFinite := by
  change (add left right).IsFinite at sum
  cases left with
  | finite left => cases right <;> first | exact ⟨trivial, trivial⟩ | exact sum.elim
  | infinite left =>
      cases right with
      | infinite right =>
          simp only [add] at sum
          split at sum <;> exact sum.elim
      | finite right => exact sum.elim
      | nan => exact sum.elim
  | nan => exact sum.elim

theorem IsFinite.of_sub {left right : Double K} (difference : (left - right).IsFinite) :
    left.IsFinite ∧ right.IsFinite := by
  have sides := @IsFinite.of_add K _ left (neg right) difference
  refine ⟨sides.1, ?_⟩
  cases right with
  | finite right => trivial
  | infinite negative => exact sides.2.elim
  | nan => exact sides.2.elim

variable [LinearOrder K]

/-- `std::fabs`. -/
def abs : Double K → Double K
  | finite value => finite |value|
  | infinite _ => infinite false
  | nan => nan

@[simp] theorem abs_finite (value : K) : abs (finite value) = finite |value| := rfl

/-- The product of zero and an infinity is not a number. -/
def mul : Double K → Double K → Double K
  | nan, _ => nan
  | _, nan => nan
  | finite left, finite right => finite (left * right)
  | infinite left, infinite right => infinite (left != right)
  | infinite negative, finite factor =>
      if factor = 0 then nan else infinite (negative != decide (factor < 0))
  | finite factor, infinite negative =>
      if factor = 0 then nan else infinite (negative != decide (factor < 0))

instance : Mul (Double K) := ⟨mul⟩

@[simp] theorem finite_mul (left right : K) :
    finite left * finite right = finite (left * right) := rfl

/-- A quotient by zero is infinite, with the sign of the dividend. -/
def div : Double K → Double K → Double K
  | nan, _ => nan
  | _, nan => nan
  | infinite _, infinite _ => nan
  | finite _, infinite _ => finite 0
  | infinite negative, finite divisor => infinite (negative != decide (divisor < 0))
  | finite dividend, finite divisor =>
      if divisor = 0 then
        if dividend = 0 then nan else infinite (decide (dividend < 0))
      else finite (dividend / divisor)

instance : Div (Double K) := ⟨div⟩

theorem finite_div (dividend : K) {divisor : K} (nonzero : divisor ≠ 0) :
    finite dividend / finite divisor = finite (dividend / divisor) :=
  if_neg nonzero

theorem IsFinite.of_div {dividend divisor : Double K} (quotient : (dividend / divisor).IsFinite) :
    dividend.IsFinite := by
  change (div dividend divisor).IsFinite at quotient
  cases dividend with
  | finite dividend => trivial
  | infinite negative => cases divisor <;> exact quotient.elim
  | nan => exact quotient.elim

theorem not_isFinite_div_zero (dividend : K) : ¬(finite dividend / finite 0).IsFinite := by
  change ¬(div (finite dividend) (finite 0)).IsFinite
  simp only [div, if_true]
  split <;> exact not_false

@[simp] theorem finite_div_infinite (dividend : K) (negative : Bool) :
    finite dividend / (infinite negative : Double K) = finite 0 := rfl

end Arithmetic

section Rounding

variable [Field K] [LinearOrder K] [FloorRing K]

/-- The nearest integer, halves away from zero. -/
def roundAway (value : K) : ℤ := if 0 ≤ value then ⌊value + 1 / 2⌋ else ⌈value - 1 / 2⌉

/-- The nearest integer, halves to the even one. -/
def roundEven (value : K) : ℤ :=
  if Int.fract value < 1 / 2 then ⌊value⌋
  else if 1 / 2 < Int.fract value then ⌊value⌋ + 1
  else if ⌊value⌋ % 2 = 0 then ⌊value⌋ else ⌊value⌋ + 1

/-- The integer part, towards zero. -/
def truncate (value : K) : ℤ := if 0 ≤ value then ⌊value⌋ else ⌈value⌉

/-- Rounds a number; infinities and NaN stay as they are. -/
def roundBy (rounding : K → ℤ) : Double K → Double K
  | finite value => finite (rounding value)
  | infinite negative => infinite negative
  | nan => nan

/-- `std::floor`. -/
def floor : Double K → Double K := roundBy Int.floor

/-- `std::ceil`. -/
def ceil : Double K → Double K := roundBy Int.ceil

/-- `std::round`. -/
def round : Double K → Double K := roundBy roundAway

variable [IsStrictOrderedRing K]

@[simp] theorem truncate_intCast (value : ℤ) : truncate (value : K) = value := by
  simp [truncate]

theorem roundAway_nonneg {value : K} : 0 ≤ roundAway value ↔ -1 / 2 < value := by
  unfold roundAway
  split
  next nonneg =>
    have rounded : 0 ≤ ⌊value + 1 / 2⌋ := Int.floor_nonneg.mpr (by linarith)
    constructor
    · intro _
      linarith
    · intro _
      exact rounded
  next negative =>
    have step : 0 ≤ ⌈value - 1 / 2⌉ ↔ -1 < ⌈value - 1 / 2⌉ := by omega
    rw [step, Int.lt_ceil]
    push_cast
    constructor <;> intro bound <;> linarith

omit [IsStrictOrderedRing K] in
theorem floor_le_roundEven (value : K) : ⌊value⌋ ≤ roundEven value := by
  unfold roundEven
  split_ifs <;> omega

omit [IsStrictOrderedRing K] in
theorem roundEven_le (value : K) : roundEven value ≤ ⌊value⌋ + 1 := by
  unfold roundEven
  split_ifs <;> omega

/-- Rounding to the even integer moves a number by at most one half. -/
theorem abs_roundEven_sub_le (value : K) : |(roundEven value : K) - value| ≤ 1 / 2 := by
  have split : (⌊value⌋ : K) + Int.fract value = value := Int.floor_add_fract value
  have nonneg : 0 ≤ Int.fract value := Int.fract_nonneg value
  have below : Int.fract value < 1 := Int.fract_lt_one value
  rw [abs_le]
  unfold roundEven
  split_ifs with low high even
  · constructor <;> linarith
  · push_cast
    constructor <;> linarith
  · constructor <;> linarith
  · push_cast
    constructor <;> linarith

@[simp] theorem roundEven_intCast (value : ℤ) : roundEven (value : K) = value := by
  simp [roundEven]

theorem roundEven_mono {low high : K} (ordered : low ≤ high) : roundEven low ≤ roundEven high := by
  by_contra crossed
  have step : (roundEven high : K) + 1 ≤ roundEven low := by
    exact_mod_cast Int.add_one_le_of_lt (not_le.mp crossed)
  have errorLow := abs_le.mp (abs_roundEven_sub_le low)
  have errorHigh := abs_le.mp (abs_roundEven_sub_le high)
  have same : low = high := by linarith
  exact crossed (same ▸ le_rfl)

end Rounding

end Double
