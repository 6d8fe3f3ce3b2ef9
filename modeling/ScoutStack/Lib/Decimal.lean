import ScoutStack.Lib.Double
import Mathlib.Data.Int.Log
import Mathlib.Data.List.DropRight
import Mathlib.Data.Nat.Digits.Lemmas

/-!
# Decimal numbers in text

Integers are printed in full.  A floating-point number is printed the way C prints it
with `%g`: six significant digits, rounded to the nearest (ties to even), in fixed or
scientific notation, with trailing zeros of the fraction removed.  Reading a printed
number gives the number rounded to six significant digits.
-/

namespace Decimal

/-- Text as its bytes. -/
abbrev Bytes := List UInt8

def ascii (character : Char) : UInt8 := UInt8.ofNat character.toNat

/-- The byte of a decimal digit. -/
def digit (value : ℕ) : UInt8 := UInt8.ofNat (48 + value)

def isDigit (byte : UInt8) : Bool := 48 ≤ byte.toNat && byte.toNat ≤ 57

def digitValue (byte : UInt8) : ℕ := byte.toNat - 48

/-- The number that a list of digits denotes, the most significant digit first. -/
def number (digits : List ℕ) : ℕ := Nat.ofDigits 10 digits.reverse

/-- The digits of a number, the most significant first. -/
def digitsOf (value : ℕ) : List ℕ := if value = 0 then [0] else (Nat.digits 10 value).reverse

def printNat (value : ℕ) : Bytes := (digitsOf value).map digit

/-- `operator<<(int)`. -/
def printInt (value : ℤ) : Bytes :=
  if value < 0 then ascii '-' :: printNat value.natAbs else printNat value.natAbs

/-- The digits at the start of a text, and the text after them. -/
def scanDigits (text : Bytes) : List ℕ × Bytes :=
  ((text.takeWhile isDigit).map digitValue, text.dropWhile isDigit)

/-- A text of which no digit can be read. -/
def NoDigit (text : Bytes) : Prop := ∀ byte ∈ text.head?, isDigit byte = false

theorem isDigit_digit {value : ℕ} (small : value < 10) : isDigit (digit value) = true := by
  have bound : (48 + value) % 256 = 48 + value := by omega
  simp only [isDigit, digit, UInt8.toNat_ofNat', Bool.and_eq_true, decide_eq_true_eq]
  omega

theorem digitValue_digit {value : ℕ} (small : value < 10) : digitValue (digit value) = value := by
  have bound : (48 + value) % 256 = 48 + value := by omega
  simp only [digitValue, digit, UInt8.toNat_ofNat']
  omega

theorem number_append (left right : List ℕ) :
    number (left ++ right) = number left * 10 ^ right.length + number right := by
  simp only [number, List.reverse_append, Nat.ofDigits_append, List.length_reverse]
  ring

theorem number_concat (digits : List ℕ) (last : ℕ) :
    number (digits ++ [last]) = number digits * 10 + last := by
  rw [number, List.reverse_append, List.reverse_singleton, List.singleton_append,
    Nat.ofDigits_cons, number]
  ring

theorem number_zeros (count : ℕ) : number (List.replicate count 0) = 0 := by
  simp [number]

theorem number_digitsOf (value : ℕ) : number (digitsOf value) = value := by
  unfold digitsOf
  split
  next zero => simp [number, zero]
  next => simp [number, Nat.ofDigits_digits]

theorem lt_of_mem_digitsOf {value d : ℕ} (member : d ∈ digitsOf value) : d < 10 := by
  unfold digitsOf at member
  split at member
  next => simp_all
  next =>
    rw [List.mem_reverse] at member
    exact Nat.digits_lt_base (by decide) member

theorem digitsOf_ne_nil (value : ℕ) : digitsOf value ≠ [] := by
  unfold digitsOf
  split
  next => simp
  next positive =>
    rw [ne_eq, List.reverse_eq_nil_iff, Nat.digits_eq_nil_iff_eq_zero]
    exact positive

/-- Scanning undoes the printing of digits. -/
theorem scanDigits_digits {digits : List ℕ} (small : ∀ d ∈ digits, d < 10) {rest : Bytes}
    (stop : NoDigit rest) : scanDigits (digits.map digit ++ rest) = (digits, rest) := by
  have every : ∀ byte ∈ digits.map digit, isDigit byte = true := by
    intro byte member
    rcases List.mem_map.mp member with ⟨d, inside, rfl⟩
    exact isDigit_digit (small d inside)
  have values : (digits.map digit).map digitValue = digits := by
    rw [List.map_map]
    conv_rhs => rw [← List.map_id digits]
    apply List.map_congr_left
    intro d member
    exact digitValue_digit (small d member)
  have none : rest.takeWhile isDigit = [] ∧ rest.dropWhile isDigit = rest := by
    cases rest with
    | nil => exact ⟨rfl, rfl⟩
    | cons byte rest =>
        have fails : isDigit byte = false := stop byte rfl
        simp [fails]
  simp [scanDigits, List.takeWhile_append_of_pos every, List.dropWhile_append_of_pos every,
    values, none]

/-- Reads a number at the start of a text. -/
def readNat (text : Bytes) : Option (ℕ × Bytes) :=
  match scanDigits text with
  | ([], _) => none
  | (digits, rest) => some (number digits, rest)

theorem readNat_printNat (value : ℕ) {rest : Bytes} (stop : NoDigit rest) :
    readNat (printNat value ++ rest) = some (value, rest) := by
  have scanned : scanDigits (printNat value ++ rest) = (digitsOf value, rest) :=
    scanDigits_digits (fun d => lt_of_mem_digitsOf) stop
  have nonempty := digitsOf_ne_nil value
  have same := number_digitsOf value
  rw [readNat, scanned]
  cases digits : digitsOf value with
  | nil => exact absurd digits nonempty
  | cons first others =>
      rw [digits] at same
      simp only [same]

/-- Removes the zeros at the end. -/
def stripZeros (digits : List ℕ) : List ℕ := digits.rdropWhile (· == 0)

/-- A point and the digits after it, or nothing. -/
def fraction : List ℕ → Bytes
  | [] => []
  | d :: digits => ascii '.' :: (d :: digits).map digit

def fixed (whole frac : List ℕ) : Bytes := whole.map digit ++ fraction (stripZeros frac)

/-- An exponent has at least two digits. -/
def exponentDigits (value : ℕ) : List ℕ := if value < 10 then [0, value] else digitsOf value

def exponentText (exponent : ℤ) : Bytes :=
  ascii 'e' :: ascii (if exponent < 0 then '-' else '+') ::
    (exponentDigits exponent.natAbs).map digit

/-- `%g` of `significand * 10 ^ (exponent - 5)`, the significand having six digits. -/
def general (significand : ℕ) (exponent : ℤ) : Bytes :=
  let digits := digitsOf significand
  if exponent < -4 ∨ 6 ≤ exponent then
    fixed (digits.take 1) (digits.drop 1) ++ exponentText exponent
  else if exponent < 0 then
    fixed [0] (List.replicate (-exponent - 1).toNat 0 ++ digits)
  else fixed (digits.take (exponent + 1).toNat) (digits.drop (exponent + 1).toNat)

/-- Reads a text that holds a number and nothing else. -/
def readWhole (text : Bytes) : Option ℤ :=
  match readNat text with
  | some (value, []) => some value
  | _ => none

def readSigned : Bytes → Option ℤ
  | [] => none
  | sign :: rest =>
      if sign = ascii '-' then (readWhole rest).map (-·)
      else if sign = ascii '+' then readWhole rest
      else readWhole (sign :: rest)

def readFraction : Bytes → List ℕ × Bytes
  | [] => ([], [])
  | byte :: rest => if byte = ascii '.' then scanDigits rest else ([], byte :: rest)

def readExponent : Bytes → Option ℤ
  | [] => some 0
  | byte :: rest => if byte = ascii 'e' then readSigned rest else none

section Reading

variable {K : Type*} [Field K]

def readUnsigned (text : Bytes) : Option K :=
  let whole := scanDigits text
  let frac := readFraction whole.2
  if whole.1 = [] then none
  else (readExponent frac.2).map fun exponent : ℤ =>
    (number (whole.1 ++ frac.1) : K) * 10 ^ (exponent - frac.1.length)

/-- Reads a decimal number, in fixed or scientific notation. -/
def readDecimal : Bytes → Option K
  | [] => none
  | byte :: rest =>
      if byte = ascii '-' then (readUnsigned rest).map (-·) else readUnsigned (byte :: rest)

theorem number_stripZeros [CharZero K] (whole frac : List ℕ) (exponent : ℤ) :
    (number (whole ++ stripZeros frac) : K) * 10 ^ (exponent - (stripZeros frac).length) =
      number (whole ++ frac) * 10 ^ (exponent - frac.length) := by
  induction frac using List.reverseRecOn with
  | nil => rfl
  | append_singleton frac last ih =>
      unfold stripZeros at ih ⊢
      rw [List.rdropWhile_concat]
      split
      next zero =>
        obtain rfl : last = 0 := by simpa using zero
        have ten : (10 : K) ≠ 0 := by norm_num
        have place : exponent - (frac.length : ℤ) = exponent - (frac ++ [0]).length + 1 := by
          rw [List.length_append, List.length_singleton]
          push_cast
          ring
        rw [ih, ← List.append_assoc, number_concat, place, zpow_add_one₀ ten]
        push_cast
        ring
      next => rfl

theorem noDigit_of_readExponent {text : Bytes} {exponent : ℤ}
    (read : readExponent text = some exponent) : NoDigit text := by
  cases text with
  | nil => intro byte member; cases member
  | cons first rest =>
      simp only [readExponent] at read
      split at read
      next letter =>
        intro byte member
        cases member
        rw [letter]
        decide
      next => contradiction

theorem readFraction_of_readExponent {text : Bytes} {exponent : ℤ}
    (read : readExponent text = some exponent) : readFraction text = ([], text) := by
  cases text with
  | nil => rfl
  | cons first rest =>
      simp only [readExponent] at read
      split at read
      next letter =>
        have other : first ≠ ascii '.' := by
          rw [letter]
          decide
        simp [readFraction, other]
      next => contradiction

theorem readFraction_fraction {digits : List ℕ} (small : ∀ d ∈ digits, d < 10) {text : Bytes}
    {exponent : ℤ} (read : readExponent text = some exponent) :
    readFraction (fraction digits ++ text) = (digits, text) := by
  cases digits with
  | nil => exact readFraction_of_readExponent read
  | cons d digits =>
      simp only [fraction, List.cons_append, readFraction, if_true]
      exact scanDigits_digits small (noDigit_of_readExponent read)

/-- Reading a number in fixed notation with an exponent after it. -/
theorem readUnsigned_fixed [CharZero K] {whole frac : List ℕ} (nonempty : whole ≠ [])
    (smallWhole : ∀ d ∈ whole, d < 10) (smallFrac : ∀ d ∈ frac, d < 10) {text : Bytes}
    {exponent : ℤ} (read : readExponent text = some exponent) :
    readUnsigned (fixed whole frac ++ text) =
      some ((number (whole ++ frac) : K) * 10 ^ (exponent - frac.length)) := by
  have smallStripped : ∀ d ∈ stripZeros frac, d < 10 := fun d member =>
    smallFrac d ((List.rdropWhile_prefix _ _).subset member)
  have stop : NoDigit (fraction (stripZeros frac) ++ text) := by
    cases stripZeros frac with
    | nil => exact noDigit_of_readExponent read
    | cons d digits =>
        intro byte member
        cases member
        decide
  have scanned := scanDigits_digits smallWhole stop
  have rest := readFraction_fraction smallStripped read
  simp only [readUnsigned, fixed, List.append_assoc, scanned, rest, read, if_neg nonempty,
    Option.map_some, number_stripZeros]

theorem readDecimal_of_readUnsigned {text : Bytes} {value : K}
    (read : readUnsigned text = some value) : readDecimal text = some value := by
  cases text with
  | nil => simp [readUnsigned, scanDigits] at read
  | cons byte rest =>
      have unsigned : byte ≠ ascii '-' := by
        intro minus
        have stop : isDigit byte = false := by
          rw [minus]
          decide
        simp [readUnsigned, scanDigits, stop] at read
      rw [readDecimal, if_neg unsigned]
      exact read

theorem readWhole_digits {digits : List ℕ} (nonempty : digits ≠ [])
    (small : ∀ d ∈ digits, d < 10) :
    readWhole (digits.map digit) = some (number digits : ℤ) := by
  have stop : NoDigit [] := fun byte member => by cases member
  have scanned := scanDigits_digits small stop
  rw [List.append_nil] at scanned
  cases digits with
  | nil => exact absurd rfl nonempty
  | cons d digits => simp only [readWhole, readNat, scanned]

theorem readExponent_exponentText (exponent : ℤ) :
    readExponent (exponentText exponent) = some exponent := by
  have small : ∀ d ∈ exponentDigits exponent.natAbs, d < 10 := by
    unfold exponentDigits
    split
    next few => simpa using few
    next => exact fun d => lt_of_mem_digitsOf
  have nonempty : exponentDigits exponent.natAbs ≠ [] := by
    unfold exponentDigits
    split
    next => simp
    next => exact digitsOf_ne_nil _
  have value : number (exponentDigits exponent.natAbs) = exponent.natAbs := by
    unfold exponentDigits
    split
    next => simp [number, Nat.ofDigits]
    next => exact number_digitsOf _
  have read := readWhole_digits nonempty small
  rw [value] at read
  simp only [exponentText, readExponent, if_true]
  by_cases negative : exponent < 0
  · simp only [if_pos negative, readSigned, if_true, read, Option.map_some]
    congr 1
    omega
  · have other : ascii '+' ≠ ascii '-' := by decide
    simp only [if_neg negative, readSigned, if_neg other, if_true, read]
    congr 1
    omega

/-- A number of six digits has six digits. -/
theorem length_digitsOf {value : ℕ} (low : 10 ^ 5 ≤ value) (high : value < 10 ^ 6) :
    (digitsOf value).length = 6 := by
  have positive : value ≠ 0 := by omega
  rw [digitsOf, if_neg positive, List.length_reverse]
  apply le_antisymm
  · exact (Nat.digits_length_le_iff (by decide) value).mpr high
  · exact (Nat.lt_digits_length_iff (by decide) value).mpr low

/-- Reading undoes `%g`. -/
theorem readUnsigned_general [CharZero K] {significand : ℕ} (low : 10 ^ 5 ≤ significand)
    (high : significand < 10 ^ 6) (exponent : ℤ) :
    readUnsigned (general significand exponent) =
      some ((significand : K) * 10 ^ (exponent - 5)) := by
  have length := length_digitsOf low high
  have small : ∀ d ∈ digitsOf significand, d < 10 := fun d => lt_of_mem_digitsOf
  have value := number_digitsOf significand
  have smallTake : ∀ n, ∀ d ∈ (digitsOf significand).take n, d < 10 := fun n d member =>
    small d (List.mem_of_mem_take member)
  have smallDrop : ∀ n, ∀ d ∈ (digitsOf significand).drop n, d < 10 := fun n d member =>
    small d (List.mem_of_mem_drop member)
  have nonemptyTake : ∀ n, 0 < n → (digitsOf significand).take n ≠ [] := by
    intro n positive empty
    rcases List.take_eq_nil_iff.mp empty with none | none
    · omega
    · exact digitsOf_ne_nil _ none
  unfold general
  split_ifs with scientific fractional
  · rw [readUnsigned_fixed (nonemptyTake 1 (by decide)) (smallTake 1) (smallDrop 1)
      (readExponent_exponentText exponent), List.take_append_drop, value, List.length_drop, length]
    norm_num
  · have zeros : ∀ d ∈ List.replicate (-exponent - 1).toNat 0 ++ digitsOf significand, d < 10 := by
      intro d member
      rcases List.mem_append.mp member with zero | digit
      · rw [List.eq_of_mem_replicate zero]
        decide
      · exact small d digit
    have whole : number ([0] ++ (List.replicate (-exponent - 1).toNat 0 ++ digitsOf significand)) =
        significand := by
      rw [number_append, number_append, number_zeros, value]
      simp [number]
    have places : (0 : ℤ) - (List.replicate (-exponent - 1).toNat 0 ++ digitsOf significand).length
        = exponent - 5 := by
      rw [List.length_append, List.length_replicate, length]
      omega
    rw [← List.append_nil (fixed _ _), readUnsigned_fixed (by decide) (by decide) zeros rfl, whole,
      places]
  · have places : (0 : ℤ) - ((digitsOf significand).drop (exponent + 1).toNat).length =
        exponent - 5 := by
      rw [List.length_drop, length]
      omega
    rw [← List.append_nil (fixed _ _), readUnsigned_fixed (nonemptyTake _ (by omega))
      (smallTake _) (smallDrop _) rfl, List.take_append_drop, value, places]

end Reading

section Printing

variable {K : Type*} [Field K] [LinearOrder K] [FloorRing K] [IsStrictOrderedRing K]

/-- The six significant digits of a positive number and its decimal exponent. -/
def significant (value : K) : ℕ × ℤ :=
  let exponent := Int.log 10 value
  let rounded := Double.roundEven (value / 10 ^ (exponent - 5))
  if rounded = 10 ^ 6 then (10 ^ 5, exponent + 1) else (rounded.toNat, exponent)

/-- A number rounded to six significant digits. -/
def sixDigits (value : K) : K :=
  if value = 0 then 0
  else if value < 0 then
    -((significant (-value)).1 * 10 ^ ((significant (-value)).2 - 5))
  else (significant value).1 * 10 ^ ((significant value).2 - 5)

/-- `operator<<(double)` of a stream with its default format. -/
def printDouble : Double K → Bytes
  | .nan => [ascii 'n', ascii 'a', ascii 'n']
  | .infinite false => [ascii 'i', ascii 'n', ascii 'f']
  | .infinite true => [ascii '-', ascii 'i', ascii 'n', ascii 'f']
  | .finite value =>
      if value = 0 then [ascii '0']
      else if value < 0 then
        ascii '-' :: general (significant (-value)).1 (significant (-value)).2
      else general (significant value).1 (significant value).2

/-- The rounded digits are six, and they are within half a unit of the last one. -/
theorem significant_spec {value : K} (positive : 0 < value) :
    10 ^ 5 ≤ (significant value).1 ∧ (significant value).1 < 10 ^ 6 ∧
      |((significant value).1 : K) * 10 ^ ((significant value).2 - 5) - value| ≤
        1 / 2 * 10 ^ (Int.log 10 value - 5) := by
  have ten : (10 : K) ≠ 0 := by norm_num
  have base : ((10 : ℕ) : K) = 10 := by norm_num
  have above := Int.zpow_log_le_self (by decide : 1 < 10) positive
  have below := Int.lt_zpow_succ_log_self (by decide : 1 < 10) value
  rw [base] at above below
  simp only [significant]
  generalize Int.log 10 value = exponent at above below ⊢
  have unit : (0 : K) < 10 ^ (exponent - 5) := zpow_pos (by norm_num) _
  have hundredThousand : (10 ^ 5 : K) * 10 ^ (exponent - 5) = 10 ^ exponent := by
    rw [zpow_sub₀ ten]
    field_simp
  have million : (10 ^ 6 : K) * 10 ^ (exponent - 5) = 10 ^ (exponent + 1) := by
    rw [zpow_sub₀ ten, zpow_add_one₀ ten]
    field_simp
  have low : (10 ^ 5 : ℤ) ≤ ⌊value / 10 ^ (exponent - 5)⌋ := by
    rw [Int.le_floor, le_div_iff₀ unit]
    push_cast
    linarith
  have high : ⌊value / 10 ^ (exponent - 5)⌋ < (10 ^ 6 : ℤ) := by
    rw [Int.floor_lt, div_lt_iff₀ unit]
    push_cast
    linarith
  have atLeast := Double.floor_le_roundEven (value / 10 ^ (exponent - 5))
  have atMost := Double.roundEven_le (value / 10 ^ (exponent - 5))
  have near := Double.abs_roundEven_sub_le (value / 10 ^ (exponent - 5))
  generalize Double.roundEven (value / 10 ^ (exponent - 5)) = rounded at atLeast atMost near ⊢
  have close : |(rounded : K) * 10 ^ (exponent - 5) - value| ≤ 1 / 2 * 10 ^ (exponent - 5) := by
    have scaled : (rounded : K) * 10 ^ (exponent - 5) - value =
        (rounded - value / 10 ^ (exponent - 5)) * 10 ^ (exponent - 5) := by
      field_simp
    rw [scaled, abs_mul, abs_of_pos unit]
    exact mul_le_mul_of_nonneg_right near unit.le
  split
  next carry =>
    -- The digits 999999.5 and more become 100000 with the next exponent.
    refine ⟨by norm_num, by norm_num, ?_⟩
    have same : ((10 ^ 5 : ℕ) : K) * 10 ^ (exponent + 1 - 5) = rounded * 10 ^ (exponent - 5) := by
      rw [carry, show exponent + 1 - 5 = exponent - 5 + 1 by ring, zpow_add_one₀ ten]
      push_cast
      ring
    rw [same]
    exact close
  next fits =>
    have bound : (10 ^ 5 : ℤ) ≤ rounded := low.trans atLeast
    have value : ((rounded.toNat : ℕ) : K) = (rounded : K) := by
      rw [← Int.cast_natCast, Int.toNat_of_nonneg (le_trans (by norm_num) bound)]
    refine ⟨by omega, by omega, ?_⟩
    rw [value]
    exact close

/-- Reading a printed number gives the number rounded to six significant digits. -/
theorem readDecimal_printDouble (value : K) :
    readDecimal (printDouble (.finite value)) = some (sixDigits value) := by
  have reads : ∀ other : K, 0 < other →
      readUnsigned (general (significant other).1 (significant other).2) =
        some (((significant other).1 : K) * 10 ^ ((significant other).2 - 5)) := by
    intro other positive
    have spec := significant_spec positive
    exact readUnsigned_general spec.1 spec.2.1 _
  by_cases zero : value = 0
  · have read : readUnsigned (fixed [0] [] ++ []) =
        some ((number ([0] ++ []) : K) * 10 ^ ((0 : ℤ) - ([] : List ℕ).length)) :=
      readUnsigned_fixed (by decide) (by decide) (by decide) rfl
    have text : fixed [0] [] ++ [] = [ascii '0'] := by decide
    rw [text] at read
    simp only [printDouble, sixDigits, if_pos zero, readDecimal_of_readUnsigned read]
    simp [number]
  · by_cases negative : value < 0
    · simp [printDouble, sixDigits, zero, negative, readDecimal,
        reads (-value) (neg_pos.mpr negative)]
    · have positive : 0 < value := lt_of_le_of_ne (not_lt.mp negative) (Ne.symm zero)
      simp only [printDouble, sixDigits, if_neg zero, if_neg negative]
      exact readDecimal_of_readUnsigned (reads value positive)

/-- The rounding error is at most half a millionth of ten times the number. -/
theorem abs_sixDigits_sub_le (value : K) : |sixDigits value - value| ≤ |value| / (2 * 10 ^ 5) := by
  have rounds : ∀ other : K, 0 < other →
      |((significant other).1 : K) * 10 ^ ((significant other).2 - 5) - other| ≤
        other / (2 * 10 ^ 5) := by
    intro other positive
    have near := (significant_spec positive).2.2
    have ten : (10 : K) ≠ 0 := by norm_num
    have above := Int.zpow_log_le_self (by decide : 1 < 10) positive
    have base : ((10 : ℕ) : K) = 10 := by norm_num
    rw [base] at above
    calc |((significant other).1 : K) * 10 ^ ((significant other).2 - 5) - other|
        ≤ 1 / 2 * 10 ^ (Int.log 10 other - 5) := near
      _ = 10 ^ Int.log 10 other / (2 * 10 ^ 5) := by
          rw [zpow_sub₀ ten]
          field_simp
      _ ≤ other / (2 * 10 ^ 5) := by gcongr
  unfold sixDigits
  split_ifs with zero negative
  · simp [zero]
  · have bound := rounds (-value) (neg_pos.mpr negative)
    rw [abs_of_neg negative, ← abs_neg]
    convert bound using 2
    ring
  · have positive : 0 < value := lt_of_le_of_ne (not_lt.mp negative) (Ne.symm zero)
    rw [abs_of_pos positive]
    exact rounds value positive

end Printing

end Decimal
