import Mathlib.Data.Nat.Cast.Defs

/-!
# Numerals

A numeral of a general field carries a proof that it is at least two, and a numeral of a
finite type one that the type is not empty.  A proof that is found at each numeral becomes a
lemma of the first definition that needs it.  For the numerals that definitions of several
modules share, the instances of the library have a name here, so that these definitions do
not depend on which of them comes first.
-/

instance atLeastTwo_2 : Nat.AtLeastTwo 2 := inferInstance

instance atLeastTwo_3 : Nat.AtLeastTwo 3 := inferInstance

instance atLeastTwo_4 : Nat.AtLeastTwo 4 := inferInstance

instance atLeastTwo_5 : Nat.AtLeastTwo 5 := inferInstance

instance atLeastTwo_10 : Nat.AtLeastTwo 10 := inferInstance

instance atLeastTwo_20 : Nat.AtLeastTwo 20 := inferInstance

instance atLeastTwo_25 : Nat.AtLeastTwo 25 := inferInstance

instance atLeastTwo_30 : Nat.AtLeastTwo 30 := inferInstance

instance atLeastTwo_40 : Nat.AtLeastTwo 40 := inferInstance

instance atLeastTwo_45 : Nat.AtLeastTwo 45 := inferInstance

instance atLeastTwo_50 : Nat.AtLeastTwo 50 := inferInstance

instance atLeastTwo_100 : Nat.AtLeastTwo 100 := inferInstance

instance atLeastTwo_180 : Nat.AtLeastTwo 180 := inferInstance

instance atLeastTwo_999 : Nat.AtLeastTwo 999 := inferInstance

instance atLeastTwo_1000 : Nat.AtLeastTwo 1000 := inferInstance

instance neZero_3 : @NeZero ℕ Zero.ofOfNat0 3 := inferInstance

instance neZero_4 : @NeZero ℕ Zero.ofOfNat0 4 := inferInstance
