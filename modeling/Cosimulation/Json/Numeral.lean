/-!
# Numbers in JSON texts

A JSON number keeps the shape in which it was written: its sign, its whole part, the digits behind
the point and its exponent.  Two questions are asked of it.  `natural?` gives the value of a number
that is written as plain digits, which is the only kind of number that a message carries.
`fitsDouble` says whether the number is in the range of a double; a number beyond that range may be
passed over, but it cannot be held.

The range is decided in whole numbers.  The first digits, as many as fit 64 bits, form a
significand; the digits behind them only move the exponent.  Significand and power of ten are each
rounded to 53 bits, and so is their product, which must stay below `2 ^ 1024`.  A negative exponent
only makes a number smaller, so it never leaves the range.
-/

namespace Cosimulation.Json

set_option autoImplicit false

/-- A number as it is written: sign, whole part, digits behind the point, exponent. -/
structure Numeral where
  negative : Bool
  whole : Nat
  fraction : List Nat
  exponent : Option Int
  deriving DecidableEq, Repr

namespace Numeral

/-- The plain digits of a natural number. -/
def ofNat (value : Nat) : Numeral := ⟨false, value, [], none⟩

/-- The value of a number written as plain digits. -/
def natural? (numeral : Numeral) : Option Nat :=
  if numeral.negative = false ∧ numeral.fraction = [] ∧ numeral.exponent = none then
    some numeral.whole
  else none

@[simp] theorem natural?_ofNat (value : Nat) : (ofNat value).natural? = some value := by
  simp [natural?, ofNat]

/-! ## The range of a double -/

/-- The significand of a whole part and the number of digits left out of it: once a digit does not
fit 64 bits, it and all digits behind it are left out. -/
def wholeSignificand (whole : Nat) : Nat × Nat :=
  (Nat.toDigits 10 whole).foldl (fun (significand, left) char =>
    let grown := significand * 10 + (char.toNat - '0'.toNat)
    if left = 0 ∧ grown < UInt64.size then (grown, 0) else (significand, left + 1)) (0, 0)

/-- Extends a significand by digits behind the point as long as they fit 64 bits, and counts the
digits taken. -/
def fractionSignificand (significand taken : Nat) : List Nat → Nat × Nat
  | [] => (significand, taken)
  | digit :: rest =>
    if significand * 10 + digit < UInt64.size then
      fractionSignificand (significand * 10 + digit) (taken + 1) rest
    else (significand, taken)

/-- The significand of a number and the power of ten that goes with it. -/
def scaled (numeral : Numeral) : Nat × Int :=
  let (whole, left) := wholeSignificand numeral.whole
  let (significand, taken) := fractionSignificand whole 0 numeral.fraction
  (significand, (left : Int) - (taken : Int) + numeral.exponent.getD 0)

/-- The nearest number with at most 53 significant bits; of two equally near ones the one whose
last bit is zero. -/
def roundDouble (value : Nat) : Nat :=
  let surplus := value.log2 - 52
  let kept := value >>> surplus
  let twice := 2 * (value - kept <<< surplus)
  let unit := 1 <<< surplus
  if surplus = 0 ∨ twice < unit ∨ (twice = unit ∧ kept % 2 = 0) then kept <<< surplus
  else (kept + 1) <<< surplus

/-- Whether the number lies in the range of a double. -/
def fitsDouble (numeral : Numeral) : Bool :=
  let (significand, exponent) := numeral.scaled
  if significand = 0 ∨ exponent < 0 then true
  else if 308 < exponent then false
  else roundDouble (roundDouble significand * roundDouble (Nat.pow 10 exponent.toNat)) < Nat.pow 2 1024

end Numeral

end Cosimulation.Json
