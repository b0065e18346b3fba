/-!
# Unsigned numerals

A numeral is an optional plus sign and at least one digit.  Reading one under a bound has three
ways to fail.  The characters are taken from left to right and the first one that cannot be taken
decides: a character that is no digit makes the numeral ill-formed, a digit that would carry the
value to the bound makes it too large.
-/

namespace Cosimulation.Numeral

set_option autoImplicit false

/-- Why a text is no numeral below the bound. -/
inductive Malformation where
  | empty
  | invalidDigit
  | tooLarge
  deriving DecidableEq, Repr

namespace Malformation

/-- The wording of a malformation. -/
def message : Malformation → String
  | .empty => "cannot parse integer from empty string"
  | .invalidDigit => "invalid digit found in string"
  | .tooLarge => "number too large to fit in target type"

end Malformation

/-- The value of a digit in a radix of at most ten. -/
def digit? (radix : Nat) (char : Char) : Option Nat :=
  if '0' ≤ char ∧ char.toNat - '0'.toNat < radix then some (char.toNat - '0'.toNat) else none

/-- The value of a row of digits behind the value read so far. -/
def readDigits (radix bound : Nat) : Nat → List Char → Except Malformation Nat
  | value, [] => .ok value
  | value, char :: rest =>
    match digit? radix char with
    | none => .error .invalidDigit
    | some digit =>
      if value * radix + digit < bound then readDigits radix bound (value * radix + digit) rest
      else .error .tooLarge

/-- The value of a numeral in a radix of at most ten, if it lies below the bound.  A sign that
stands alone is no digit. -/
def read (radix bound : Nat) : List Char → Except Malformation Nat
  | [] => .error .empty
  | ['+'] => .error .invalidDigit
  | '+' :: digits => readDigits radix bound 0 digits
  | digits => readDigits radix bound 0 digits

/-- The digits of a number, padded in front with zeros to at least `width` digits. -/
def padded (radix width value : Nat) : List Char :=
  let digits := Nat.toDigits radix value
  List.replicate (width - digits.length) '0' ++ digits

end Cosimulation.Numeral
