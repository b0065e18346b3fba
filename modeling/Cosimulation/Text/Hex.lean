/-!
# Hexadecimal digits

Checksums and request ids are shown as a fixed number of small hexadecimal digits.  Reading takes
digits in either case.
-/

namespace Cosimulation.Hex

set_option autoImplicit false

/-- The small hexadecimal digit of a number below sixteen. -/
def digit (value : Nat) : Char :=
  if value < 10 then Char.ofNat ('0'.toNat + value) else Char.ofNat ('a'.toNat + (value - 10))

/-- The value of a hexadecimal digit in either case. -/
def digit? (char : Char) : Option Nat :=
  if '0' ≤ char ∧ char ≤ '9' then some (char.toNat - '0'.toNat)
  else if 'a' ≤ char ∧ char ≤ 'f' then some (char.toNat - 'a'.toNat + 10)
  else if 'A' ≤ char ∧ char ≤ 'F' then some (char.toNat - 'A'.toNat + 10)
  else none

/-- The last `count` hexadecimal digits of a number, leading zeros included. -/
def digits : (count value : Nat) → List Char
  | 0, _ => []
  | count + 1, value => digits count (value / 16) ++ [digit (value % 16)]

/-- The value of a row of hexadecimal digits behind the value read so far. -/
def value? : Nat → List Char → Option Nat
  | value, [] => some value
  | value, char :: rest =>
    match digit? char with
    | none => none
    | some digit => value? (value * 16 + digit) rest

end Cosimulation.Hex
