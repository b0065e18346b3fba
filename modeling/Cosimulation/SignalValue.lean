import Cosimulation.Error
import Cosimulation.Text.Numeral
/-!
# Signal values

A signal carries a whole number or a row of four-state digits, most significant digit first.  The
digits of a row are checked before a write, not when it is received, so that a row from the wire may
hold any text.
-/

namespace Cosimulation

set_option autoImplicit false

/-- A value read from or written to a signal. -/
inductive SignalValue where
  | int (value : UInt64)
  | bits (digits : String)
  deriving DecidableEq, Repr

/-- Whether a character is a digit of a four-state row. -/
def isFourState (char : Char) : Bool :=
  char = '0' || char = '1' || char = 'x' || char = 'X' || char = 'z' || char = 'Z'

/-- Whether a digit stands for an unknown or undriven bit. -/
def isUnknown (char : Char) : Bool :=
  char = 'x' || char = 'X' || char = 'z' || char = 'Z'

namespace SignalValue

/-- The number that a value stands for: none if it has an unknown digit or too many digits. -/
def word? : SignalValue → Option UInt64
  | .int value => some value
  | .bits digits =>
    if digits.utf8ByteSize ≤ 64 then
      match Numeral.read 2 UInt64.size digits.toList with
      | .ok value => some (UInt64.ofNat value)
      | .error _ => none
    else none

/-- Whether any digit is unknown. -/
def hasUnknowns : SignalValue → Bool
  | .int _ => false
  | .bits digits => digits.toList.any isUnknown

/-- Checks that a value may be written to the object at `path`: a row of digits must have at least
one digit, and nothing else. -/
def validate (path : String) : SignalValue → Except ApplyError Unit
  | .int _ => .ok ()
  | .bits digits =>
    if digits.isEmpty then .error (.invalidValue path "empty bit string")
    else
      match digits.toList.find? fun char => !isFourState char with
      | some char => .error (.invalidValue path s!"invalid digit '{char}' in bit string")
      | none => .ok ()

/-- The value as a row of at least `width` small digits. -/
def toBits (width : Nat) : SignalValue → String
  | .int value => String.ofList (Numeral.padded 2 width value.toNat)
  | .bits digits =>
    String.ofList
      (List.replicate (width - digits.utf8ByteSize) '0' ++ digits.toList.map Char.toLower)

/-- The value as it is shown to a reader. -/
def display : SignalValue → String
  | .int value => toString value.toNat
  | .bits digits => s!"'b{digits}"

end SignalValue

end Cosimulation
