import Cosimulation.Json.Numeral
/-!
# JSON values

A value keeps the members of its objects in the order in which they were written, repeated names
included: which repetitions are harmless is for the reader of a message to say.

What a string is stays open.  A value that is written has strings of type `String`.  A value as it
stands in a text, `Json.Raw`, has strings that need not be texts: one that spells half of a
surrogate pair, or that holds bytes of no character, is well-formed all the same, and it is refused
only by a reader who asks what it says.
-/

namespace Cosimulation

set_option autoImplicit false

/-- A JSON value with strings of a given kind. -/
inductive Json (Text : Type) where
  | null
  | boolean (value : Bool)
  | number (numeral : Json.Numeral)
  | string (text : Text)
  | array (items : List (Json Text))
  | object (members : List (Text × Json Text))

namespace Json

/-- A value as it stands in a text.  A string that says no text is `none`. -/
abbrev Raw := Json (Option String)

variable {Text : Type}

/-- The number that stands for a natural number. -/
def natural (value : Nat) : Json Text := .number (.ofNat value)

/-- The value of a number that is written as plain digits and fits 64 bits. -/
def word? : Json Text → Option UInt64
  | .number numeral =>
    match numeral.natural? with
    | some value => if value < UInt64.size then some (UInt64.ofNat value) else none
    | none => none
  | _ => none

end Json

end Cosimulation
