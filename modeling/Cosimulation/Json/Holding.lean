import Cosimulation.Json.Basic
/-!
# Values in place and values held

A message is read off its text in one go.  What its reader knows how to use is read *in place*, and
what nobody uses is passed over: there every string, every number and any nesting will do.  Where
the reader cannot yet know what a value is for, because the name of its kind comes later or because
its members belong to several parts of the message, the value is *held*: it is taken in whole before
any of it is used.  `hold?` takes in only what can be kept.  Every string in it, names included, must
say a text, every number must be in the range of a double, and no more than a given number of arrays
and objects may stand inside each other.

`Reading` gathers what differs between the two.  Beside the strings there are two liberties that only
held values have: they may name one of several kinds by its number, and the empty object stands for
nothing as well as null does.
-/

namespace Cosimulation.Json

set_option autoImplicit false

/-- The number of arrays and objects that may stand inside each other. -/
def maximalDepth : Nat := 127

/-- Takes in a value in which no more than `room` arrays and objects stand inside each other. -/
def hold? : (room : Nat) → Raw → Option (Json String)
  | _, .null => some .null
  | _, .boolean value => some (.boolean value)
  | _, .number numeral => if numeral.fitsDouble then some (.number numeral) else none
  | _, .string text => text.map .string
  | 0, .array _ => none
  | 0, .object _ => none
  | room + 1, .array items => (items.mapM (hold? room)).map .array
  | room + 1, .object members =>
    (members.mapM fun (member : Option String × Raw) => do
      return (← member.1, ← hold? room member.2)).map .object

/-- What depends on whether a value is read in place or held. -/
class Reading (Text : Type) where
  /-- The text that a string says. -/
  text? : Text → Option String
  /-- The number by which a value names one of several kinds. -/
  ordinal? : Json Text → Option Nat
  /-- Whether a value stands for nothing. -/
  isVoid : Json Text → Bool
  /-- Takes in the whole value, if it fits the room that is left for it. -/
  hold? : (room : Nat) → Json Text → Option (Json String)

/-- In place, a string may fail to say a text, kinds have no numbers, and null alone stands for
nothing. -/
instance : Reading (Option String) where
  text? := id
  ordinal? _ := none
  isVoid
    | .null => true
    | _ => false
  hold? := Json.hold?

/-- A held value has been taken in already. -/
instance : Reading String where
  text? := some
  ordinal? json := json.word?.map UInt64.toNat
  isVoid
    | .null => true
    | .object [] => true
    | _ => false
  hold? _ := some

end Cosimulation.Json
