import Cosimulation.Text.Hex
/-!
# Request ids

A request id is a 128-bit number that ties a response to its command.  It is always written as 32
small hexadecimal digits in five groups.  It is read from the five groups, alone, in braces or
behind `urn:uuid:`, and also from 32 digits in a row; letters may be of either case throughout.
-/

namespace Cosimulation

set_option autoImplicit false

/-- The number that ties a response to its command. -/
structure RequestId where
  bits : BitVec 128
  deriving DecidableEq, Repr

namespace RequestId

/-- The request id with a given number, taken modulo `2 ^ 128`. -/
def ofNat (value : Nat) : RequestId := ⟨BitVec.ofNat 128 value⟩

/-- Puts hyphens between the groups of eight, four, four, four and twelve digits. -/
def hyphenate (digits : List Char) : List Char :=
  digits.take 8 ++ '-' :: (digits.drop 8).take 4 ++ '-' :: (digits.drop 12).take 4
    ++ '-' :: (digits.drop 16).take 4 ++ '-' :: digits.drop 20

/-- The written form of a request id. -/
def text (id : RequestId) : List Char :=
  hyphenate (Hex.digits 32 id.bits.toNat)

/-- The written form of a request id. -/
def display (id : RequestId) : String :=
  String.ofList id.text

/-- The digits of five hyphenated groups. -/
def ungroup? (text : List Char) : Option (List Char) :=
  let digits :=
    text.take 8 ++ (text.drop 9).take 4 ++ (text.drop 14).take 4 ++ (text.drop 19).take 4
      ++ text.drop 24
  if text.length = 36 ∧ hyphenate digits = text then some digits else none

/-- The digits of a request id in any of its spellings. -/
def digits? (text : List Char) : Option (List Char) :=
  if text.length = 32 then some text
  else if text.length = 36 then ungroup? text
  else if text.length = 38 then
    if text.head? = some '{' ∧ text.getLast? = some '}' then ungroup? (text.drop 1).dropLast
    else none
  else if (text.take 9).map Char.toLower = ['u', 'r', 'n', ':', 'u', 'u', 'i', 'd', ':'] then
    ungroup? (text.drop 9)
  else none

/-- The request id that a text spells. -/
def parse? (text : List Char) : Option RequestId :=
  ((digits? text).bind (Hex.value? 0)).map ofNat

end RequestId

end Cosimulation
