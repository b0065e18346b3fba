import Cosimulation.Json.Basic
/-!
# Writing JSON

Values are written without any blank.  In strings only the two characters that would end or escape
something, and the control characters, are escaped; every other character stands for itself.
-/

namespace Cosimulation.Json

set_option autoImplicit false

/-- The written form of one character of a string. -/
def escape (char : Char) : List Char :=
  match char with
  | '"' => ['\\', '"']
  | '\\' => ['\\', '\\']
  | '\x08' => ['\\', 'b']
  | '\x0c' => ['\\', 'f']
  | '\n' => ['\\', 'n']
  | '\r' => ['\\', 'r']
  | '\t' => ['\\', 't']
  | char =>
    if char < ' ' then
      let code := char.toNat
      ['\\', 'u', '0', '0', Nat.digitChar (code / 16), Nat.digitChar (code % 16)]
    else [char]

/-- The written form of a string, between its quotes. -/
def quoted (text : String) : List Char :=
  '"' :: text.toList.flatMap escape ++ ['"']

/-- The written form of a number. -/
def Numeral.print (numeral : Numeral) : List Char :=
  (if numeral.negative then ['-'] else [])
    ++ Nat.toDigits 10 numeral.whole
    ++ (if numeral.fraction = [] then [] else '.' :: numeral.fraction.map Nat.digitChar)
    ++ (match numeral.exponent with
        | none => []
        | some (.ofNat value) => 'e' :: Nat.toDigits 10 value
        | some (.negSucc value) => 'e' :: '-' :: Nat.toDigits 10 (value + 1))

mutual
/-- The written form of a value. -/
def print : Json String → List Char
  | .null => ['n', 'u', 'l', 'l']
  | .boolean true => ['t', 'r', 'u', 'e']
  | .boolean false => ['f', 'a', 'l', 's', 'e']
  | .number numeral => numeral.print
  | .string text => quoted text
  | .array items => '[' :: printItems items ++ [']']
  | .object members => '{' :: printMembers members ++ ['}']

/-- The items of an array, with a comma between each two. -/
def printItems : List (Json String) → List Char
  | [] => []
  | [item] => print item
  | item :: next :: rest => print item ++ ',' :: printItems (next :: rest)

/-- The members of an object, with a comma between each two. -/
def printMembers : List (String × Json String) → List Char
  | [] => []
  | [(name, value)] => quoted name ++ ':' :: print value
  | (name, value) :: next :: rest =>
    quoted name ++ ':' :: (print value ++ ',' :: printMembers (next :: rest))
end

end Cosimulation.Json
