import Cosimulation.Json.Token
/-!
# Spellings

A row of tokens may be written as many texts.  Blanks may stand in front of every token and at the
end, every character of a string may be escaped, and an exponent has a letter in either case, a sign
and zeros in front.  `Spells` says which texts these are.  It is the grammar of JSON read as a
relation, and it knows nothing of the way in which a text is read.
-/

namespace Cosimulation.Json

set_option autoImplicit false

/-! ## Strings -/

/-- The letters of escapes, with the characters that they stand for. -/
def letters : List (Char × Char) :=
  [('"', '"'), ('\\', '\\'), ('/', '/'), ('b', '\x08'), ('f', '\x0c'), ('n', '\n'), ('r', '\r'),
    ('t', '\t')]

/-- A code unit may be written in four hexadecimal digits, each of them in either case. -/
structure SpellsUnit (unit : Nat) (digits : List Char) : Prop where
  small : unit < 0x10000
  same : digits.map Char.toLower = Hex.digits 4 unit

/-- The texts that a character of a string may be written as. -/
inductive SpellsChar (char : Char) : List Char → Prop where
  /-- As itself, unless it would end or escape something or is a control character. -/
  | itself : ' ' ≤ char → char ≠ '"' → char ≠ '\\' → SpellsChar char [char]
  | letter {letter : Char} : (letter, char) ∈ letters → SpellsChar char ['\\', letter]
  | unit {digits : List Char} : SpellsUnit char.toNat digits → SpellsChar char ('\\' :: 'u' :: digits)
  /-- As two code units, if it does not fit into one. -/
  | pair {high low : List Char} : 0x10000 ≤ char.toNat →
      SpellsUnit (0xD800 + (char.toNat - 0x10000) / 0x400) high →
      SpellsUnit (0xDC00 + (char.toNat - 0x10000) % 0x400) low →
      SpellsChar char ('\\' :: 'u' :: high ++ '\\' :: 'u' :: low)

/-- The texts that a row of characters may be written as. -/
inductive SpellsChars : List Char → List Char → Prop where
  | nil : SpellsChars [] []
  | cons {char : Char} {chars text rest : List Char} : SpellsChar char text →
      SpellsChars chars rest → SpellsChars (char :: chars) (text ++ rest)

/-! ## Numbers -/

/-- The texts that the digits behind the point may be written as, the point included. -/
inductive SpellsFraction : List Nat → List Char → Prop where
  | absent : SpellsFraction [] []
  | digits {digits : List Nat} : digits ≠ [] → (∀ digit ∈ digits, digit < 10) →
      SpellsFraction digits ('.' :: digits.map Nat.digitChar)

/-- The texts that an exponent may be written as: a letter, a sign or none, and digits. -/
inductive SpellsExponent : Option Int → List Char → Prop where
  | absent : SpellsExponent none []
  | unsigned {letter : Char} {digits : List Char} : letter ∈ ['e', 'E'] → digits ≠ [] →
      (∀ char ∈ digits, char.isDigit = true) →
      SpellsExponent (some (Nat.ofDigitChars 10 digits 0 : Int)) (letter :: digits)
  | positive {letter : Char} {digits : List Char} : letter ∈ ['e', 'E'] → digits ≠ [] →
      (∀ char ∈ digits, char.isDigit = true) →
      SpellsExponent (some (Nat.ofDigitChars 10 digits 0 : Int)) (letter :: '+' :: digits)
  | negative {letter : Char} {digits : List Char} : letter ∈ ['e', 'E'] → digits ≠ [] →
      (∀ char ∈ digits, char.isDigit = true) →
      SpellsExponent (some (-(Nat.ofDigitChars 10 digits 0 : Int))) (letter :: '-' :: digits)

/-- The texts that a number may be written as. -/
inductive SpellsNumeral (numeral : Numeral) : List Char → Prop where
  | parts {fraction exponent : List Char} : SpellsFraction numeral.fraction fraction →
      SpellsExponent numeral.exponent exponent →
      SpellsNumeral numeral ((if numeral.negative then ['-'] else []) ++
        (Nat.toDigits 10 numeral.whole ++ (fraction ++ exponent)))

/-! ## Tokens -/

/-- The texts that a token may be written as. -/
inductive SpellsToken : Token → List Char → Prop where
  | openBrace : SpellsToken .openBrace ['{']
  | closeBrace : SpellsToken .closeBrace ['}']
  | openBracket : SpellsToken .openBracket ['[']
  | closeBracket : SpellsToken .closeBracket [']']
  | colon : SpellsToken .colon [':']
  | comma : SpellsToken .comma [',']
  | null : SpellsToken .null ['n', 'u', 'l', 'l']
  | isTrue : SpellsToken (.boolean true) ['t', 'r', 'u', 'e']
  | isFalse : SpellsToken (.boolean false) ['f', 'a', 'l', 's', 'e']
  | number {numeral : Numeral} {text : List Char} : SpellsNumeral numeral text →
      SpellsToken (.number numeral) text
  | string {said : String} {text : List Char} : SpellsChars said.toList text →
      SpellsToken (.string (some said)) ('"' :: text ++ ['"'])

/-- Blanks, of which any number may stand between two tokens. -/
def Blanks (text : List Char) : Prop :=
  ∀ char ∈ text, char ∈ [' ', '\t', '\n', '\r']

/-- The texts that a row of tokens may be written as. -/
inductive Spells : List Token → List Char → Prop where
  | ended {blanks : List Char} : Blanks blanks → Spells [] blanks
  | token {blanks text rest : List Char} {token : Token} {tokens : List Token} : Blanks blanks →
      SpellsToken token text → Spells tokens rest → Spells (token :: tokens) (blanks ++ (text ++ rest))

theorem blanks_nil : Blanks [] := nofun

theorem Blanks.append {front back : List Char} (one : Blanks front) (two : Blanks back) :
    Blanks (front ++ back) :=
  fun char member => (List.mem_append.1 member).elim (one char) (two char)

namespace Spells

variable {token : Token} {tokens others : List Token} {blanks text rest : List Char}

/-- More blanks may stand in front. -/
theorem indent (indented : Blanks blanks) (spells : Spells tokens text) :
    Spells tokens (blanks ++ text) := by
  cases spells with
  | ended few => exact .ended (indented.append few)
  | token few first behind =>
    rw [← List.append_assoc]
    exact .token (indented.append few) first behind

/-- A token may stand right in front of others. -/
theorem cons (first : SpellsToken token text) (spells : Spells tokens rest) :
    Spells (token :: tokens) (text ++ rest) :=
  .token blanks_nil first spells

/-- Spellings may stand behind each other. -/
theorem append (front : Spells tokens text) (back : Spells others rest) :
    Spells (tokens ++ others) (text ++ rest) := by
  induction front with
  | ended few => exact back.indent few
  | token few first _ ih =>
    rw [List.cons_append, List.append_assoc, List.append_assoc]
    exact .token few first ih

end Spells

end Cosimulation.Json
