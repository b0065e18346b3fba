import Cosimulation.Json.Basic
import Cosimulation.Text.Hex
import Cosimulation.Text.Utf8
/-!
# JSON tokens

A JSON text is a row of tokens with blanks between them.  `Token.next` takes the first token off a
text.  It refuses what no token begins with, as well as tokens that are cut off or ill-formed: an
unknown escape or a raw control character in a string, a number with a leading zero or with no digit
where one must stand.

Texts are rows of symbols, so that a string may hold bytes of no character.  Such a stretch leaves a
string well-formed, as half of a surrogate pair does, but keeps it from saying a text.
-/

namespace Cosimulation.Json

set_option autoImplicit false

open Utf8 (Symbol)

/-- A token of a JSON text. -/
inductive Token where
  | openBrace
  | closeBrace
  | openBracket
  | closeBracket
  | colon
  | comma
  | null
  | boolean (value : Bool)
  | number (numeral : Numeral)
  | string (text : Option String)

/-- The blanks that may stand between two tokens. -/
def isBlank (symbol : Symbol) : Bool :=
  symbol = some ' ' || symbol = some '\t' || symbol = some '\n' || symbol = some '\r'

/-! ## Strings -/

/-- The character that a one-letter escape stands for. -/
def unescape? : Char → Option Char
  | '"' => some '"'
  | '\\' => some '\\'
  | '/' => some '/'
  | 'b' => some '\x08'
  | 'f' => some '\x0c'
  | 'n' => some '\n'
  | 'r' => some '\r'
  | 't' => some '\t'
  | _ => none

/-- The code unit that four hexadecimal digits stand for. -/
def unit? (first second third fourth : Char) : Option Nat :=
  Hex.value? 0 [first, second, third, fourth]

/-- Whether a code unit is the first half of a surrogate pair. -/
def isHigh (unit : Nat) : Bool := 0xD800 ≤ unit && unit < 0xDC00

/-- Whether a code unit is the second half of a surrogate pair. -/
def isLow (unit : Nat) : Bool := 0xDC00 ≤ unit && unit < 0xE000

/-- The character of a surrogate pair. -/
def combine (high low : Nat) : Char :=
  Char.ofNat (0x10000 + (high - 0xD800) * 0x400 + (low - 0xDC00))

/-- A piece of a string: a symbol, which stands for itself or has been written with a letter, or a
code unit written in hexadecimal digits. -/
inductive Piece where
  | symbol (symbol : Symbol)
  | unit (unit : Nat)

/-- The characters that pieces say behind those already read, which are kept last one first.  Two
code units next to each other may be one character. -/
def saidFrom? (reversed : List Char) : List Piece → Option (List Char)
  | [] => some reversed.reverse
  | .symbol none :: _ => none
  | .symbol (some char) :: rest => saidFrom? (char :: reversed) rest
  | .unit first :: .unit second :: rest =>
    if isHigh first then
      if isLow second then saidFrom? (combine first second :: reversed) rest else none
    else if isLow first then none
    else saidFrom? (Char.ofNat first :: reversed) (.unit second :: rest)
  | .unit unit :: rest =>
    if isHigh unit || isLow unit then none else saidFrom? (Char.ofNat unit :: reversed) rest

/-- The text that the pieces of a string say, if they say one. -/
def said? (pieces : List Piece) : Option String :=
  (saidFrom? [] pieces).map String.ofList

/-- The pieces of a string behind its opening quote and the pieces read so far, which are kept last
one first; and the text behind the closing quote. -/
def literal? (reversed : List Piece) : List Symbol → Option (List Piece × List Symbol)
  | some '"' :: rest => some (reversed.reverse, rest)
  | some '\\' :: some 'u' :: some a :: some b :: some c :: some d :: rest =>
    match unit? a b c d with
    | none => none
    | some unit => literal? (.unit unit :: reversed) rest
  | some '\\' :: some letter :: rest =>
    match unescape? letter with
    | none => none
    | some char => literal? (.symbol (some char) :: reversed) rest
  | some char :: rest =>
    if char < ' ' ∨ char = '\\' then none else literal? (.symbol (some char) :: reversed) rest
  | none :: rest => literal? (.symbol none :: reversed) rest
  | [] => none

/-- Behind a string there is less text than from its first symbol on. -/
theorem length_literal? {reversed pieces : List Piece} {text rest : List Symbol}
    (h : literal? reversed text = some (pieces, rest)) : rest.length < text.length := by
  fun_induction literal? reversed text <;> simp_all <;> omega

/-! ## Numbers -/

/-- Whether a symbol is a decimal digit. -/
def isDigit (symbol : Symbol) : Bool := symbol.any Char.isDigit

/-- The value of a decimal digit. -/
def digit (symbol : Symbol) : Nat := (symbol.getD '0').toNat - '0'.toNat

/-- The values of the decimal digits at the front of a text, and the text behind them. -/
def leadingDigits (text : List Symbol) : List Nat × List Symbol :=
  ((text.takeWhile isDigit).map digit, text.dropWhile isDigit)

/-- The value of a row of decimal digits. -/
def digitsValue (digits : List Nat) : Nat :=
  digits.foldl (fun value digit => value * 10 + digit) 0

/-- The whole part of a number: a zero, or digits that begin with no zero. -/
def wholePart? (text : List Symbol) : Option (Nat × List Symbol) :=
  match leadingDigits text with
  | ([], _) => none
  | (0 :: _ :: _, _) => none
  | (digits, rest) => some (digitsValue digits, rest)

/-- The digits behind the point, if there is a point. -/
def fractionPart? : List Symbol → Option (List Nat × List Symbol)
  | some '.' :: text =>
    match leadingDigits text with
    | ([], _) => none
    | (digits, rest) => some (digits, rest)
  | text => some ([], text)

/-- The digits of an exponent. -/
def exponentDigits? (text : List Symbol) : Option (Nat × List Symbol) :=
  match leadingDigits text with
  | ([], _) => none
  | (digits, rest) => some (digitsValue digits, rest)

/-- The exponent, if there is one. -/
def exponentPart? : List Symbol → Option (Option Int × List Symbol)
  | symbol :: text =>
    if symbol = some 'e' ∨ symbol = some 'E' then
      match text with
      | some '-' :: text =>
        (exponentDigits? text).map fun (value, rest) => (some (-(value : Int)), rest)
      | some '+' :: text =>
        (exponentDigits? text).map fun (value, rest) => (some (value : Int), rest)
      | text => (exponentDigits? text).map fun (value, rest) => (some (value : Int), rest)
    else some (none, symbol :: text)
  | [] => some (none, [])

/-- A number without its sign. -/
def unsigned? (negative : Bool) (text : List Symbol) : Option (Numeral × List Symbol) := do
  let (whole, text) ← wholePart? text
  let (fraction, text) ← fractionPart? text
  let (exponent, text) ← exponentPart? text
  return (⟨negative, whole, fraction, exponent⟩, text)

/-- A number, and the text behind it. -/
def numeral? : List Symbol → Option (Numeral × List Symbol)
  | some '-' :: text => unsigned? true text
  | text => unsigned? false text

theorem length_leadingDigits (text : List Symbol) :
    (leadingDigits text).1.length + (leadingDigits text).2.length = text.length := by
  simp only [leadingDigits, List.length_map]
  rw [← List.length_append, List.takeWhile_append_dropWhile]

theorem length_wholePart? {text rest : List Symbol} {value : Nat}
    (h : wholePart? text = some (value, rest)) : rest.length < text.length := by
  have total := length_leadingDigits text
  unfold wholePart? at h
  split at h
  · cases h
  · cases h
  · rename_i digits after nonempty _ split
    obtain ⟨rfl, rfl⟩ : _ ∧ after = rest := by simpa using h
    rw [split] at total
    have : digits.length ≠ 0 := fun zero => nonempty (List.length_eq_zero_iff.1 zero)
    simp only at total
    omega

theorem length_fractionPart? {text rest : List Symbol} {digits : List Nat}
    (h : fractionPart? text = some (digits, rest)) : rest.length ≤ text.length := by
  unfold fractionPart? at h
  split at h
  · rename_i text
    have total := length_leadingDigits text
    split at h
    · cases h
    · rename_i taken after _ split
      obtain ⟨_, rfl⟩ : _ ∧ after = rest := by simpa using h
      rw [split] at total
      simp only [List.length_cons] at total ⊢
      omega
  · simp_all

theorem length_exponentDigits? {text rest : List Symbol} {value : Nat}
    (h : exponentDigits? text = some (value, rest)) : rest.length ≤ text.length := by
  have total := length_leadingDigits text
  unfold exponentDigits? at h
  split at h
  · cases h
  · rename_i taken after _ split
    obtain ⟨_, rfl⟩ : _ ∧ after = rest := by simpa using h
    rw [split] at total
    simp only at total
    omega

theorem length_exponentPart? {text rest : List Symbol} {exponent : Option Int}
    (h : exponentPart? text = some (exponent, rest)) : rest.length ≤ text.length := by
  unfold exponentPart? at h
  split at h
  · rename_i symbol text
    split at h
    · split at h <;>
      · obtain ⟨⟨value, after⟩, found, same⟩ := Option.map_eq_some_iff.1 h
        have := length_exponentDigits? found
        obtain ⟨_, rfl⟩ : _ ∧ after = rest := by simpa using same
        simp only [List.length_cons] at this ⊢
        omega
    · simp_all
  · simp_all

theorem length_unsigned? {negative : Bool} {text rest : List Symbol} {numeral : Numeral}
    (h : unsigned? negative text = some (numeral, rest)) : rest.length < text.length := by
  simp only [unsigned?, Option.bind_eq_bind, Option.bind_eq_some_iff, Prod.exists, Option.pure_def,
    Option.some.injEq, Prod.mk.injEq] at h
  obtain ⟨_, _, whole, _, _, fraction, _, _, exponent, _, rfl⟩ := h
  have := length_wholePart? whole
  have := length_fractionPart? fraction
  have := length_exponentPart? exponent
  omega

theorem length_numeral? {text rest : List Symbol} {numeral : Numeral}
    (h : numeral? text = some (numeral, rest)) : rest.length < text.length := by
  unfold numeral? at h
  split at h
  · have := length_unsigned? h
    simp only [List.length_cons]
    omega
  · exact length_unsigned? h

/-! ## Tokens -/

/-- What stands at the front of a text: a token and the text behind it, nothing but the end of the
text, or something that is no token. -/
inductive Lexeme where
  | token (token : Token) (rest : List Symbol)
  | ended
  | malformed

/-- The lexeme at the front of a text that begins with no blank. -/
def lexeme : List Symbol → Lexeme
  | [] => .ended
  | some '{' :: rest => .token .openBrace rest
  | some '}' :: rest => .token .closeBrace rest
  | some '[' :: rest => .token .openBracket rest
  | some ']' :: rest => .token .closeBracket rest
  | some ':' :: rest => .token .colon rest
  | some ',' :: rest => .token .comma rest
  | some 'n' :: some 'u' :: some 'l' :: some 'l' :: rest => .token .null rest
  | some 't' :: some 'r' :: some 'u' :: some 'e' :: rest => .token (.boolean true) rest
  | some 'f' :: some 'a' :: some 'l' :: some 's' :: some 'e' :: rest => .token (.boolean false) rest
  | some '"' :: rest =>
    match literal? [] rest with
    | some (pieces, rest) => .token (.string (said? pieces)) rest
    | none => .malformed
  | text =>
    match numeral? text with
    | some (numeral, rest) => .token (.number numeral) rest
    | none => .malformed

/-- The lexeme at the front of a text, behind any blanks. -/
def Token.next (text : List Symbol) : Lexeme :=
  lexeme (text.dropWhile isBlank)

theorem length_lexeme {text rest : List Symbol} {token : Token}
    (h : lexeme text = .token token rest) : rest.length < text.length := by
  unfold lexeme at h
  split at h
  case h_12 =>
    split at h
    · rename_i found
      injection h with _ same
      subst same
      exact length_numeral? found
    · cases h
  case h_11 =>
    split at h
    · rename_i found
      injection h with _ same
      subst same
      have := length_literal? found
      simp only [List.length_cons]
      omega
    · cases h
  case h_1 => cases h
  all_goals
    injection h with _ same
    subst same
    simp only [List.length_cons]
    omega

/-- Behind a token there is less text than before it. -/
theorem Token.length_next {text rest : List Symbol} {token : Token}
    (h : Token.next text = .token token rest) : rest.length < text.length := by
  have := length_lexeme h
  have := (List.dropWhile_sublist isBlank (l := text)).length_le
  omega

end Cosimulation.Json
