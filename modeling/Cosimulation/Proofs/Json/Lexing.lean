import Mathlib.Data.List.Chain
import Cosimulation.Proofs.Json.Spelling
import Cosimulation.Proofs.Json.Tokens
import Cosimulation.Proofs.Text.Blank
import Cosimulation.Proofs.Text.RequestId
/-!
# Taking spelled tokens off a text

A token that stands at the front of a text, behind any blanks and in any spelling, is the token that
is taken off it (`next_of_spells`).  A string ends with its quote whatever follows.  A number must be
delimited: what follows may not be taken for more of it.  Between the tokens of a value no two
numbers meet (`apart_tokens`), so every spelling of a value is read as that value
(`parse?_of_spells`).
-/

namespace Cosimulation

set_option autoImplicit false

/-! ## Hexadecimal digits -/

namespace Hex

/-- The case of a digit does not matter. -/
theorem digit?_toLower (char : Char) : digit? char.toLower = digit? char := by
  by_cases capital : 'A' ≤ char ∧ char ≤ 'Z'
  · have bounds : 65 ≤ char.toNat ∧ char.toNat ≤ 90 := capital
    exact Text.of_codes (fun char => digit? char.toLower = digit? char) 65 26 (by decide) bounds.1
      (by omega)
  · exact congrArg digit? (dif_neg capital)

theorem value?_map_toLower (value : Nat) (digits : List Char) :
    value? value (digits.map Char.toLower) = value? value digits := by
  induction digits generalizing value with
  | nil => rfl
  | cons char digits ih =>
    rw [List.map_cons, value?, value?, digit?_toLower]
    split
    · rfl
    · exact ih _

end Hex

namespace Json

open Utf8 (Symbol)

/-- A text that is written in characters. -/
abbrev spell (text : List Char) : List Symbol := text.map some

theorem spell_cons (char : Char) (text : List Char) :
    spell (char :: text) = some char :: spell text := rfl

theorem spell_append (front back : List Char) :
    spell (front ++ back) = spell front ++ spell back :=
  List.map_append

/-! ## Strings -/

/-- Four digits that a code unit is written in are read as that unit. -/
theorem SpellsUnit.unit? {unit : Nat} {digits : List Char} (spells : SpellsUnit unit digits) :
    ∃ a b c d, digits = [a, b, c, d] ∧ unit? a b c d = some unit := by
  have length : digits.length = 4 := by
    have same := congrArg List.length spells.same
    rwa [List.length_map, Hex.length_digits] at same
  have value : Hex.value? 0 digits = some unit := by
    have small : unit % Nat.pow 16 4 = unit := Nat.mod_eq_of_lt spells.small
    rw [← Hex.value?_map_toLower, spells.same, Hex.value?_digits, small, Nat.zero_mul, Nat.zero_add]
  obtain ⟨a, b, c, d, rfl⟩ : ∃ a b c d, digits = [a, b, c, d] := by
    match digits, length with
    | [a, b, c, d], _ => exact ⟨a, b, c, d, rfl⟩
  exact ⟨a, b, c, d, rfl, value⟩

/-- A code unit that is no half of a pair says its character, whatever follows. -/
theorem saidFrom?_unit {unit : Nat} (noHigh : isHigh unit = false) (noLow : isLow unit = false)
    (reversed : List Char) (rest : List Piece) :
    saidFrom? reversed (.unit unit :: rest) = saidFrom? (Char.ofNat unit :: reversed) rest := by
  cases rest with
  | nil => simp [saidFrom?, noHigh, noLow]
  | cons next rest => cases next <;> simp [saidFrom?, noHigh, noLow]

/-- No character is half of a surrogate pair. -/
theorem notSurrogate_toNat (char : Char) : isHigh char.toNat = false ∧ isLow char.toNat = false := by
  have valid : char.toNat < 0xD800 ∨ 0xDFFF < char.toNat ∧ char.toNat < 0x110000 := char.valid
  simp only [isHigh, isLow, Bool.and_eq_false_iff, decide_eq_false_iff_not]
  omega

/-- Pieces of a string that say a character, whatever follows. -/
def Says (char : Char) (pieces : List Piece) : Prop :=
  ∀ reversed rest, saidFrom? reversed (pieces ++ rest) = saidFrom? (char :: reversed) rest

theorem literal?_itself {char : Char} (printable : ' ' ≤ char) (noQuote : char ≠ '"')
    (noBackslash : char ≠ '\\') (reversed : List Piece) (rest : List Symbol) :
    literal? reversed (some char :: rest) = literal? (.symbol (some char) :: reversed) rest := by
  rw [literal?.eq_def]
  split
  · rename_i same
    cases same
    exact absurd rfl noQuote
  · rename_i same
    cases same
    exact absurd rfl noBackslash
  · rename_i same
    cases same
    exact absurd rfl noBackslash
  · rename_i same
    cases same
    exact if_neg fun wrong => wrong.elim (Char.not_lt.2 printable) noBackslash
  · rename_i same
    cases same
  · rename_i same
    cases same

/-- **A spelled character is read as pieces that say it.** -/
theorem SpellsChar.literal? {char : Char} {text : List Char} (spells : SpellsChar char text) :
    ∃ pieces, Says char pieces ∧ ∀ reversed rest,
      literal? reversed (spell text ++ rest) = literal? (pieces.reverse ++ reversed) rest := by
  cases spells with
  | itself printable noQuote noBackslash =>
    exact ⟨[.symbol (some char)], fun _ _ => by rw [List.singleton_append, saidFrom?],
      literal?_itself printable noQuote noBackslash⟩
  | letter known =>
    refine ⟨[.symbol (some char)], fun _ _ => by rw [List.singleton_append, saidFrom?], ?_⟩
    intro reversed rest
    simp only [letters, List.mem_cons, Prod.mk.injEq, List.not_mem_nil, or_false] at known
    rcases known with ⟨rfl, rfl⟩ | ⟨rfl, rfl⟩ | ⟨rfl, rfl⟩ | ⟨rfl, rfl⟩ | ⟨rfl, rfl⟩ | ⟨rfl, rfl⟩ |
      ⟨rfl, rfl⟩ | ⟨rfl, rfl⟩ <;> rfl
  | unit digits =>
    obtain ⟨a, b, c, d, rfl, value⟩ := digits.unit?
    obtain ⟨noHigh, noLow⟩ := notSurrogate_toNat char
    refine ⟨[.unit char.toNat], fun reversed rest => ?_, fun reversed rest => ?_⟩
    · rw [List.singleton_append, saidFrom?_unit noHigh noLow, Char.ofNat_toNat]
    · change Json.literal? _ (some '\\' :: some 'u' :: some a :: some b :: some c :: some d :: rest) = _
      rw [Json.literal?, value]
      rfl
  | pair wide high low =>
    obtain ⟨a, b, c, d, rfl, first⟩ := high.unit?
    obtain ⟨e, f, g, h, rfl, second⟩ := low.unit?
    have most : char.toNat < 0x110000 := by
      rcases char.valid with small | ⟨_, small⟩
      · exact Nat.lt_trans small (by decide)
      · exact small
    refine ⟨[.unit (0xD800 + (char.toNat - 0x10000) / 0x400),
      .unit (0xDC00 + (char.toNat - 0x10000) % 0x400)], fun reversed rest => ?_,
      fun reversed rest => ?_⟩
    · have isHigh : isHigh (0xD800 + (char.toNat - 0x10000) / 0x400) = true := by
        simp only [Json.isHigh, Bool.and_eq_true, decide_eq_true_eq]
        omega
      have isLow : isLow (0xDC00 + (char.toNat - 0x10000) % 0x400) = true := by
        simp only [Json.isLow, Bool.and_eq_true, decide_eq_true_eq]
        omega
      have combined : combine (0xD800 + (char.toNat - 0x10000) / 0x400)
          (0xDC00 + (char.toNat - 0x10000) % 0x400) = char := by
        have code : 0x10000 + (0xD800 + (char.toNat - 0x10000) / 0x400 - 0xD800) * 0x400 +
            (0xDC00 + (char.toNat - 0x10000) % 0x400 - 0xDC00) = char.toNat := by omega
        rw [combine, code, Char.ofNat_toNat]
      rw [List.cons_append, List.singleton_append, saidFrom?, if_pos isHigh, if_pos isLow, combined]
    · change Json.literal? _ (some '\\' :: some 'u' :: some a :: some b :: some c :: some d ::
        some '\\' :: some 'u' :: some e :: some f :: some g :: some h :: rest) = _
      rw [Json.literal?, first]
      dsimp only
      rw [Json.literal?, second]
      rfl

/-- Spelled characters are read, to the quote behind them, as pieces that say them. -/
theorem SpellsChars.literal? {chars text : List Char} (spells : SpellsChars chars text) :
    ∃ pieces, (∀ reversed, saidFrom? reversed pieces = some (reversed.reverse ++ chars)) ∧
      ∀ reversed rest, literal? reversed (spell text ++ some '"' :: rest) =
        some (reversed.reverse ++ pieces, rest) := by
  induction spells with
  | nil => exact ⟨[], fun _ => by simp [saidFrom?], fun _ _ => by simp [Json.literal?]⟩
  | cons first _ ih =>
    obtain ⟨front, saying, read⟩ := first.literal?
    obtain ⟨back, others, behind⟩ := ih
    refine ⟨front ++ back, fun reversed => ?_, fun reversed rest => ?_⟩
    · rw [saying, others]
      simp
    · rw [spell_append, List.append_assoc, read, behind]
      simp

/-! ## Numbers -/

/-- A text that continues no number. -/
def Delimited (rest : List Symbol) : Prop :=
  ∀ symbol ∈ rest.head?, isDigit symbol = false ∧ symbol ≠ some '.' ∧ symbol ≠ some 'e' ∧
    symbol ≠ some 'E'

theorem leadingDigits_append {digits : List Char} {rest : List Symbol}
    (all : ∀ char ∈ digits, char.isDigit = true)
    (ends : ∀ symbol ∈ rest.head?, isDigit symbol = false) :
    leadingDigits (spell digits ++ rest) = (digits.map fun char => digit (some char), rest) := by
  have taken : ∀ symbol ∈ spell digits, isDigit symbol = true := by
    intro symbol member
    obtain ⟨char, inside, rfl⟩ := List.mem_map.1 member
    exact all char inside
  have stops : rest.takeWhile isDigit = [] ∧ rest.dropWhile isDigit = rest := by
    cases rest with
    | nil => exact ⟨rfl, rfl⟩
    | cons symbol rest =>
      have no := ends symbol rfl
      simp [no]
  rw [leadingDigits, List.takeWhile_append_of_pos taken, List.dropWhile_append_of_pos taken,
    stops.1, stops.2, List.append_nil, List.map_map]
  rfl

theorem digitsValue_digits (digits : List Char) :
    digitsValue (digits.map fun char => digit (some char)) = Nat.ofDigitChars 10 digits 0 := by
  rw [digitsValue, List.foldl_map, Nat.ofDigitChars_eq_foldl]
  simp only [digit, Option.getD_some, Nat.mul_comm 10]

/-- The digits of a number that is not zero begin with no zero. -/
theorem head_toDigits_ne_zero {value : Nat} (positive : value ≠ 0) :
    ∀ char ∈ (Nat.toDigits 10 value).head?, char ≠ '0' := by
  induction value using Nat.base_induction 10 (by decide) with
  | single value small =>
    rw [Nat.toDigits_of_lt_base small]
    rintro char ⟨rfl⟩
    simpa using positive
  | digit front last small more ih =>
    rw [← Nat.toDigits_append_toDigits (by decide) more small,
      List.head?_append, Option.or_of_isSome (List.isSome_head?.2 Nat.toDigits_ne_nil)]
    exact ih (by omega)

/-- A number has a first digit. -/
theorem toDigits_cons (value : Nat) :
    ∃ char others, Nat.toDigits 10 value = char :: others ∧ char.isDigit = true := by
  have nonempty : Nat.toDigits 10 value ≠ [] := Nat.toDigits_ne_nil
  obtain ⟨char, others, digits⟩ := List.exists_cons_of_ne_nil nonempty
  have first : char ∈ Nat.toDigits 10 value := digits ▸ List.mem_cons_self
  exact ⟨char, others, digits, Nat.isDigit_of_mem_toDigits (by decide) (by decide) first⟩

/-- The whole part of a number is read off its digits. -/
theorem wholePart?_toDigits (value : Nat) {rest : List Symbol}
    (ends : ∀ symbol ∈ rest.head?, isDigit symbol = false) :
    wholePart? (spell (Nat.toDigits 10 value) ++ rest) = some (value, rest) := by
  have all : ∀ char ∈ Nat.toDigits 10 value, char.isDigit = true :=
    fun char member => Nat.isDigit_of_mem_toDigits (by decide) (by decide) member
  have split := leadingDigits_append all ends
  have whole := digitsValue_digits (Nat.toDigits 10 value)
  rw [Nat.ofDigitChars_ten_toDigits] at whole
  unfold wholePart?
  rw [split]
  cases digits : Nat.toDigits 10 value with
  | nil => exact absurd digits Nat.toDigits_ne_nil
  | cons char others =>
    rw [digits] at whole
    split
    · rename_i empty
      cases empty
    · -- a zero with a digit behind it
      rename_i next more after zero
      simp only [List.map_cons, Prod.mk.injEq, List.cons.injEq] at zero
      obtain ⟨⟨first, second⟩, _⟩ := zero
      have isZero : char = '0' := by
        have inside : char ∈ Nat.toDigits 10 value := digits ▸ List.mem_cons_self
        have bounds := Char.isDigit_iff_toNat.1 (all char inside)
        have least : char.toNat = '0'.toNat := Nat.le_antisymm (Nat.sub_eq_zero_iff_le.1 first) bounds.1
        rw [← Char.ofNat_toNat char, least]
        rfl
      by_cases positive : value = 0
      · rw [positive, Nat.toDigits_zero, List.cons.injEq] at digits
        rw [← digits.2] at second
        cases second
      · refine absurd isZero (head_toDigits_ne_zero positive char ?_)
        rw [digits]
        rfl
    · rename_i same
      cases same
      rw [whole]

/-- The digits behind the point are read off their spelling. -/
theorem SpellsFraction.fractionPart? {digits : List Nat} {text : List Char} {rest : List Symbol}
    (spells : SpellsFraction digits text)
    (ends : ∀ symbol ∈ rest.head?, isDigit symbol = false ∧ symbol ≠ some '.') :
    fractionPart? (spell text ++ rest) = some (digits, rest) := by
  cases spells with
  | absent =>
    change Json.fractionPart? rest = some ([], rest)
    unfold Json.fractionPart?
    split
    · exact absurd rfl (ends _ rfl).2
    · rfl
  | digits nonempty small =>
    have alphabet : ∀ value < 10, (Nat.digitChar value).isDigit = true ∧
        digit (some (Nat.digitChar value)) = value := by decide
    have all : ∀ char ∈ digits.map Nat.digitChar, char.isDigit = true := by
      intro char member
      obtain ⟨value, inside, rfl⟩ := List.mem_map.1 member
      exact (alphabet value (small value inside)).1
    have values : ((digits.map Nat.digitChar).map fun char => digit (some char)) = digits := by
      rw [List.map_map]
      exact (List.map_congr_left fun value inside =>
        (alphabet value (small value inside)).2).trans (List.map_id digits)
    have split := leadingDigits_append all fun symbol first => (ends symbol first).1
    rw [values] at split
    rw [spell_cons, List.cons_append, Json.fractionPart?, split]
    cases digits with
    | nil => exact absurd rfl nonempty
    | cons => rfl

/-- The digits of an exponent are read to their end. -/
theorem exponentDigits?_spell {digits : List Char} {rest : List Symbol} (nonempty : digits ≠ [])
    (all : ∀ char ∈ digits, char.isDigit = true)
    (ends : ∀ symbol ∈ rest.head?, isDigit symbol = false) :
    exponentDigits? (spell digits ++ rest) = some (Nat.ofDigitChars 10 digits 0, rest) := by
  rw [exponentDigits?, leadingDigits_append all ends, ← digitsValue_digits]
  cases digits with
  | nil => exact absurd rfl nonempty
  | cons => rfl

/-- The exponent is read off its spelling. -/
theorem SpellsExponent.exponentPart? {exponent : Option Int} {text : List Char}
    {rest : List Symbol} (spells : SpellsExponent exponent text) (ends : Delimited rest) :
    exponentPart? (spell text ++ rest) = some (exponent, rest) := by
  have marked {letter : Char} (known : letter ∈ ['e', 'E']) :
      some letter = some 'e' ∨ some letter = some 'E' := by
    simpa using known
  have stops : ∀ symbol ∈ rest.head?, isDigit symbol = false :=
    fun symbol first => (ends symbol first).1
  cases spells with
  | absent =>
    cases rest with
    | nil => rfl
    | cons symbol rest =>
      obtain ⟨_, _, small, capital⟩ := ends symbol rfl
      exact if_neg (by simp [small, capital])
  | unsigned known nonempty all =>
    have read := exponentDigits?_spell nonempty all stops
    obtain ⟨char, others, rfl⟩ := List.exists_cons_of_ne_nil nonempty
    have isDigit : char.isDigit = true := all char List.mem_cons_self
    rw [spell_cons, List.cons_append] at read
    rw [spell_cons, List.cons_append, spell_cons, List.cons_append]
    refine (if_pos (marked known)).trans ?_
    split
    · rename_i same
      cases same
      cases isDigit
    · rename_i same
      cases same
      cases isDigit
    · exact congrArg (Option.map _) read
  | positive known nonempty all =>
    have read := exponentDigits?_spell nonempty all stops
    rw [spell_cons, spell_cons, List.cons_append, List.cons_append]
    exact (if_pos (marked known)).trans (congrArg (Option.map _) read)
  | negative known nonempty all =>
    have read := exponentDigits?_spell nonempty all stops
    rw [spell_cons, spell_cons, List.cons_append, List.cons_append]
    exact (if_pos (marked known)).trans (congrArg (Option.map _) read)

/-- No digit follows the digits in front of an exponent, and no point. -/
theorem SpellsExponent.ends {exponent : Option Int} {text : List Char} {rest : List Symbol}
    (spells : SpellsExponent exponent text) (ends : Delimited rest) :
    ∀ symbol ∈ (spell text ++ rest).head?, isDigit symbol = false ∧ symbol ≠ some '.' := by
  have letter {letter : Char} (known : letter ∈ ['e', 'E']) :
      isDigit (some letter) = false ∧ some letter ≠ some '.' := by
    simp only [List.mem_cons, List.not_mem_nil, or_false] at known
    rcases known with rfl | rfl <;> decide
  cases spells with
  | absent => exact fun symbol first => ⟨(ends symbol first).1, (ends symbol first).2.1⟩
  | unsigned known | positive known | negative known =>
    rintro symbol ⟨rfl⟩
    exact letter known

/-- No digit follows the whole part of a number. -/
theorem SpellsFraction.ends {digits : List Nat} {text : List Char} {rest : List Symbol}
    (spells : SpellsFraction digits text)
    (ends : ∀ symbol ∈ rest.head?, isDigit symbol = false ∧ symbol ≠ some '.') :
    ∀ symbol ∈ (spell text ++ rest).head?, isDigit symbol = false := by
  cases spells with
  | absent => exact fun symbol first => (ends symbol first).1
  | digits =>
    rintro symbol ⟨rfl⟩
    rfl

/-- **A spelled number is read to its end**, and its spelling begins with a sign or a digit. -/
theorem SpellsNumeral.numeral? {numeral : Numeral} {text : List Char} {rest : List Symbol}
    (spells : SpellsNumeral numeral text) (ends : Delimited rest) :
    numeral? (spell text ++ rest) = some (numeral, rest) ∧
      ∃ char others, text = char :: others ∧ (char.isDigit = true ∨ char = '-') := by
  obtain ⟨negative, whole, digits, exponent⟩ := numeral
  cases spells with
  | parts spellsFraction spellsExponent =>
    rename_i fraction power
    have behind := spellsExponent.ends ends
    have unsigned (sign : Bool) : unsigned? sign (spell (Nat.toDigits 10 whole ++
        (fraction ++ power)) ++ rest) = some (⟨sign, whole, digits, exponent⟩, rest) := by
      rw [spell_append, spell_append, List.append_assoc, List.append_assoc]
      simp [unsigned?, wholePart?_toDigits whole (spellsFraction.ends behind),
        spellsFraction.fractionPart? behind, spellsExponent.exponentPart? ends]
    cases negative with
    | true => exact ⟨unsigned true, '-', _, rfl, .inr rfl⟩
    | false =>
      obtain ⟨char, others, front, isDigit⟩ := toDigits_cons whole
      refine ⟨?_, char, _, congrArg (· ++ _) front, .inl isDigit⟩
      have read := unsigned false
      rw [front] at read
      simp only [Bool.false_eq_true, if_false, List.nil_append]
      rw [front]
      unfold Json.numeral?
      split
      · rename_i same
        cases same
        cases isDigit
      · exact read

/-! ## Tokens -/

/-- A text that begins with a sign or a digit begins with a number. -/
theorem lexeme_of_number {char : Char} (begins : char.isDigit = true ∨ char = '-')
    (rest : List Symbol) :
    lexeme (some char :: rest) =
      match numeral? (some char :: rest) with
      | some (numeral, rest) => .token (.number numeral) rest
      | none => .malformed := by
  unfold lexeme
  split
  case h_12 => rfl
  case h_1 =>
    rename_i same
    cases same
  all_goals
    rename_i same
    cases same
    rcases begins with isDigit | sign
    · cases isDigit
    · cases sign

/-- Whether a token is a number. -/
def Token.IsNumber : Token → Prop
  | .number _ => True
  | _ => False

/-- **A spelled token is the lexeme of any text that it begins**, if it is delimited where it is a
number; and it begins with no blank. -/
theorem SpellsToken.lexeme {token : Token} {text : List Char} {rest : List Symbol}
    (spells : SpellsToken token text) (ends : token.IsNumber → Delimited rest) :
    lexeme (spell text ++ rest) = .token token rest ∧
      ∃ char others, text = char :: others ∧ isBlank (some char) = false := by
  cases spells with
  | number spelled =>
    obtain ⟨read, char, others, rfl, begins⟩ := spelled.numeral? (ends trivial)
    refine ⟨?_, char, others, rfl, ?_⟩
    · rw [spell_cons, List.cons_append] at read ⊢
      rw [lexeme_of_number begins, read]
    · have blanks : char ≠ ' ' ∧ char ≠ '\t' ∧ char ≠ '\n' ∧ char ≠ '\r' := by
        refine ⟨?_, ?_, ?_, ?_⟩ <;> rintro rfl <;> simp at begins
      simp [isBlank, blanks]
  | string spelled =>
    rename_i said text
    obtain ⟨pieces, saying, read⟩ := spelled.literal?
    have split : spell ('"' :: text ++ ['"']) ++ rest = some '"' :: (spell text ++ some '"' :: rest) := by
      simp
    have same : said? pieces = some said := by
      rw [said?, saying, Option.map_some, List.reverse_nil, List.nil_append, String.ofList_toList]
    refine ⟨?_, '"', _, rfl, rfl⟩
    rw [split, Json.lexeme, read, List.reverse_nil, List.nil_append]
    dsimp only
    rw [same]
  | _ => exact ⟨rfl, _, _, rfl, rfl⟩

/-- Blanks are passed over. -/
theorem dropWhile_blanks {blanks : List Char} (few : Blanks blanks) (rest : List Symbol) :
    (spell blanks ++ rest).dropWhile isBlank = rest.dropWhile isBlank := by
  refine List.dropWhile_append_of_pos fun symbol member => ?_
  obtain ⟨char, inside, rfl⟩ := List.mem_map.1 member
  have known := few char inside
  simp only [List.mem_cons, List.not_mem_nil, or_false] at known
  rcases known with rfl | rfl | rfl | rfl <;> rfl

/-- **A spelled token is the token at the front**, behind blanks. -/
theorem next_of_spells {blanks text : List Char} {rest : List Symbol} {token : Token}
    (few : Blanks blanks) (spells : SpellsToken token text)
    (ends : token.IsNumber → Delimited rest) :
    Token.next (spell blanks ++ (spell text ++ rest)) = .token token rest := by
  obtain ⟨read, char, others, rfl, front⟩ := spells.lexeme ends
  rw [Token.next, dropWhile_blanks few, spell_cons, List.cons_append,
    List.dropWhile_cons_of_neg (by simp [front])]
  exact read

/-! ## Rows of tokens -/

/-- Whether a token may follow a number without blanks. -/
def Token.Ends : Token → Prop
  | .comma => True
  | .closeBracket => True
  | .closeBrace => True
  | _ => False

/-- A row of tokens in which what follows a number ends it. -/
def Apart (tokens : List Token) : Prop :=
  tokens.IsChain fun token next => token.IsNumber → next.Ends

/-- What ends a number delimits it. -/
theorem Spells.delimited {tokens : List Token} {text : List Char} (spells : Spells tokens text)
    (ends : ∀ token ∈ tokens.head?, token.Ends) : Delimited (spell text) := by
  have blank {char : Char} (known : char ∈ [' ', '\t', '\n', '\r']) : Delimited [some char] := by
    simp only [List.mem_cons, List.not_mem_nil, or_false] at known
    rintro symbol ⟨rfl⟩
    rcases known with rfl | rfl | rfl | rfl <;> decide
  cases spells with
  | ended few =>
    cases text with
    | nil => exact fun _ found => by cases found
    | cons char others =>
      rintro symbol ⟨rfl⟩
      exact blank (few char List.mem_cons_self) _ rfl
  | @token blanks text rest token tokens few first =>
    cases blanks with
    | nil =>
      have last : token.Ends := ends token rfl
      cases first with
      | comma | closeBracket | closeBrace =>
        rintro symbol ⟨rfl⟩
        decide
      | _ => cases last
    | cons char others =>
      rintro symbol ⟨rfl⟩
      exact blank (few char List.mem_cons_self) _ rfl

/-- **Every spelling of a row of tokens is taken apart into them**, if numbers are kept apart. -/
theorem lexes_of_spells {tokens : List Token} {text : List Char} (spells : Spells tokens text)
    (apart : Apart tokens) : Lexes (spell text) tokens := by
  induction spells with
  | ended few =>
    refine .ended ?_
    have all := dropWhile_blanks few []
    rw [List.append_nil] at all
    rw [Token.next, all]
    rfl
  | token few first behind ih =>
    obtain ⟨ends, others⟩ := List.isChain_cons.1 apart
    rw [spell_append, spell_append]
    refine .token _ (next_of_spells few first fun isNumber => ?_) (ih others)
    exact behind.delimited fun next found => ends next found isNumber

/-! ## Values -/

theorem Apart.cons {token : Token} {tokens : List Token} (word : ¬token.IsNumber)
    (apart : Apart tokens) : Apart (token :: tokens) :=
  List.isChain_cons.2 ⟨fun _ _ isNumber => absurd isNumber word, apart⟩

/-- Tokens may be followed by what ends a number. -/
theorem Apart.append {front back : List Token} {token : Token} (apart : Apart front)
    (ends : token.Ends) (others : Apart (token :: back)) : Apart (front ++ token :: back) := by
  refine List.isChain_append.2 ⟨apart, others, fun _ _ next found _ => ?_⟩
  cases found
  exact ends

theorem Apart.concat {front : List Token} {token : Token} (apart : Apart front)
    (ends : token.Ends) : Apart (front ++ [token]) :=
  apart.append ends (List.isChain_singleton _)

mutual
/-- **No two numbers meet between the tokens of a value.** -/
theorem apart_tokens (value : Raw) : Apart (tokens value) := by
  cases value with
  | null | boolean | number | string => exact List.isChain_singleton _
  | array items =>
    have inside : Apart (itemTokens items ++ [.closeBracket]) :=
      (apart_itemTokens items).concat trivial
    exact inside.cons id
  | object members =>
    have inside : Apart (memberTokens members ++ [.closeBrace]) :=
      (apart_memberTokens members).concat trivial
    exact inside.cons id

theorem apart_itemTokens (items : List Raw) : Apart (itemTokens items) := by
  match items with
  | [] => exact List.isChain_nil
  | [item] => exact apart_tokens item
  | item :: next :: rest =>
    exact (apart_tokens item).append trivial ((apart_itemTokens (next :: rest)).cons id)

theorem apart_memberTokens (members : List (Option String × Raw)) :
    Apart (memberTokens members) := by
  match members with
  | [] => exact List.isChain_nil
  | [(name, value)] => exact ((apart_tokens value).cons id).cons id
  | (name, value) :: next :: rest =>
    have others : Apart (.comma :: memberTokens (next :: rest)) :=
      (apart_memberTokens (next :: rest)).cons id
    have behind : Apart (tokens value ++ .comma :: memberTokens (next :: rest)) :=
      (apart_tokens value).append trivial others
    exact (behind.cons id).cons id
end

/-- **Every spelling of a value is read as that value.** -/
theorem parse?_of_spells {value : Raw} {text : List Char} (spells : Spells (tokens value) text) :
    parse? (spell text) = some value :=
  parse?_of_lexes (lexes_of_spells spells (apart_tokens value))

end Json

end Cosimulation
