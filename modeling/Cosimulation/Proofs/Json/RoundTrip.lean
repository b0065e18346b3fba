import Cosimulation.Json.Holding
import Cosimulation.Json.Printer
import Cosimulation.Proofs.Json.Lexing
/-!
# Reading back printed values

A plain value is one that messages are written as: its numbers are natural and fit 64 bits, and it
is not nested too deeply.  Its printed form is one of its spellings (`Plain.spells`) and so is read
as the same value in place.  Which values can be held, whatever they are written as, is a question
of their numbers and their depth alone, and every value is held as what it is
(`hold?_eq_some_iff`).
-/

namespace Cosimulation.Json

set_option autoImplicit false

open Utf8 (Symbol)

mutual
/-- A value as it stands in a text that is printed from it. -/
def raw : Json String → Raw
  | .null => .null
  | .boolean value => .boolean value
  | .number numeral => .number numeral
  | .string text => .string (some text)
  | .array items => .array (rawItems items)
  | .object members => .object (rawMembers members)

/-- The items of an array as they stand in a text. -/
def rawItems : List (Json String) → List Raw
  | [] => []
  | item :: rest => raw item :: rawItems rest

/-- The members of an object as they stand in a text. -/
def rawMembers : List (String × Json String) → List (Option String × Raw)
  | [] => []
  | (name, value) :: rest => (some name, raw value) :: rawMembers rest
end

mutual
/-- A value is known by what it stands as. -/
theorem raw_injective {one two : Json String} (same : raw one = raw two) : one = two := by
  cases one with
  | null => cases two <;> simp [raw] at same ⊢
  | boolean => cases two <;> simp [raw] at same ⊢; exact same
  | number => cases two <;> simp [raw] at same ⊢; exact same
  | string => cases two <;> simp [raw] at same ⊢; exact same
  | array items => cases two <;> simp [raw] at same ⊢; exact rawItems_injective same
  | object members => cases two <;> simp [raw] at same ⊢; exact rawMembers_injective same

theorem rawItems_injective {one two : List (Json String)} (same : rawItems one = rawItems two) :
    one = two := by
  match one, two with
  | [], [] => rfl
  | item :: rest, other :: others =>
    simp only [rawItems, List.cons.injEq] at same
    rw [raw_injective same.1, rawItems_injective same.2]

theorem rawMembers_injective {one two : List (String × Json String)}
    (same : rawMembers one = rawMembers two) : one = two := by
  match one, two with
  | [], [] => rfl
  | (name, value) :: rest, (otherName, other) :: others =>
    simp only [rawMembers, List.cons.injEq, Prod.mk.injEq, Option.some.injEq] at same
    rw [same.1.1, raw_injective same.1.2, rawMembers_injective same.2]
end
/-- A value that messages are written as, with no more than `room` arrays and objects inside each
other. -/
inductive Plain : (room : Nat) → Json String → Prop where
  | null {room : Nat} : Plain room .null
  | boolean {room : Nat} (value : Bool) : Plain room (.boolean value)
  | natural {room value : Nat} : value < UInt64.size → Plain room (.natural value)
  | string {room : Nat} (text : String) : Plain room (.string text)
  | array {room : Nat} {items : List (Json String)} :
      (∀ item ∈ items, Plain room item) → Plain (room + 1) (.array items)
  | object {room : Nat} {members : List (String × Json String)} :
      (∀ member ∈ members, Plain room member.2) → Plain (room + 1) (.object members)

/-! ## Spellings of values -/

/-- A text that spells a value. -/
abbrev SpellsValue (json : Json String) (text : List Char) : Prop :=
  Spells (tokens (raw json)) text

/-- The printed form of a character spells it. -/
theorem spellsChar_escape (char : Char) : SpellsChar char (escape char) := by
  unfold escape
  split
  case h_8 noQuote noBackslash noBackspace noFeed noNewline noReturn noTab =>
    split
    · rename_i control
      have few : char.toNat < 32 := control
      have alphabet : ∀ code < 32, ['0', '0', Nat.digitChar (code / 16), Nat.digitChar (code % 16)].map
          Char.toLower = Hex.digits 4 code := by decide
      exact .unit ⟨by omega, alphabet _ few⟩
    · rename_i printable
      exact .itself (Char.not_lt.1 printable) noQuote noBackslash
  all_goals exact .letter (by decide)

theorem spellsChars_escape (chars : List Char) : SpellsChars chars (chars.flatMap escape) := by
  induction chars with
  | nil => exact .nil
  | cons char chars ih => exact .cons (spellsChar_escape char) ih

theorem spellsToken_quoted (text : String) : SpellsToken (.string (some text)) (quoted text) :=
  .string (spellsChars_escape text.toList)

theorem spellsToken_natural (value : Nat) :
    SpellsToken (.number (.ofNat value)) (Numeral.ofNat value).print := by
  have spells : SpellsNumeral (.ofNat value) _ := .parts .absent .absent
  have same : (Numeral.ofNat value).print = (if (Numeral.ofNat value).negative then ['-'] else []) ++
      (Nat.toDigits 10 (Numeral.ofNat value).whole ++ ([] ++ [])) := by
    simp [Numeral.print, Numeral.ofNat]
  exact .number (same ▸ spells)

theorem spells_printItems {items : List (Json String)}
    (all : ∀ item ∈ items, SpellsValue item (print item)) :
    Spells (itemTokens (rawItems items)) (printItems items) := by
  induction items with
  | nil => exact .ended blanks_nil
  | cons item others ih =>
    obtain ⟨first, rest⟩ := List.forall_mem_cons.1 all
    cases others with
    | nil => exact first
    | cons next others => exact first.append ((ih rest).cons .comma)

theorem spells_printMembers {members : List (String × Json String)}
    (all : ∀ member ∈ members, SpellsValue member.2 (print member.2)) :
    Spells (memberTokens (rawMembers members)) (printMembers members) := by
  induction members with
  | nil => exact .ended blanks_nil
  | cons member others ih =>
    obtain ⟨name, value⟩ := member
    obtain ⟨first, rest⟩ := List.forall_mem_cons.1 all
    cases others with
    | nil => exact (first.cons .colon).cons (spellsToken_quoted name)
    | cons next others =>
      exact ((first.append ((ih rest).cons .comma)).cons .colon).cons (spellsToken_quoted name)

/-- **The printed form of a plain value spells it.** -/
theorem Plain.spells {room : Nat} {json : Json String} (plain : Plain room json) :
    SpellsValue json (print json) := by
  have ended : Spells [] [] := .ended blanks_nil
  induction plain with
  | null => exact ended.cons .null
  | boolean value =>
    cases value with
    | true => exact ended.cons .isTrue
    | false => exact ended.cons .isFalse
  | @natural _ value =>
    have spells := ended.cons (spellsToken_natural value)
    rwa [List.append_nil] at spells
  | string text =>
    have spells := ended.cons (spellsToken_quoted text)
    rwa [List.append_nil] at spells
  | array _ ih =>
    have whole := ((spells_printItems ih).append (ended.cons .closeBracket)).cons .openBracket
    exact whole
  | object _ ih =>
    have whole := ((spells_printMembers ih).append (ended.cons .closeBrace)).cons .openBrace
    exact whole

/-! ## Holding values -/

/-- A value that can be held: its numbers are in the range of a double, and it has no more than
`room` arrays and objects inside each other. -/
inductive Holdable : (room : Nat) → Json String → Prop where
  | null {room : Nat} : Holdable room .null
  | boolean {room : Nat} (value : Bool) : Holdable room (.boolean value)
  | number {room : Nat} {numeral : Numeral} : numeral.fitsDouble = true →
      Holdable room (.number numeral)
  | string {room : Nat} (text : String) : Holdable room (.string text)
  | array {room : Nat} {items : List (Json String)} :
      (∀ item ∈ items, Holdable room item) → Holdable (room + 1) (.array items)
  | object {room : Nat} {members : List (String × Json String)} :
      (∀ member ∈ members, Holdable room member.2) → Holdable (room + 1) (.object members)

theorem mapM_rawItems {hold : Raw → Option (Json String)} {items : List (Json String)}
    (all : ∀ item ∈ items, hold (raw item) = some item) :
    (rawItems items).mapM hold = some items := by
  induction items with
  | nil => rfl
  | cons item others ih =>
    have behind := ih fun item member => all item (List.mem_cons_of_mem _ member)
    simp [rawItems, all item List.mem_cons_self, behind]

theorem mapM_rawMembers {hold : Raw → Option (Json String)} {members : List (String × Json String)}
    (all : ∀ member ∈ members, hold (raw member.2) = some member.2) :
    (rawMembers members).mapM (fun member => do return (← member.1, ← hold member.2)) =
      some members := by
  induction members with
  | nil => rfl
  | cons member others ih =>
    obtain ⟨name, value⟩ := member
    have first : hold (raw value) = some value := all (name, value) List.mem_cons_self
    have behind := ih fun member inside => all member (List.mem_cons_of_mem _ inside)
    rw [rawMembers, List.mapM_cons, behind]
    simp [first]

/-- Digits whose number fits 64 bits are all taken into the significand. -/
theorem foldl_significand (digits : List Char) (start : Nat)
    (small : Nat.ofDigitChars 10 digits start < UInt64.size) :
    digits.foldl (fun ((significand, left) : Nat × Nat) char =>
      let grown := significand * 10 + (char.toNat - '0'.toNat)
      if left = 0 ∧ grown < UInt64.size then (grown, 0) else (significand, left + 1)) (start, 0) =
        (Nat.ofDigitChars 10 digits start, 0) := by
  induction digits generalizing start with
  | nil => rfl
  | cons char digits ih =>
    rw [Nat.ofDigitChars_cons] at small ⊢
    have grows : 10 * start + (char.toNat - '0'.toNat) < UInt64.size := by
      rw [Nat.ofDigitChars_eq_ofDigitChars_zero] at small
      have : 1 * (10 * start + (char.toNat - '0'.toNat)) ≤
          10 ^ digits.length * (10 * start + (char.toNat - '0'.toNat)) :=
        Nat.mul_le_mul_right _ (Nat.one_le_pow _ _ (by decide))
      omega
    rw [List.foldl_cons]
    dsimp only
    rw [Nat.mul_comm start 10, if_pos ⟨rfl, grows⟩]
    exact ih _ small

/-- A natural number that fits 64 bits is its own significand. -/
theorem wholeSignificand_of_lt {value : Nat} (small : value < UInt64.size) :
    Numeral.wholeSignificand value = (value, 0) := by
  have folded := foldl_significand (Nat.toDigits 10 value) 0 (by simpa using small)
  rwa [Nat.ofDigitChars_ten_toDigits] at folded

/-- Rounding does not double a number. -/
theorem roundDouble_le (value : Nat) : Numeral.roundDouble value ≤ 2 * value := by
  unfold Numeral.roundDouble
  generalize surplus : value.log2 - 52 = bits
  have kept : (value >>> bits) <<< bits ≤ value := by
    rw [Nat.shiftLeft_eq, Nat.shiftRight_eq_div_pow]
    exact Nat.div_mul_le_self ..
  dsimp only
  split
  · omega
  · rename_i rounded
    have unit : 2 ^ bits ≤ value := by
      have positive : value ≠ 0 := by
        rintro rfl
        exact rounded (.inl surplus.symm)
      exact Nat.le_trans (Nat.pow_le_pow_right (by decide) (by omega))
        (Nat.log2_self_le positive)
    rw [Nat.shiftLeft_eq, Nat.add_mul, Nat.one_mul, ← Nat.shiftLeft_eq]
    omega

/-- A natural number that fits 64 bits is in the range of a double. -/
theorem fitsDouble_ofNat {value : Nat} (small : value < UInt64.size) :
    (Numeral.ofNat value).fitsDouble = true := by
  have significand := roundDouble_le value
  have power := roundDouble_le (Nat.pow 10 0)
  have product := roundDouble_le (Numeral.roundDouble value * Numeral.roundDouble (Nat.pow 10 0))
  have bound : Numeral.roundDouble value * Numeral.roundDouble (Nat.pow 10 0) ≤ 2 * value * 2 :=
    Nat.mul_le_mul significand power
  have wide : 8 * UInt64.size ≤ Nat.pow 2 1024 := by decide +kernel
  have scaled : (Numeral.ofNat value).scaled = (value, 0) := by
    simp [Numeral.scaled, Numeral.ofNat, wholeSignificand_of_lt small, Numeral.fractionSignificand]
  rw [Numeral.fitsDouble, scaled]
  dsimp only
  split
  · rfl
  · rw [if_neg (by decide), Int.toNat_zero]
    exact decide_eq_true (by omega)

/-- A plain value can be held. -/
theorem Plain.holdable {room : Nat} {json : Json String} (plain : Plain room json) :
    Holdable room json := by
  induction plain with
  | null => exact .null
  | boolean value => exact .boolean value
  | natural small => exact .number (fitsDouble_ofNat small)
  | string text => exact .string text
  | array _ ih => exact .array ih
  | object _ ih => exact .object ih

theorem hold?_raw {room : Nat} {json : Json String} (holdable : Holdable room json) :
    hold? room (raw json) = some json := by
  induction holdable with
  | null => simp [raw, hold?]
  | boolean => simp [raw, hold?]
  | number fits => simp [raw, hold?, fits]
  | string => simp [raw, hold?]
  | array _ ih => rw [raw, hold?, mapM_rawItems ih, Option.map_some]
  | object _ ih => rw [raw, hold?, mapM_rawMembers ih, Option.map_some]

theorem rawItems_of_mapM {room : Nat} {items : List Raw} {held : List (Json String)}
    (each : ∀ value json, hold? room value = some json → Holdable room json ∧ value = raw json)
    (all : items.mapM (hold? room) = some held) :
    (∀ item ∈ held, Holdable room item) ∧ items = rawItems held := by
  induction items generalizing held with
  | nil =>
    cases all
    exact ⟨nofun, rfl⟩
  | cons value items ih =>
    simp only [List.mapM_cons, Option.bind_eq_bind, Option.bind_eq_some_iff, Option.pure_def,
      Option.some.injEq] at all
    obtain ⟨json, first, rest, others, rfl⟩ := all
    obtain ⟨holdable, rfl⟩ := each value json first
    obtain ⟨behind, rfl⟩ := ih others
    exact ⟨List.forall_mem_cons.2 ⟨holdable, behind⟩, rfl⟩

theorem rawMembers_of_mapM {room : Nat} {members : List (Option String × Raw)}
    {held : List (String × Json String)}
    (each : ∀ value json, hold? room value = some json → Holdable room json ∧ value = raw json)
    (all : (members.mapM fun (member : Option String × Raw) => do
      return (← member.1, ← hold? room member.2)) = some held) :
    (∀ member ∈ held, Holdable room member.2) ∧ members = rawMembers held := by
  induction members generalizing held with
  | nil =>
    cases all
    exact ⟨nofun, rfl⟩
  | cons member members ih =>
    obtain ⟨name, value⟩ := member
    simp only [List.mapM_cons, Option.bind_eq_bind, Option.bind_eq_some_iff, Option.pure_def,
      Option.some.injEq] at all
    obtain ⟨_, ⟨name, rfl, json, first, rfl⟩, rest, others, rfl⟩ := all
    obtain ⟨holdable, rfl⟩ := each value json first
    obtain ⟨behind, rfl⟩ := ih others
    exact ⟨List.forall_mem_cons.2 ⟨holdable, behind⟩, rfl⟩

/-- What has been held can be held, and stands in the text as it is held. -/
theorem eq_raw_of_hold? {room : Nat} {value : Raw} {json : Json String}
    (held : hold? room value = some json) : Holdable room json ∧ value = raw json := by
  cases value with
  | null =>
    rw [hold?] at held
    cases held
    exact ⟨.null, rfl⟩
  | boolean value =>
    rw [hold?] at held
    cases held
    exact ⟨.boolean value, rfl⟩
  | number numeral =>
    rw [hold?] at held
    split at held
    · rename_i fits
      cases held
      exact ⟨.number fits, rfl⟩
    · cases held
  | string text =>
    rw [hold?] at held
    obtain ⟨text, rfl, rfl⟩ := Option.map_eq_some_iff.1 held
    exact ⟨.string text, rfl⟩
  | array items =>
    cases room with
    | zero => cases held
    | succ room =>
      obtain ⟨items, all, rfl⟩ := Option.map_eq_some_iff.1 held
      obtain ⟨holdable, rfl⟩ := rawItems_of_mapM (fun _ _ => eq_raw_of_hold?) all
      exact ⟨.array holdable, rfl⟩
  | object members =>
    cases room with
    | zero => cases held
    | succ room =>
      obtain ⟨members, all, rfl⟩ := Option.map_eq_some_iff.1 held
      obtain ⟨holdable, rfl⟩ := rawMembers_of_mapM (fun _ _ => eq_raw_of_hold?) all
      exact ⟨.object holdable, rfl⟩
termination_by room

/-- **What can be held, and as what.** -/
theorem hold?_eq_some_iff {room : Nat} {value : Raw} {json : Json String} :
    hold? room value = some json ↔ Holdable room json ∧ value = raw json :=
  ⟨eq_raw_of_hold?, fun ⟨holdable, same⟩ => same ▸ hold?_raw holdable⟩

end Cosimulation.Json
