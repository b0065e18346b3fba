import Cosimulation.Proofs.Text.Numeral
import Cosimulation.SignalValue
/-!
# Rendering values as digits

Every value has digits of its own, small and without padding: the binary numeral of a number, or the
row of digits in small letters.  Rendering pads them with zeros (`toList_toBits`), so whatever is
true of a rendered value is read off these digits.  A value is a word exactly when none of its
digits is unknown and there are not too many of them (`word?_eq_some_iff`), and neither the number
that it is written for nor its unknown digits are changed by rendering (`toBits_keeps_meaning`).
-/

namespace Cosimulation

set_option autoImplicit false

/-! ## Single digits -/

theorem isFourState_iff {char : Char} :
    isFourState char = true ↔
      char = '0' ∨ char = '1' ∨ char = 'x' ∨ char = 'X' ∨ char = 'z' ∨ char = 'Z' := by
  simp [isFourState, or_assoc]

/-- A digit as it is rendered. -/
def IsSmallDigit (char : Char) : Prop := char ∈ ['0', '1', 'x', 'z']

/-- A digit takes one byte, and it is a binary digit unless it is unknown. -/
theorem isSome_digit?_of_isFourState {char : Char} (digit : isFourState char = true) :
    char.utf8Size = 1 ∧ (Numeral.digit? 2 char).isSome = !isUnknown char := by
  rcases isFourState_iff.1 digit with rfl | rfl | rfl | rfl | rfl | rfl <;> decide

/-- A digit in its small form is as unknown as before, and a binary digit has no other form. -/
theorem toLower_of_isFourState {char : Char} (digit : isFourState char = true) :
    IsSmallDigit char.toLower ∧ isUnknown char.toLower = isUnknown char ∧
      (isUnknown char = false → char.toLower = char) := by
  unfold IsSmallDigit
  rcases isFourState_iff.1 digit with rfl | rfl | rfl | rfl | rfl | rfl <;> decide

namespace IsSmallDigit

variable {char : Char}

theorem cases (small : IsSmallDigit char) : char = '0' ∨ char = '1' ∨ char = 'x' ∨ char = 'z' := by
  simpa [IsSmallDigit] using small

theorem isFourState (small : IsSmallDigit char) : isFourState char = true := by
  rcases small.cases with rfl | rfl | rfl | rfl <;> decide

theorem toLower (small : IsSmallDigit char) : char.toLower = char := by
  rcases small.cases with rfl | rfl | rfl | rfl <;> decide

end IsSmallDigit

namespace SignalValue

/-! ## The digits of a value -/

/-- The digits of a value, small and without padding. -/
def digits : SignalValue → List Char
  | .int value => Nat.toDigits 2 value.toNat
  | .bits row => row.toList.map Char.toLower

/-- The number of digits of a value.  Zero has one digit. -/
def digitCount : SignalValue → Nat
  | .int value => value.toNat.log2 + 1
  | .bits row => row.length

/-- The number that a value is written for in base two. -/
def number : SignalValue → Nat
  | .int value => value.toNat
  | .bits row => Nat.ofDigitChars 2 row.toList 0

/-- A row may be written exactly when it has a digit and nothing but digits. -/
theorem validate_bits_iff {path row : String} :
    (bits row).validate path = .ok () ↔
      row ≠ "" ∧ ∀ char ∈ row.toList, isFourState char = true := by
  rw [validate]
  split
  · rename_i empty
    simp [String.isEmpty_iff.1 empty]
  · rename_i filled
    have nonempty : row ≠ "" := fun empty => filled (String.isEmpty_iff.2 empty)
    split
    · rename_i char found
      have bad : ¬isFourState char = true := by simpa using List.find?_some found
      simp only [reduceCtorEq, false_iff]
      exact fun all => bad (all.2 char (List.mem_of_find?_eq_some found))
    · rename_i clean
      simpa [nonempty] using clean

/-- A row of digits takes as many bytes as it has digits. -/
theorem utf8ByteSize_of_isFourState {row : String}
    (all : ∀ char ∈ row.toList, isFourState char = true) : row.utf8ByteSize = row.length := by
  induction row using String.push_induction with
  | empty => rfl
  | push row char ih =>
    simp only [String.toList_push, List.forall_mem_append, List.forall_mem_singleton] at all
    rw [String.utf8ByteSize_push, String.length_push, ih all.1,
      (isSome_digit?_of_isFourState all.2).1]

/-- A number has as many binary digits as its numeral. -/
theorem length_toDigits_two (value : Nat) : (Nat.toDigits 2 value).length = value.log2 + 1 := by
  have positive : 0 < (Nat.toDigits 2 value).length := Nat.length_toDigits_pos
  have enough : (Nat.toDigits 2 value).length ≤ value.log2 + 1 :=
    (Nat.length_toDigits_le_iff (by decide) (by omega)).2 Nat.lt_log2_self
  have needed := (Nat.length_toDigits_le_iff (by decide) positive).1 (Nat.le_refl _)
  by_cases zero : value = 0
  · rw [zero] at enough positive ⊢
    exact Nat.le_antisymm enough positive
  · exact Nat.le_antisymm enough ((Nat.log2_lt zero).2 needed)

theorem isSmallDigit_of_mem_toDigits {value : Nat} :
    ∀ char ∈ Nat.toDigits 2 value, char = '0' ∨ char = '1' := by
  have single : ∀ digit < 2, digit.digitChar = '0' ∨ digit.digitChar = '1' := by decide
  induction value using Nat.base_induction 2 (by decide) with
  | single value small =>
    rw [Nat.toDigits_of_lt_base small]
    simpa using single value small
  | digit front last small more ih =>
    rw [← Nat.toDigits_append_toDigits (by decide) more small, Nat.toDigits_of_lt_base small]
    intro char member
    rcases List.mem_append.1 member with before | behind
    · exact ih char before
    · rw [List.mem_singleton.1 behind]
      exact single last small

section Valid

variable {value : SignalValue} {path : String} (valid : value.validate path = .ok ())

include valid

theorem digits_ne_nil : value.digits ≠ [] := by
  cases value with
  | int value => exact Nat.toDigits_ne_nil
  | bits row =>
    rw [digits, ne_eq, List.map_eq_nil_iff, String.toList_eq_nil_iff]
    exact (validate_bits_iff.1 valid).1

theorem isSmallDigit_of_mem_digits : ∀ char ∈ value.digits, IsSmallDigit char := by
  intro char member
  cases value with
  | int value =>
    rcases isSmallDigit_of_mem_toDigits char member with rfl | rfl
    · simp [IsSmallDigit]
    · simp [IsSmallDigit]
  | bits row =>
    obtain ⟨written, among, rfl⟩ := List.mem_map.1 member
    exact (toLower_of_isFourState ((validate_bits_iff.1 valid).2 written among)).1

omit valid in
theorem length_digits : value.digits.length = value.digitCount := by
  cases value with
  | int value => exact length_toDigits_two value.toNat
  | bits row => rw [digits, List.length_map, String.length_toList, digitCount]

/-- The digits of a value are as unknown as the value. -/
theorem any_isUnknown_digits : value.digits.any isUnknown = value.hasUnknowns := by
  cases value with
  | int value =>
    rw [hasUnknowns, List.any_eq_false]
    intro char member
    rcases isSmallDigit_of_mem_toDigits char member with rfl | rfl <;> decide
  | bits row =>
    rw [digits, hasUnknowns, List.any_map, Bool.eq_iff_iff, List.any_eq_true, List.any_eq_true]
    refine exists_congr fun char => and_congr_right fun member => ?_
    have digit := (validate_bits_iff.1 valid).2 char member
    rw [Function.comp_apply, (toLower_of_isFourState digit).2.1]

/-- The digits of a value without unknown ones are written for its number. -/
theorem ofDigitChars_digits (known : value.hasUnknowns = false) :
    Nat.ofDigitChars 2 value.digits 0 = value.number := by
  cases value with
  | int value => exact Nat.ofDigitChars_toDigits (by decide) (by decide)
  | bits row =>
    have small : row.toList.map Char.toLower = row.toList := by
      refine (List.map_congr_left fun char member => ?_).trans row.toList.map_id
      have digit := (validate_bits_iff.1 valid).2 char member
      rw [hasUnknowns, List.any_eq_false] at known
      exact (toLower_of_isFourState digit).2.2 (Bool.eq_false_iff.2 (known char member))
    rw [digits, small, number]

/-- **Rendering pads the digits of a value with zeros.** -/
theorem toList_toBits (width : Nat) :
    (value.toBits width).toList =
      List.replicate (width - value.digits.length) '0' ++ value.digits := by
  cases value with
  | int value => rw [toBits, String.toList_ofList, Numeral.padded, digits]
  | bits row =>
    rw [toBits, String.toList_ofList, utf8ByteSize_of_isFourState (validate_bits_iff.1 valid).2,
      digits, List.length_map, String.length_toList]

end Valid

/-! ## Words -/

/-- The digits of a row are binary digits unless one of them is unknown. -/
theorem hasUnknowns_bits_iff {path row : String} (valid : (bits row).validate path = .ok ()) :
    (bits row).hasUnknowns = false ↔ ∀ char ∈ row.toList, (Numeral.digit? 2 char).isSome := by
  rw [hasUnknowns, List.any_eq_false]
  refine forall₂_congr fun char member => ?_
  rw [(isSome_digit?_of_isFourState ((validate_bits_iff.1 valid).2 char member)).2]
  simp

/-- A value without unknown digits, of which a row has at most 64, is written for a number of 64
bits. -/
theorem number_lt {value : SignalValue} {path : String} (valid : value.validate path = .ok ())
    (known : value.hasUnknowns = false) (short : ∀ row, value = .bits row → row.length ≤ 64) :
    value.number < UInt64.size := by
  cases value with
  | int value => exact value.toNat_lt
  | bits row =>
    have below := Numeral.ofDigitChars_lt ((hasUnknowns_bits_iff valid).1 known) 0
    have power : Nat.pow 2 row.toList.length ≤ Nat.pow 2 64 :=
      Nat.pow_le_pow_right (by decide) (String.length_toList ▸ short row rfl)
    exact Nat.lt_of_lt_of_le below (by rwa [Nat.zero_add, Nat.one_mul])

/-- A row of digits is read as the number that it is written for, if that number has 64 bits. -/
theorem read_eq_ok_iff {path row : String} (valid : (bits row).validate path = .ok ())
    {result : Nat} :
    Numeral.read 2 UInt64.size row.toList = .ok result ↔
      (bits row).hasUnknowns = false ∧ (bits row).number = result ∧ result < UInt64.size := by
  obtain ⟨nonempty, all⟩ := validate_bits_iff.1 valid
  have unsigned : '+' ∉ row.toList := fun plus => absurd (all '+' plus) (by decide)
  rw [Numeral.read_of_unsigned (by rwa [ne_eq, String.toList_eq_nil_iff]) unsigned,
    Numeral.readDigits_eq_ok_iff (by decide) (by decide), hasUnknowns_bits_iff valid, number]

/-- **A value is a word exactly when none of its digits is unknown and a row of them has at most 64;
the word is then the number that the value is written for.** -/
theorem word?_eq_some_iff {value : SignalValue} {path : String}
    (valid : value.validate path = .ok ()) {word : UInt64} :
    value.word? = some word ↔
      value.hasUnknowns = false ∧ (∀ row, value = .bits row → row.length ≤ 64) ∧
        word.toNat = value.number := by
  cases value with
  | int value => simp [word?, hasUnknowns, number, ← UInt64.toNat_inj, eq_comm]
  | bits row =>
    rw [word?, utf8ByteSize_of_isFourState (validate_bits_iff.1 valid).2]
    simp only [bits.injEq, forall_eq']
    split
    · rename_i short
      split
      · rename_i result read
        obtain ⟨known, rfl, small⟩ := (read_eq_ok_iff valid).1 read
        have same : (UInt64.ofNat (bits row).number).toNat = (bits row).number := by
          rw [UInt64.toNat_ofNat', Nat.mod_eq_of_lt small]
        rw [Option.some.injEq, ← UInt64.toNat_inj, same]
        exact ⟨fun found => ⟨known, short, found.symm⟩, fun h => h.2.2.symm⟩
      · rename_i malformation refused
        simp only [reduceCtorEq, false_iff]
        rintro ⟨known, -, -⟩
        have small := number_lt valid known (by simpa using short)
        rw [(read_eq_ok_iff valid).2 ⟨known, rfl, small⟩] at refused
        cases refused
    · rename_i long
      simp [long]

/-- A value that is a word has at most 64 digits. -/
theorem digitCount_le {value : SignalValue}
    (short : ∀ row, value = .bits row → row.length ≤ 64) : value.digitCount ≤ 64 := by
  cases value with
  | int value =>
    rw [← length_digits, digits, Nat.length_toDigits_le_iff (by decide) (by decide)]
    exact value.toNat_lt
  | bits row => exact short row rfl

/-- **A value keeps its meaning when it is rendered.**  A value that may be written is rendered in
small digits, as many as it has but at least as many as asked for.  The row can be written in its
turn, has unknown digits exactly if the value has, and is rendered as itself.  The value is a word
exactly if it has no unknown digit and, being a row, at most 64 digits; the word is the number that
it is written for, and the row stands for the same word unless it was made too wide for one. -/
theorem toBits_keeps_meaning {value : SignalValue} {path : String}
    (valid : value.validate path = .ok ()) (width : Nat) :
    let row := value.toBits width
    row ≠ "" ∧ (∀ char ∈ row.toList, char ∈ ['0', '1', 'x', 'z']) ∧
      (∀ path, (bits row).validate path = .ok ()) ∧
      row.length = max width value.digitCount ∧
      (bits row).hasUnknowns = value.hasUnknowns ∧
      (bits row).toBits width = row ∧
      (value.word?.isSome ↔
        value.hasUnknowns = false ∧ ∀ digits, value = .bits digits → digits.length ≤ 64) ∧
      ∀ word, value.word? = some word → word.toNat = value.number ∧
        (width ≤ 64 → (bits row).word? = some word) := by
  intro row
  have padded : row.toList = List.replicate (width - value.digits.length) '0' ++ value.digits :=
    toList_toBits valid width
  have small : ∀ char ∈ row.toList, IsSmallDigit char := by
    intro char member
    rw [padded] at member
    rcases List.mem_append.1 member with zero | digit
    · rw [List.eq_of_mem_replicate zero]
      simp [IsSmallDigit]
    · exact isSmallDigit_of_mem_digits valid char digit
  have nonempty : row ≠ "" := by
    rw [ne_eq, ← String.toList_eq_nil_iff, padded, List.append_eq_nil_iff]
    exact fun empty => digits_ne_nil valid empty.2
  have again (path : String) : (bits row).validate path = .ok () :=
    validate_bits_iff.2 ⟨nonempty, fun char member => (small char member).isFourState⟩
  have length : row.length = max width value.digitCount := by
    rw [← String.length_toList, padded, List.length_append, List.length_replicate, length_digits]
    omega
  have unknowns : (bits row).hasUnknowns = value.hasUnknowns := by
    rw [← any_isUnknown_digits valid, hasUnknowns, padded, List.any_append, List.any_replicate]
    simp [isUnknown]
  have itself : (bits row).digits = row.toList :=
    (List.map_congr_left fun char member => (small char member).toLower).trans row.toList.map_id
  refine ⟨nonempty, small, again, length, unknowns, ?_, ?_, ?_⟩
  · have wide : width - row.toList.length = 0 := by
      rw [String.length_toList, length]
      omega
    rw [← String.toList_inj, toList_toBits (again "") width, itself, wide]
    rfl
  · rw [Option.isSome_iff_exists]
    constructor
    · rintro ⟨word, found⟩
      obtain ⟨known, short, _⟩ := (word?_eq_some_iff valid).1 found
      exact ⟨known, short⟩
    · rintro ⟨known, short⟩
      refine ⟨.ofNat value.number, (word?_eq_some_iff valid).2 ⟨known, short, ?_⟩⟩
      rw [UInt64.toNat_ofNat', Nat.mod_eq_of_lt (number_lt valid known short)]
  · intro word found
    obtain ⟨known, short, same⟩ := (word?_eq_some_iff valid).1 found
    refine ⟨same, fun narrow => (word?_eq_some_iff (again "")).2 ⟨unknowns.trans known, ?_, ?_⟩⟩
    · rintro _ ⟨rfl⟩
      exact length ▸ Nat.max_le.2 ⟨narrow, digitCount_le short⟩
    · rw [same, number, padded, Nat.ofDigitChars_append, Nat.ofDigitChars_replicate_zero,
        Nat.mul_zero, ofDigitChars_digits valid known]

/-- The longest row that is a word, all of its digits one, stands for the largest word. -/
theorem toBits_keeps_meaning_ones :
    let value := SignalValue.bits "1111111111111111111111111111111111111111111111111111111111111111"
    value.validate "tb.bus" = .ok () ∧ value.word? = some 18446744073709551615 ∧
      (value.toBits 64).length = 64 ∧
      (bits (value.toBits 64)).word? = some 18446744073709551615 := by
  intro value
  have valid : value.validate "tb.bus" = .ok () :=
    validate_bits_iff.2 ⟨by decide, List.all_eq_true.1 (by decide +kernel)⟩
  have word : value.word? = some 18446744073709551615 := by decide +kernel
  have count : value.digitCount = 64 := by decide +kernel
  obtain ⟨_, _, _, length, _, _, _, words⟩ := toBits_keeps_meaning valid 64
  exact ⟨valid, word, count ▸ length, (words _ word).2 (Nat.le_refl 64)⟩

end SignalValue

end Cosimulation
