import Cosimulation.Text.Numeral
/-!
# Reading numerals

Reading a row of digits succeeds exactly when all its characters are digits and the number that it
is written for lies below the bound, and then gives that number (`readDigits_eq_ok_iff`).  So the
bound is tested on every beginning of the row and yet only the whole row matters.  A numeral may have
a plus sign in front of its digits and as many zeros as it likes (`read_eq_ok_iff`).
-/

namespace Cosimulation.Numeral

set_option autoImplicit false

variable {radix bound : Nat}

theorem digit?_eq_some_iff {char : Char} {value : Nat} :
    digit? radix char = some value ↔
      '0' ≤ char ∧ value < radix ∧ char.toNat - '0'.toNat = value := by
  unfold digit?
  split
  · rename_i digit
    simp only [Option.some.injEq]
    exact ⟨fun same => ⟨digit.1, same ▸ digit.2, same⟩, fun h => h.2.2⟩
  · rename_i other
    simp only [reduceCtorEq, false_iff]
    rintro ⟨least, small, rfl⟩
    exact other ⟨least, small⟩

/-- More digits do not make a number smaller. -/
theorem le_ofDigitChars (positive : 0 < radix) (digits : List Char) (value : Nat) :
    value ≤ Nat.ofDigitChars radix digits value := by
  induction digits generalizing value with
  | nil => exact Nat.le_refl _
  | cons char digits ih =>
    rw [Nat.ofDigitChars_cons]
    have grows : 1 * value ≤ radix * value := Nat.mul_le_mul_right _ positive
    have := ih (radix * value + (char.toNat - '0'.toNat))
    omega

/-- **Reading digits succeeds exactly on digits of a number below the bound.** -/
theorem readDigits_eq_ok_iff (positive : 0 < radix) {value : Nat} (below : value < bound)
    {digits : List Char} {result : Nat} :
    readDigits radix bound value digits = .ok result ↔
      (∀ char ∈ digits, (digit? radix char).isSome) ∧
        Nat.ofDigitChars radix digits value = result ∧ result < bound := by
  induction digits generalizing value with
  | nil =>
    simp only [readDigits, Nat.ofDigitChars_nil, Except.ok.injEq, List.not_mem_nil, false_implies,
      implies_true, true_and]
    exact ⟨fun same => ⟨same, same ▸ below⟩, fun h => h.1⟩
  | cons char digits ih =>
    rw [readDigits, List.forall_mem_cons, Nat.ofDigitChars_cons]
    cases read : digit? radix char with
    | none => simp
    | some digit =>
      obtain ⟨_, _, same⟩ := digit?_eq_some_iff.1 read
      rw [same, Nat.mul_comm radix value]
      dsimp only
      split
      · rename_i room
        simpa using ih room
      · rename_i full
        have least := le_ofDigitChars positive digits (value * radix + digit)
        simp only [reduceCtorEq, false_iff]
        rintro ⟨_, rfl, small⟩
        exact full (Nat.lt_of_le_of_lt least small)

/-- Without a sign reading a numeral is reading its digits. -/
theorem read_of_unsigned {digits : List Char} (nonempty : digits ≠ [])
    (unsigned : '+' ∉ digits) : read radix bound digits = readDigits radix bound 0 digits := by
  unfold read
  split
  · exact absurd rfl nonempty
  · exact absurd List.mem_cons_self unsigned
  · exact absurd List.mem_cons_self unsigned
  · rfl

/-- **Reading a numeral succeeds exactly on an optional plus sign and at least one digit** of a
number below the bound. -/
theorem read_eq_ok_iff (positive : 0 < radix) (room : 0 < bound) {text : List Char} {value : Nat} :
    read radix bound text = .ok value ↔
      ∃ digits, (text = digits ∨ text = '+' :: digits) ∧ digits ≠ [] ∧
        (∀ char ∈ digits, (digit? radix char).isSome) ∧
        Nat.ofDigitChars radix digits 0 = value ∧ value < bound := by
  constructor
  · intro found
    unfold read at found
    split at found
    · cases found
    · cases found
    · rename_i digits nonempty
      exact ⟨digits, .inr rfl, fun empty => nonempty (empty ▸ rfl),
        (readDigits_eq_ok_iff positive room).1 found⟩
    · rename_i nonempty _ _
      exact ⟨text, .inl rfl, nonempty, (readDigits_eq_ok_iff positive room).1 found⟩
  · rintro ⟨digits, rfl | rfl, nonempty, all, number⟩
    · have unsigned : '+' ∉ text := by
        intro member
        simpa [digit?] using all '+' member
      rw [read_of_unsigned nonempty unsigned]
      exact (readDigits_eq_ok_iff positive room).2 ⟨all, number⟩
    · -- A sign that stands alone is refused, so the digits behind it have to show.
      obtain ⟨first, others, rfl⟩ := List.exists_cons_of_ne_nil nonempty
      exact (readDigits_eq_ok_iff positive room).2 ⟨all, number⟩

/-- The digits of the radix ten are the characters that are called digits. -/
theorem isSome_digit?_ten (char : Char) : (digit? 10 char).isSome = char.isDigit := by
  have range : ('0' ≤ char ∧ char.toNat - '0'.toNat < 10) ↔ char.isDigit = true := by
    have least : '0' ≤ char ↔ '0'.toNat ≤ char.toNat := Iff.rfl
    have greatest : '9'.toNat = '0'.toNat + 9 := rfl
    rw [Char.isDigit_iff_toNat, least, greatest]
    omega
  rw [digit?, Bool.eq_iff_iff, ← range]
  split
  · rename_i digit
    simp only [Option.isSome_some, digit, and_self]
  · rename_i other
    simp only [Option.isSome_none, Bool.false_eq_true, other]

/-- A row of digits is written for a number below the power of its length. -/
theorem ofDigitChars_lt {digits : List Char}
    (all : ∀ char ∈ digits, (digit? radix char).isSome) (value : Nat) :
    Nat.ofDigitChars radix digits value < (value + 1) * Nat.pow radix digits.length := by
  rw [Nat.pow_eq]
  induction digits generalizing value with
  | nil => simp
  | cons char digits ih =>
    obtain ⟨first, others⟩ := List.forall_mem_cons.1 all
    obtain ⟨digit, read⟩ := Option.isSome_iff_exists.1 first
    obtain ⟨_, small, same⟩ := digit?_eq_some_iff.1 read
    rw [Nat.ofDigitChars_cons, same, List.length_cons, Nat.pow_succ']
    have bound : radix * value + digit + 1 ≤ (value + 1) * radix := by
      rw [Nat.add_mul, Nat.mul_comm radix value]
      omega
    calc
      Nat.ofDigitChars radix digits (radix * value + digit)
        < (radix * value + digit + 1) * radix ^ digits.length := ih others _
      _ ≤ (value + 1) * radix * radix ^ digits.length := Nat.mul_le_mul_right _ bound
      _ = (value + 1) * (radix * radix ^ digits.length) := Nat.mul_assoc ..

end Cosimulation.Numeral
