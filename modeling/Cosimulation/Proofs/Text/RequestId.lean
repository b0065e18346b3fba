import Cosimulation.RequestId
/-!
# Reading back request ids

Small hexadecimal digits give back the number they were made from (`value?_digits`), and the written
form of a request id is a spelling of it (`parse?_text`).
-/

namespace Cosimulation

set_option autoImplicit false

namespace Hex

@[simp] theorem length_digits (count value : Nat) : (digits count value).length = count := by
  induction count generalizing value with
  | zero => rfl
  | succ count ih => simp [digits, ih]

theorem digit?_digit : ∀ value < 16, digit? (digit value) = some value := by
  decide

/-- Digits are read one row after the other. -/
theorem value?_append (value : Nat) (front back : List Char) :
    value? value (front ++ back) = (value? value front).bind fun value => value? value back := by
  induction front generalizing value with
  | nil => rfl
  | cons char front ih =>
    rw [List.cons_append, value?, value?]
    split
    · rfl
    · exact ih _

/-- **The last digits of a number have the value of the number modulo a power of sixteen.** -/
theorem value?_digits (count value before : Nat) :
    value? before (digits count value) =
      some (before * Nat.pow 16 count + value % Nat.pow 16 count) := by
  rw [Nat.pow_eq]
  induction count generalizing value with
  | zero => simp [digits, value?, Nat.mod_one]
  | succ count ih =>
    have split : value % 16 ^ (count + 1) = value / 16 % 16 ^ count * 16 + value % 16 := by
      rw [Nat.pow_succ', Nat.mod_mul]
      omega
    rw [digits, value?_append, ih, Option.bind_some, value?, digit?_digit _ (by omega)]
    dsimp only
    rw [value?, split, Nat.pow_succ]
    congr 1
    rw [Nat.add_mul, ← Nat.mul_assoc]
    omega

end Hex

namespace RequestId

/-- Hyphens make five groups longer by four. -/
theorem length_hyphenate {digits : List Char} (length : digits.length = 32) :
    (hyphenate digits).length = 36 := by
  simp [hyphenate, length]

/-- A row is its first characters and the others. -/
theorem drop_split (digits : List Char) (start count : Nat) :
    digits.drop start = (digits.drop start).take count ++ digits.drop (start + count) := by
  rw [← List.drop_drop, List.take_append_drop]

/-- Groups come apart again at their hyphens. -/
theorem ungroup?_hyphenate {digits : List Char} (length : digits.length = 32) :
    ungroup? (hyphenate digits) = some digits := by
  have split : digits = digits.take 8 ++ ((digits.drop 8).take 4 ++ ((digits.drop 12).take 4 ++
      ((digits.drop 16).take 4 ++ digits.drop 20))) := by
    rw [← drop_split digits 16 4, ← drop_split digits 12 4, ← drop_split digits 8 4,
      List.take_append_drop]
  have first : (digits.take 8).length = 8 := by simp [length]
  have second : ((digits.drop 8).take 4).length = 4 := by simp [length]
  have third : ((digits.drop 12).take 4).length = 4 := by simp [length]
  have fourth : ((digits.drop 16).take 4).length = 4 := by simp [length]
  have whole := length_hyphenate length
  unfold ungroup?
  rw [whole]
  generalize digits.take 8 = a, (digits.drop 8).take 4 = b, (digits.drop 12).take 4 = c,
    (digits.drop 16).take 4 = d, digits.drop 20 = e at split first second third fourth
  subst split
  have grouped : hyphenate (a ++ (b ++ (c ++ (d ++ e)))) =
      a ++ '-' :: (b ++ '-' :: (c ++ '-' :: (d ++ '-' :: e))) := by
    simp [hyphenate, List.drop_append, List.drop_of_length_le, first, second, third, fourth]
  rw [grouped]
  simp [List.drop_append, List.drop_of_length_le, first, second, third, fourth, grouped]

/-- **The written form of a request id is read back.** -/
@[simp] theorem parse?_text (id : RequestId) : parse? id.text = some id := by
  have length : id.text.length = 36 := length_hyphenate (Hex.length_digits ..)
  rw [parse?, digits?, if_neg (by omega), if_pos length, text,
    ungroup?_hyphenate (Hex.length_digits ..), Option.bind_some, Hex.value?_digits]
  have small : id.bits.toNat < Nat.pow 16 32 := id.bits.isLt
  have whole : 0 * Nat.pow 16 32 + id.bits.toNat % Nat.pow 16 32 = id.bits.toNat := by
    rw [Nat.zero_mul, Nat.zero_add, Nat.mod_eq_of_lt small]
  rw [whole, Option.map_some, ofNat, BitVec.ofNat_toNat, BitVec.setWidth_eq]

end RequestId

end Cosimulation
