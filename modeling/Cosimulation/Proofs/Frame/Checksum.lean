import Cosimulation.Proofs.Frame.Reading
import Mathlib.Algebra.Group.Nat.Defs
/-!
# The register of the checksum

Shifting is linear over `xor` (`shift_xor`) and loses nothing (`shift_eq_zero`), and so is shifting
any number of times.  Feeding a byte is a shift of the register combined with the byte, so that two
registers that are fed the same bytes stay different if they were (`feed_left_injective`,
`foldl_feed_injective`), and four bytes are fed as one word that is combined with the register
(`foldl_feed_word`).  Hence a payload and its checksum, fed one after the other, always leave the
same register behind, and no other word behind that payload does (`ofBytes_eq_iff`).
-/

namespace Cosimulation.Checksum

set_option autoImplicit false

/-! ## Shifting -/

theorem toNat_low (register : UInt32) : (register &&& 1).toNat = register.toNat % 2 :=
  (UInt32.toNat_and ..).trans (Nat.and_one_is_mod _)

theorem toNat_half (register : UInt32) : (register >>> 1).toNat = register.toNat / 2 :=
  (UInt32.toNat_shiftRight ..).trans (Nat.shiftRight_eq_div_pow ..)

/-- The bit that is shifted out next. -/
theorem low_cases (register : UInt32) : register &&& 1 = 0 ∨ register &&& 1 = 1 := by
  rcases Nat.mod_two_eq_zero_or_one register.toNat with even | odd
  · exact .inl (UInt32.toNat_inj.1 ((toNat_low _).trans even))
  · exact .inr (UInt32.toNat_inj.1 ((toNat_low _).trans odd))

theorem low_xor (first second : UInt32) :
    (first ^^^ second) &&& 1 = (first &&& 1) ^^^ (second &&& 1) := by
  apply UInt32.eq_of_toBitVec_eq
  ext index inside
  simp
  cases first.toBitVec[index] <;> cases second.toBitVec[index] <;> simp

theorem shift_of_even {register : UInt32} (even : register &&& 1 = 0) :
    shift register = register >>> 1 := by
  unfold shift
  rw [even]
  exact if_neg (by decide)

theorem shift_of_odd {register : UInt32} (odd : register &&& 1 = 1) :
    shift register = (register >>> 1) ^^^ polynomial :=
  if_pos odd

/-- **Shifting is linear.** -/
theorem shift_xor (first second : UInt32) :
    shift (first ^^^ second) = shift first ^^^ shift second := by
  have low := low_xor first second
  rcases low_cases first with even | odd <;> rcases low_cases second with also | also
  · rw [shift_of_even even, shift_of_even also, shift_of_even (by rw [low, even, also]; rfl),
      UInt32.shiftRight_xor]
  · rw [shift_of_even even, shift_of_odd also, shift_of_odd (by rw [low, even, also]; rfl),
      UInt32.shiftRight_xor, UInt32.xor_assoc]
  · rw [shift_of_odd odd, shift_of_even also, shift_of_odd (by rw [low, odd, also]; rfl),
      UInt32.shiftRight_xor, UInt32.xor_assoc, UInt32.xor_assoc, UInt32.xor_comm polynomial]
  · -- the polynomial enters twice and cancels
    rw [shift_of_odd odd, shift_of_odd also, shift_of_even (by rw [low, odd, also]; rfl),
      UInt32.shiftRight_xor, UInt32.xor_comm (second >>> 1), UInt32.xor_assoc,
      ← UInt32.xor_assoc polynomial, UInt32.xor_self, UInt32.zero_xor]

/-- **Shifting loses nothing**: the polynomial has the bit that a shift leaves free. -/
theorem shift_eq_zero {register : UInt32} (gone : shift register = 0) : register = 0 := by
  have low := toNat_low register
  have half := toNat_half register
  rcases low_cases register with even | odd
  · rw [shift_of_even even] at gone
    rw [gone] at half
    rw [even] at low
    change 0 = _ at half low
    exact UInt32.toNat_inj.1 (show register.toNat = 0 by omega)
  · rw [shift_of_odd odd] at gone
    have same := UInt32.xor_eq_zero_iff.1 gone
    have large : polynomial.toNat = 3988292384 := by decide
    have bound := register.toNat_lt
    rw [← same, half] at large
    omega

theorem shifts_xor (count : Nat) (first second : UInt32) :
    shifts count (first ^^^ second) = shifts count first ^^^ shifts count second := by
  induction count generalizing first second with
  | zero => rfl
  | succ count ih =>
    unfold shifts
    rw [shift_xor, ih]

theorem shifts_eq_zero {count : Nat} {register : UInt32} (gone : shifts count register = 0) :
    register = 0 := by
  induction count generalizing register with
  | zero => exact gone
  | succ count ih => exact shift_eq_zero (ih gone)

/-- Shifting keeps registers apart. -/
theorem shifts_injective {count : Nat} {first second : UInt32}
    (same : shifts count first = shifts count second) : first = second := by
  rw [← UInt32.xor_eq_zero_iff] at same ⊢
  rw [← shifts_xor] at same
  exact shifts_eq_zero same

theorem shifts_add (first second : Nat) (register : UInt32) :
    shifts (first + second) register = shifts second (shifts first register) := by
  induction first generalizing register with
  | zero => rw [Nat.zero_add, shifts]
  | succ count ih => rw [Nat.add_right_comm, shifts, shifts, ih]

/-- While the bits that are shifted out are zero, nothing else enters. -/
theorem shifts_of_dvd {count : Nat} {register : UInt32} (zeros : 2 ^ count ∣ register.toNat) :
    (shifts count register).toNat = register.toNat / 2 ^ count := by
  induction count generalizing register with
  | zero => simp [shifts]
  | succ count ih =>
    obtain ⟨rest, whole⟩ := zeros
    rw [Nat.pow_succ, Nat.mul_comm _ 2, Nat.mul_assoc] at whole
    have even : register &&& 1 = 0 := by
      apply UInt32.toNat_inj.1
      rw [toNat_low, whole]
      exact Nat.mul_mod_right ..
    have halved : (register >>> 1).toNat = 2 ^ count * rest := by
      rw [toNat_half, whole]
      exact Nat.mul_div_cancel_left _ (by decide)
    rw [shifts, shift_of_even even, ih (halved ▸ Nat.dvd_mul_right ..), toNat_half,
      Nat.div_div_eq_div_mul, Nat.pow_succ, Nat.mul_comm 2]

/-! ## Feeding -/

/-- Registers that are fed the same byte stay different if they were. -/
theorem feed_left_injective {first second : UInt32} {byte : UInt8}
    (same : feed first byte = feed second byte) : first = second :=
  (UInt32.xor_left_inj _).1 (shifts_injective same)

/-- Registers that are fed the same bytes stay different if they were. -/
theorem foldl_feed_injective {first second : UInt32} {bytes : List UInt8}
    (same : bytes.foldl feed first = bytes.foldl feed second) : first = second := by
  induction bytes generalizing first second with
  | nil => exact same
  | cons byte rest ih => exact feed_left_injective (ih same)

/-! ## Words -/

/-- A row of bytes is a word of that many bytes. -/
theorem toNat_ofLittleEndian_lt (bytes : List UInt8) :
    (Frame.ofLittleEndian bytes).toNat < 2 ^ (8 * bytes.length) := by
  induction bytes with
  | nil => decide
  | cons byte rest ih =>
    have low : byte.toUInt32.toNat < 2 ^ (8 * (byte :: rest).length) :=
      Nat.lt_of_lt_of_le byte.toNat_lt (Nat.pow_le_pow_right (by decide) (by rw [List.length_cons]; omega))
    have high : (Frame.ofLittleEndian rest <<< 8).toNat < 2 ^ (8 * (byte :: rest).length) := by
      refine Nat.lt_of_le_of_lt (Nat.mod_le ..) ?_
      rw [List.length_cons, Nat.mul_succ, Nat.pow_add]
      exact (Nat.shiftLeft_eq ..).symm ▸ Nat.mul_lt_mul_of_pos_right ih (by decide)
    exact Nat.or_lt_two_pow low high

/-- The first byte and those behind it share no bits. -/
theorem ofLittleEndian_cons (byte : UInt8) (rest : List UInt8) :
    Frame.ofLittleEndian (byte :: rest) =
      byte.toUInt32 ^^^ (Frame.ofLittleEndian rest <<< 8) := by
  rw [Frame.ofLittleEndian]
  apply UInt32.eq_of_toBitVec_eq
  ext index inside
  by_cases first : index < 8
  · simp [first]
  · have unset : byte.toBitVec.getLsbD index = false :=
      BitVec.getLsbD_of_ge _ _ (Nat.le_of_not_lt first)
    simp [first, unset]

/-- Shifting takes a byte of zeros off a word that has room for it. -/
theorem shifts_shiftLeft {word : UInt32} (room : word.toNat < 2 ^ 24) :
    shifts 8 (word <<< 8) = word := by
  have moved : (word <<< 8).toNat = word.toNat * 2 ^ 8 := by
    rw [UInt32.toNat_shiftLeft, Nat.shiftLeft_eq]
    exact Nat.mod_eq_of_lt (Nat.mul_lt_mul_of_pos_right room (by decide))
  apply UInt32.toNat_inj.1
  rw [shifts_of_dvd (moved ▸ Nat.dvd_mul_left ..), moved]
  exact Nat.mul_div_cancel _ (by decide)

/-- **Up to four bytes are fed as one word.** -/
theorem foldl_feed_word (register : UInt32) {bytes : List UInt8} (short : bytes.length ≤ 4) :
    bytes.foldl feed register =
      shifts (8 * bytes.length) (register ^^^ Frame.ofLittleEndian bytes) := by
  induction bytes generalizing register with
  | nil => exact (UInt32.xor_zero).symm
  | cons byte rest ih =>
    rw [List.length_cons] at short
    -- the word of the rest is shifted in behind the first byte
    have room : (Frame.ofLittleEndian rest).toNat < 2 ^ 24 :=
      Nat.lt_of_lt_of_le (toNat_ofLittleEndian_lt rest)
        (Nat.pow_le_pow_right (by decide) (by omega))
    calc (byte :: rest).foldl feed register
        = shifts (8 * rest.length) (feed register byte ^^^ Frame.ofLittleEndian rest) :=
          ih _ (by omega)
      _ = shifts (8 * rest.length)
            (shifts 8 (register ^^^ byte.toUInt32 ^^^ (Frame.ofLittleEndian rest <<< 8))) := by
          rw [shifts_xor 8, shifts_shiftLeft room, feed]
      _ = shifts (8 * (rest.length + 1))
            (register ^^^ Frame.ofLittleEndian (byte :: rest)) := by
          rw [ofLittleEndian_cons, ← UInt32.xor_assoc, Nat.mul_succ, Nat.add_comm, shifts_add]

/-- What a payload and its checksum leave in the register. -/
def residue : UInt32 := shifts 32 0xFFFFFFFF

/-- **The checksum is the one word that leaves the residue behind a payload.** -/
theorem ofBytes_eq_iff (payload : List UInt8) (word : UInt32) :
    ofBytes payload = word ↔
      (payload ++ Frame.littleEndian word).foldl feed 0xFFFFFFFF = residue := by
  rw [List.foldl_append, foldl_feed_word _ (Nat.le_of_eq (Frame.length_littleEndian word)),
    Frame.ofLittleEndian_littleEndian, Frame.length_littleEndian, ofBytes]
  constructor
  · rintro rfl
    rw [← UInt32.xor_assoc, UInt32.xor_self, UInt32.zero_xor]
    rfl
  · intro same
    have full : payload.foldl feed 0xFFFFFFFF ^^^ word = 0xFFFFFFFF := shifts_injective same
    calc payload.foldl feed 0xFFFFFFFF ^^^ 0xFFFFFFFF
        = payload.foldl feed 0xFFFFFFFF ^^^ (payload.foldl feed 0xFFFFFFFF ^^^ word) := by rw [full]
      _ = word := by rw [← UInt32.xor_assoc, UInt32.xor_self, UInt32.zero_xor]

-- the customary check values of this polynomial, for the digits from one to nine
example : ofBytes [0x31, 0x32, 0x33, 0x34, 0x35, 0x36, 0x37, 0x38, 0x39] = 0xCBF43926 ∧
    residue = 0xDEBB20E3 := by
  decide +kernel

end Cosimulation.Checksum
