import Cosimulation.Text.Utf8
/-!
# Reading back encoded text

Every character is the symbol at the front of the bytes that encode it, whatever follows
(`front_encodeChar`), so reading an encoded text gives back its characters (`symbols_encode`).
-/

namespace Cosimulation.Utf8

set_option autoImplicit false

/-! ## One character -/

/-- What a lead byte announces, decided on its number. -/
theorem announced_eq (lead : UInt8) :
    announced lead =
      if lead.toNat < 0xC2 then none
      else if lead.toNat < 0xE0 then some (0x80, 0xBF, 0, lead.toNat - 0xC0)
      else if lead.toNat = 0xE0 then some (0xA0, 0xBF, 1, 0)
      else if lead.toNat = 0xED then some (0x80, 0x9F, 1, 0xD)
      else if lead.toNat < 0xF0 then some (0x80, 0xBF, 1, lead.toNat - 0xE0)
      else if lead.toNat = 0xF0 then some (0x90, 0xBF, 2, 0)
      else if lead.toNat < 0xF4 then some (0x80, 0xBF, 2, lead.toNat - 0xF0)
      else if lead.toNat = 0xF4 then some (0x80, 0x8F, 2, 4)
      else none := by
  simp only [announced, UInt8.lt_iff_toNat_lt, ← UInt8.toNat_inj, UInt8.reduceToNat]

/-- A continuation byte hands on its six bits. -/
theorem continuations_succ {count bits : Nat} {low : Nat} (small : low < 64) (rest : List UInt8) :
    continuations (count + 1) bits (UInt8.ofNat (low + 0x80) :: rest) =
      continuations count (bits * 64 + low) rest := by
  have value : (UInt8.ofNat (low + 0x80)).toNat = low + 0x80 := by
    rw [UInt8.toNat_ofNat']
    omega
  rw [continuations, if_pos]
  · rw [value, Nat.add_sub_cancel]
  · simp only [UInt8.le_iff_toNat_le, value, UInt8.reduceToNat]
    omega

/-- A lead byte that announces what follows hands on its bits and those of the second byte. -/
theorem front_of_announced {lead low high : UInt8} {count bits second : Nat}
    (announces : announced lead = some (low, high, count, bits)) (small : second < 64)
    (above : low.toNat ≤ second + 0x80) (below : second + 0x80 ≤ high.toNat) (rest : List UInt8) :
    front lead (UInt8.ofNat (second + 0x80) :: rest) =
      continuations count (bits * 64 + second) rest := by
  have value : (UInt8.ofNat (second + 0x80)).toNat = second + 0x80 := by
    rw [UInt8.toNat_ofNat']
    omega
  have leads : ¬lead < 0x80 := by
    intro ascii
    rw [announced_eq, if_pos] at announces
    · cases announces
    · rw [UInt8.lt_iff_toNat_lt] at ascii
      exact Nat.lt_trans ascii (by decide)
  unfold front
  rw [if_neg leads, announces]
  dsimp only
  rw [if_pos, value, Nat.add_sub_cancel]
  simp only [UInt8.le_iff_toNat_le, value]
  exact ⟨above, below⟩

/-- What the lead of two bytes announces. -/
theorem announced_two (code : Nat) (above : 0x80 ≤ code) (below : code < 0x800) :
    announced (UInt8.ofNat (code / 64 % 0x20 + 0xc0)) = some (0x80, 0xBF, 0, code / 64) := by
  have value : (UInt8.ofNat (code / 64 % 0x20 + 0xc0)).toNat = code / 64 + 0xC0 := by
    rw [UInt8.toNat_ofNat']
    omega
  rw [announced_eq, value, if_neg (by omega), if_pos (by omega), Nat.add_sub_cancel]

/-- What the lead of three bytes announces.  The bounds are narrower behind the first lead, which
would leave room for shorter codes, and behind the fourteenth, which would for surrogates. -/
theorem announced_three (code : Nat) (above : 0x800 ≤ code) (below : code < 0x10000)
    (valid : code < 0xD800 ∨ 0xDFFF < code) :
    ∃ low high, announced (UInt8.ofNat (code / 4096 % 0x10 + 0xe0)) =
        some (low, high, 1, code / 4096) ∧
      low.toNat ≤ code / 64 % 0x40 + 0x80 ∧ code / 64 % 0x40 + 0x80 ≤ high.toNat := by
  have value : (UInt8.ofNat (code / 4096 % 0x10 + 0xe0)).toNat = code / 4096 + 0xE0 := by
    rw [UInt8.toNat_ofNat']
    omega
  rw [announced_eq, value, if_neg (by omega), if_neg (by omega)]
  by_cases first : code / 4096 = 0
  · rw [first]
    exact ⟨0xA0, 0xBF, rfl, by simp; omega, by simp; omega⟩
  · rw [if_neg (by omega)]
    by_cases surrogates : code / 4096 = 0xD
    · rw [surrogates]
      exact ⟨0x80, 0x9F, rfl, by simp, by simp; omega⟩
    · rw [if_neg (by omega), if_pos (by omega), Nat.add_sub_cancel]
      exact ⟨0x80, 0xBF, rfl, by simp, by simp; omega⟩

/-- What the lead of four bytes announces.  The bounds are narrower behind the first lead, which
would leave room for shorter codes, and behind the fifth, which would for codes too large. -/
theorem announced_four (code : Nat) (above : 0x10000 ≤ code) (below : code < 0x110000) :
    ∃ low high, announced (UInt8.ofNat (code / 262144 % 0x08 + 0xf0)) =
        some (low, high, 2, code / 262144) ∧
      low.toNat ≤ code / 4096 % 0x40 + 0x80 ∧ code / 4096 % 0x40 + 0x80 ≤ high.toNat := by
  have value : (UInt8.ofNat (code / 262144 % 0x08 + 0xf0)).toNat = code / 262144 + 0xF0 := by
    rw [UInt8.toNat_ofNat']
    omega
  rw [announced_eq, value, if_neg (by omega), if_neg (by omega), if_neg (by omega),
    if_neg (by omega), if_neg (by omega)]
  by_cases first : code / 262144 = 0
  · rw [first]
    exact ⟨0x90, 0xBF, rfl, by simp; omega, by simp; omega⟩
  · rw [if_neg (by omega)]
    by_cases last : code / 262144 = 4
    · rw [last]
      exact ⟨0x80, 0x8F, rfl, by simp, by simp; omega⟩
    · rw [if_pos (by omega), Nat.add_sub_cancel]
      exact ⟨0x80, 0xBF, rfl, by simp, by simp; omega⟩

/-- **A character is the symbol at the front of its bytes.** -/
theorem front_encodeChar (char : Char) (rest : List UInt8) :
    ∃ lead tail, String.utf8EncodeChar char = lead :: tail ∧
      front lead (tail ++ rest) = (some char, rest) := by
  have valid : char.toNat < 0xD800 ∨ 0xDFFF < char.toNat ∧ char.toNat < 0x110000 := char.valid
  have same : Char.ofNat char.toNat = char := Char.ofNat_toNat char
  unfold String.utf8EncodeChar
  rw [show char.val.toNat = char.toNat from rfl]
  dsimp only
  generalize char.toNat = code at valid same
  subst same
  split
  · -- one byte, which is the character
    refine ⟨_, [], rfl, ?_⟩
    have value : (UInt8.ofNat code).toNat = code := by
      rw [UInt8.toNat_ofNat']
      omega
    unfold front
    rw [if_pos, value, List.nil_append]
    simp only [UInt8.lt_iff_toNat_lt, value, UInt8.reduceToNat]
    omega
  · split
    · refine ⟨_, _, rfl, ?_⟩
      have announces := announced_two code (by omega) (by omega)
      have whole : code / 64 * 64 + code % 0x40 = code := by omega
      rw [List.cons_append, List.nil_append,
        front_of_announced announces (by omega) (by simp) (by simp; omega), whole, continuations]
    · split
      · refine ⟨_, _, rfl, ?_⟩
        obtain ⟨low, high, announces, above, below⟩ :=
          announced_three code (by omega) (by omega) (by omega)
        have whole : (code / 4096 * 64 + code / 64 % 0x40) * 64 + code % 0x40 = code := by omega
        rw [List.cons_append, List.cons_append, List.nil_append,
          front_of_announced announces (by omega) above below, continuations_succ (by omega), whole,
          continuations]
      · refine ⟨_, _, rfl, ?_⟩
        obtain ⟨low, high, announces, above, below⟩ :=
          announced_four code (by omega) (by omega)
        have whole : ((code / 262144 * 64 + code / 4096 % 0x40) * 64 + code / 64 % 0x40) * 64 +
            code % 0x40 = code := by omega
        rw [List.cons_append, List.cons_append, List.cons_append, List.nil_append,
          front_of_announced announces (by omega) above below, continuations_succ (by omega),
          continuations_succ (by omega), whole, continuations]

/-! ## Whole texts -/

theorem symbolsFrom_encode (text : List Char) (reversed : List Symbol) :
    symbolsFrom reversed (encode text) = reversed.reverse ++ text.map some := by
  induction text generalizing reversed with
  | nil => simp [encode, symbolsFrom]
  | cons char text ih =>
    obtain ⟨lead, tail, bytes, front⟩ := front_encodeChar char (encode text)
    have split : encode (char :: text) = lead :: (tail ++ encode text) := by
      rw [encode, List.flatMap_cons, bytes]
      rfl
    rw [split, symbolsFrom, front, ih]
    simp

/-- **The symbols of an encoded text are its characters.** -/
@[simp] theorem symbols_encode (text : List Char) : symbols (encode text) = text.map some :=
  symbolsFrom_encode text []

end Cosimulation.Utf8
