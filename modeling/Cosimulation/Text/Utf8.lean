/-!
# UTF-8

Text crosses the channel as bytes.  Writing it is one function, `encode`.  Reading it back goes
symbol by symbol: a symbol is a character, or nothing where a longest stretch of bytes begins like a
character but does not end as one.  `symbols` never fails, and what its reader makes of the broken
stretches is the reader's affair.  `decode?` is strict: it gives the text only when there is none, so
overlong forms, surrogates and cut-off sequences are all refused.  `decodeLossy` shows each as a
single replacement character.
-/

namespace Cosimulation.Utf8

set_option autoImplicit false

/-- The bytes of one character after another. -/
def encode (text : List Char) : List UInt8 :=
  text.flatMap String.utf8EncodeChar

/-- A character, or a stretch of bytes that no character begins with in full. -/
abbrev Symbol := Option Char

/-! ## One symbol at the front -/

/-- What a lead byte announces: the bounds of the second byte, the number of bytes after the
second, and the bits that the lead itself contributes.  Bytes that lead no character give `none`.
The bounds of the second byte are what keeps out overlong forms, surrogates and code points beyond
the last one. -/
def announced (lead : UInt8) : Option (UInt8 × UInt8 × Nat × Nat) :=
  if lead < 0xC2 then none
  else if lead < 0xE0 then some (0x80, 0xBF, 0, lead.toNat - 0xC0)
  else if lead = 0xE0 then some (0xA0, 0xBF, 1, 0)
  else if lead = 0xED then some (0x80, 0x9F, 1, 0xD)
  else if lead < 0xF0 then some (0x80, 0xBF, 1, lead.toNat - 0xE0)
  else if lead = 0xF0 then some (0x90, 0xBF, 2, 0)
  else if lead < 0xF4 then some (0x80, 0xBF, 2, lead.toNat - 0xF0)
  else if lead = 0xF4 then some (0x80, 0x8F, 2, 4)
  else none

/-- Takes `count` further continuation bytes, six bits each, on top of the bits read so far. -/
def continuations : (count bits : Nat) → List UInt8 → Symbol × List UInt8
  | 0, bits, rest => (some (Char.ofNat bits), rest)
  | _ + 1, _, [] => (none, [])
  | count + 1, bits, byte :: rest =>
    if 0x80 ≤ byte ∧ byte ≤ 0xBF then
      continuations count (bits * 64 + (byte.toNat - 0x80)) rest
    else (none, byte :: rest)

/-- The symbol at the front of the byte string that starts with `lead`, and the bytes behind it. -/
def front (lead : UInt8) (rest : List UInt8) : Symbol × List UInt8 :=
  if lead < 0x80 then (some (Char.ofNat lead.toNat), rest)
  else
    match announced lead, rest with
    | none, rest => (none, rest)
    | some _, [] => (none, [])
    | some (low, high, count, bits), second :: after =>
      if low ≤ second ∧ second ≤ high then
        continuations count (bits * 64 + (second.toNat - 0x80)) after
      else (none, second :: after)

/-- Continuation bytes only use up bytes. -/
theorem length_continuations_snd (count bits : Nat) (bytes : List UInt8) :
    (continuations count bits bytes).2.length ≤ bytes.length := by
  induction count generalizing bits bytes with
  | zero => simp [continuations]
  | succ count ih =>
    cases bytes with
    | nil => simp [continuations]
    | cons byte rest =>
      simp only [continuations]
      split
      · have := ih (bits * 64 + (byte.toNat - 0x80)) rest
        simp only [List.length_cons]
        omega
      · simp

/-- The front of a byte string takes at least its lead byte. -/
theorem length_front_snd (lead : UInt8) (rest : List UInt8) :
    (front lead rest).2.length ≤ rest.length := by
  unfold front
  split
  · simp
  · split
    · simp
    · simp
    · rename_i low high count bits second after _
      split
      · have := length_continuations_snd count (bits * 64 + (second.toNat - 0x80)) after
        simp only [List.length_cons]
        omega
      · simp

/-! ## Whole byte strings -/

/-- The symbols of a byte string behind those already read, which are kept last one first. -/
def symbolsFrom (reversed : List Symbol) : List UInt8 → List Symbol
  | [] => reversed.reverse
  | lead :: bytes =>
    have := length_front_snd lead bytes
    symbolsFrom ((front lead bytes).1 :: reversed) (front lead bytes).2
termination_by bytes => bytes.length

/-- The symbols of a byte string. -/
def symbols (bytes : List UInt8) : List Symbol :=
  symbolsFrom [] bytes

/-- The text of a well-formed byte string. -/
def decode? (bytes : List UInt8) : Option (List Char) :=
  (symbols bytes).mapM id

/-- The text of any byte string: a broken stretch is shown as one replacement character. -/
def decodeLossy (bytes : List UInt8) : List Char :=
  (symbols bytes).map fun symbol => symbol.getD '\ufffd'

/-- The number of bytes that a text takes. -/
def size (text : String) : Nat :=
  text.utf8ByteSize

end Cosimulation.Utf8
