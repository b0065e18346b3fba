import Cosimulation.Proofs.Frame.Checksum
import Cosimulation.Proofs.Frame.Parsing
/-!
# Short bursts of corruption

The payload and the checksum of a frame are sound exactly if they leave the residue in the register
(`attested_eq_iff`).  Two rows of bytes that differ in no more than four consecutive places leave the
same register only if they are the same (`Burst.eq_of_foldl_feed`): behind the four places the
registers would have to agree, before them they do agree, and the four bytes are fed as one word.  So
no frame whose corruption is that short is taken for another (`read_of_burst`), also where the burst
lies across the end of the payload.
-/

namespace Cosimulation

set_option autoImplicit false

/-! ## Bursts -/

/-- The bytes found are those sent, but perhaps for four consecutive ones. -/
structure Burst (sent : List UInt8) (start : Nat) (found : List UInt8) : Prop where
  length : found.length = sent.length
  room : start + 4 ≤ sent.length
  agree : ∀ index, index < start ∨ start + 4 ≤ index → found[index]? = sent[index]?

namespace Burst

variable {sent found : List UInt8} {start : Nat} (burst : Burst sent start found)
include burst

theorem before {count : Nat} (early : count ≤ start) : found.take count = sent.take count := by
  apply List.ext_getElem?
  intro index
  simp only [List.getElem?_take]
  split
  · exact burst.agree index (.inl (by omega))
  · rfl

theorem behind : found.drop (start + 4) = sent.drop (start + 4) := by
  apply List.ext_getElem?
  intro index
  simp only [List.getElem?_drop]
  exact burst.agree _ (.inr (Nat.le_add_right ..))

/-- Bytes before the burst may be left out. -/
theorem drop {count : Nat} (early : count ≤ start) :
    Burst (sent.drop count) (start - count) (found.drop count) where
  length := by rw [List.length_drop, List.length_drop, burst.length]
  room := by
    have := burst.room
    rw [List.length_drop]
    omega
  agree index outside := by
    rw [List.getElem?_drop, List.getElem?_drop]
    exact burst.agree _ (by omega)

/-- The four bytes in question, between those that agree. -/
theorem parts {bytes : List UInt8} (same : bytes.length = sent.length) :
    bytes = bytes.take start ++ ((bytes.drop start).take 4 ++ bytes.drop (start + 4)) ∧
      ((bytes.drop start).take 4).length = 4 := by
  have := burst.room
  constructor
  · rw [← List.drop_drop, List.take_append_drop, List.take_append_drop]
  · rw [List.length_take, List.length_drop]
    omega

/-- **A burst that leaves the register as it would be has changed nothing.** -/
theorem eq_of_foldl_feed {register : UInt32}
    (same : found.foldl Checksum.feed register = sent.foldl Checksum.feed register) :
    found = sent := by
  obtain ⟨foundParts, foundFour⟩ := burst.parts burst.length
  obtain ⟨sentParts, sentFour⟩ := burst.parts rfl
  rw [foundParts, sentParts, burst.before (Nat.le_refl _), burst.behind] at same ⊢
  simp only [List.foldl_append] at same
  have words := Checksum.foldl_feed_injective same
  rw [Checksum.foldl_feed_word _ (Nat.le_of_eq foundFour),
    Checksum.foldl_feed_word _ (Nat.le_of_eq sentFour), foundFour, sentFour] at words
  have word := (UInt32.xor_right_inj _).1 (Checksum.shifts_injective words)
  rw [← Frame.littleEndian_ofLittleEndian foundFour, word,
    Frame.littleEndian_ofLittleEndian sentFour]

end Burst

namespace Frame

/-! ## Sound bodies -/

/-- **A payload is sound exactly if it leaves, with its checksum, the residue.** -/
theorem attested_eq_iff {body : List UInt8} (whole : body.length = 8 + announced body) :
    attested body = Checksum.ofBytes (carried body) ↔
      (body.drop 4).foldl Checksum.feed 0xFFFFFFFF = Checksum.residue := by
  have four : (body.drop (4 + announced body)).length = 4 := by
    rw [List.length_drop]
    omega
  have region : carried body ++ littleEndian (attested body) = body.drop 4 := by
    unfold carried attested
    rw [List.take_of_length_le (Nat.le_of_eq four), littleEndian_ofLittleEndian four,
      ← List.drop_drop, List.take_append_drop]
  rw [eq_comm, Checksum.ofBytes_eq_iff, region]

theorem drop_enclose (payload : List UInt8) :
    (enclose payload).drop 5 = payload ++ littleEndian (Checksum.ofBytes payload) :=
  congrArg (List.drop 5) (enclose_eq payload)

/-- A burst behind the length of a frame leaves its head as it is. -/
theorem eq_cons_of_burst {payload found : List UInt8} {start : Nat}
    (expressible : payload.length ≤ maximalLength) (burst : Burst (enclose payload) start found)
    (region : 5 ≤ start) :
    ∃ tail, found = version :: tail ∧ announced tail = payload.length ∧
      tail.length = 8 + payload.length := by
  have length := burst.length
  have head := burst.before region
  rw [enclose_eq] at length head
  match found with
  | [] => cases length
  | first :: tail =>
    obtain ⟨rfl, four⟩ := List.cons.inj head
    refine ⟨tail, rfl, ?_, ?_⟩
    · rw [announced, four]
      exact announced_body expressible
    · rw [← length_body]
      exact Nat.succ.inj length

/-- **A short burst of corruption is noticed**, wherever it lies in the payload and the checksum. -/
theorem read_of_burst {limit start : Nat} {payload found rest : List UInt8} {channel : Channel}
    (chunk : channel.chunk ≠ some 0) (short : payload.length ≤ limit)
    (expressible : payload.length ≤ maximalLength) (delivered : channel.delivered = found ++ rest)
    (burst : Burst (enclose payload) start found) (region : 5 ≤ start)
    (differ : found ≠ enclose payload) :
    ∃ after, read limit channel = (.error (.protocol (.checksumMismatch (attested found.tail)
        (Checksum.ofBytes (carried found.tail)))), after) ∧ channel.Gives found after := by
  obtain ⟨tail, rfl, announces, whole⟩ := eq_cons_of_burst expressible burst region
  rw [← announces] at whole short
  have unsound : attested tail ≠ Checksum.ofBytes (carried tail) := by
    rw [Ne, attested_eq_iff whole]
    intro residue
    -- the frame that was sent leaves the residue too
    have sent := (Checksum.ofBytes_eq_iff payload _).1 rfl
    have same := (burst.drop region).eq_of_foldl_feed
      (residue.trans (by rw [drop_enclose, sent]))
    refine differ ?_
    rw [← List.take_append_drop 5 (version :: tail), burst.before region,
      same, List.take_append_drop]
  have front : channel.delivered = version :: (tail ++ rest) := delivered
  have fits : announced (tail ++ rest) ≤ limit := by rwa [announced_append (by omega)]
  have enough : 8 + announced (tail ++ rest) ≤ (tail ++ rest).length := by
    rw [announced_append (by omega), List.length_append]
    omega
  obtain ⟨after, same, gives⟩ := read_of_whole chunk front fits enough
  rw [carried_append (Nat.le_of_eq whole.symm), attested_append (Nat.le_of_eq whole.symm), judge,
    if_neg unsound] at same
  rw [announced_append (by omega), ← whole, List.take_left] at gives
  exact ⟨after, same, gives⟩

/-- One burst that changes both the last byte of a payload and the first of its checksum. -/
theorem read_of_burst_across :
    let sent := enclose [104, 105]
    let found := [1, 2, 0, 0, 0, 104, 104, 173, 42, 147, 216]
    let channel := Channel.ofArrivals [.data (found ++ [1])]
    channel.chunk ≠ some 0 ∧ channel.delivered = found ++ [1] ∧ Burst sent 6 found ∧ found ≠ sent ∧
      (read 16 channel).1 =
        .error (.protocol (.checksumMismatch 0xD8932AAD (Checksum.ofBytes [104, 104]))) := by
  intro sent found channel
  have bytes : sent = [1, 2, 0, 0, 0, 104, 105, 172, 42, 147, 216] := by decide +kernel
  have chunk : channel.chunk ≠ some 0 := by decide
  have burst : Burst sent 6 found := by
    rw [bytes]
    refine ⟨rfl, by decide, fun index outside => ?_⟩
    match index with
    | 0 | 1 | 2 | 3 | 4 | 5 | 10 => rfl
    | 6 | 7 | 8 | 9 => omega
    | index + 11 => rfl
  have differ : found ≠ sent := by
    rw [bytes]
    decide
  have delivered : channel.delivered = found ++ [1] := rfl
  have short : [(104 : UInt8), 105].length ≤ 16 := by decide
  obtain ⟨after, same, _⟩ :=
    read_of_burst chunk short (by decide) delivered burst (by decide) differ
  exact ⟨chunk, delivered, burst, differ, congrArg Prod.fst same⟩

end Frame

end Cosimulation
