import Cosimulation.Proofs.Frame.Reading
/-!
# What a frame is read as

What becomes of reading a frame is decided by the bytes that the channel delivers and by what stops
them.  The pieces in which they arrive, the interruptions between them and the size of single reads
make no difference.  A frame is judged in the order of its bytes, and nothing is taken from the
channel behind the byte that decides: one byte for a foreign version, five for a length beyond the
limit, and otherwise the whole frame, or all there is if that is less (`read_parses`).

What follows the version is read section by section.  Each section takes its bytes from the front
(`readSection_of_enough`) or finds too few of them (`readSection_of_lacking`), and from these two the
three ways follow in which a body can be read (`readBody_of_long`, `readBody_of_whole`,
`readBody_of_cut`).  Hence a frame around a payload is read whole when it stands at the front
(`read_enclose`), and a payload that was read stood in a frame at the front (`gives_of_read`).
-/

namespace Cosimulation

set_option autoImplicit false

/-- What a channel delivers after its first bytes have been taken. -/
theorem Channel.Gives.rest {before after : Channel} {count : Nat}
    (gives : before.Gives (before.delivered.take count) after) :
    after.delivered = before.delivered.drop count :=
  List.append_cancel_left (gives.delivered.symm.trans (List.take_append_drop ..).symm)

/-- Taking bytes from the front and then some more is taking them all. -/
theorem Channel.Gives.further {before middle after : Channel} {first second : Nat}
    (front : before.Gives (before.delivered.take first) middle)
    (back : middle.Gives (middle.delivered.take second) after) :
    before.Gives (before.delivered.take (first + second)) after := by
  rw [List.take_add, ← front.rest]
  exact front.trans back

namespace Frame

/-! ## The fields of a body -/

/-- The length of the payload, as the first four bytes behind the version tell it. -/
def announced (body : List UInt8) : Nat :=
  (ofLittleEndian (body.take 4)).toNat

/-- The bytes in the place of the payload. -/
def carried (body : List UInt8) : List UInt8 :=
  (body.drop 4).take (announced body)

/-- The word in the place of the checksum. -/
def attested (body : List UInt8) : UInt32 :=
  ofLittleEndian ((body.drop (4 + announced body)).take 4)

/-- The judgement on a payload that stands before a checksum. -/
def judge (payload : List UInt8) (stored : UInt32) : Except Error (List UInt8) :=
  if stored = Checksum.ofBytes payload then .ok payload
  else .error (.protocol (.checksumMismatch stored (Checksum.ofBytes payload)))

/-- The first section that a body leaves incomplete which ends too early. -/
def unfinished (body : List UInt8) : Section :=
  if body.length < 4 then .length
  else if body.length < 4 + announced body then .payload
  else .checksum

/-! What follows the fields of a body does not change them. -/

theorem announced_append {body : List UInt8} (enough : 4 ≤ body.length) (rest : List UInt8) :
    announced (body ++ rest) = announced body := by
  unfold announced
  rw [List.take_append_of_le_length enough]

theorem carried_append {body : List UInt8} (enough : 8 + announced body ≤ body.length)
    (rest : List UInt8) : carried (body ++ rest) = carried body := by
  unfold carried
  rw [announced_append (by omega), List.drop_append_of_le_length (by omega),
    List.take_append_of_le_length (by rw [List.length_drop]; omega)]

theorem attested_append {body : List UInt8} (enough : 8 + announced body ≤ body.length)
    (rest : List UInt8) : attested (body ++ rest) = attested body := by
  unfold attested
  rw [announced_append (by omega), List.drop_append_of_le_length (by omega),
    List.take_append_of_le_length (by rw [List.length_drop]; omega)]

/-! ## Bodies around payloads -/

/-- What follows the version in the frame around a payload. -/
def body (payload : List UInt8) : List UInt8 :=
  littleEndian (UInt32.ofNat payload.length) ++ (payload ++ littleEndian (Checksum.ofBytes payload))

section Payloads

variable (payload : List UInt8)

theorem enclose_eq : enclose payload = version :: body payload := by
  simp [enclose, body]

theorem length_body : (body payload).length = 8 + payload.length := by
  simp only [body, List.length_append, length_littleEndian]
  omega

theorem length_enclose : (enclose payload).length = payload.length + 9 := by
  rw [enclose_eq, List.length_cons, length_body]
  omega

theorem take_body : (body payload).take 4 = littleEndian (UInt32.ofNat payload.length) := rfl

theorem drop_body : (body payload).drop 4 = payload ++ littleEndian (Checksum.ofBytes payload) := rfl

end Payloads

section Fields

variable {payload : List UInt8} (expressible : payload.length ≤ maximalLength)
include expressible

theorem announced_body : announced (body payload) = payload.length := by
  rw [announced, take_body, ofLittleEndian_littleEndian, toNat_ofNat_of_expressible expressible]

theorem carried_body : carried (body payload) = payload := by
  rw [carried, announced_body expressible, drop_body, List.take_left]

theorem attested_body : attested (body payload) = Checksum.ofBytes payload := by
  rw [attested, announced_body expressible, ← List.drop_drop, drop_body, List.drop_left]
  exact ofLittleEndian_littleEndian _

end Fields

theorem length_carried {bytes : List UInt8} (enough : 8 + announced bytes ≤ bytes.length) :
    (carried bytes).length = announced bytes := by
  rw [carried, List.length_take, List.length_drop]
  omega

/-- A sound body is the body around what it carries. -/
theorem body_carried {bytes : List UInt8} (enough : 8 + announced bytes ≤ bytes.length)
    (sound : attested bytes = Checksum.ofBytes (carried bytes)) :
    body (carried bytes) = bytes.take (8 + announced bytes) := by
  have head : (bytes.take 4).length = 4 := by
    rw [List.length_take]
    omega
  have last : ((bytes.drop (4 + announced bytes)).take 4).length = 4 := by
    rw [List.length_take, List.length_drop]
    omega
  have word : UInt32.ofNat (announced bytes) = ofLittleEndian (bytes.take 4) := UInt32.ofNat_toNat
  rw [show 8 + announced bytes = 4 + announced bytes + 4 by omega, List.take_add, List.take_add,
    List.append_assoc, body, length_carried enough, word, ← sound, littleEndian_ofLittleEndian head,
    attested, littleEndian_ofLittleEndian last, carried]

section Bodies

variable {channel : Channel} (chunk : channel.chunk ≠ some 0)
include chunk

/-! ## Sections -/

theorem readVersion_of_delivered {first : UInt8} {rest : List UInt8}
    (front : channel.delivered = first :: rest) :
    ∃ after, readVersion channel = (.ok (some first), after) ∧ channel.Gives [first] after := by
  rcases readVersion_spec chunk with ⟨found, after, read, gives⟩ | ⟨nothing, _⟩
  · have same : first = found := (List.cons.inj (front.symm.trans gives.delivered)).1
    exact ⟨after, same ▸ read, same ▸ gives⟩
  · rw [nothing] at front
    cases front

/-- A section takes its bytes from the front. -/
theorem readSection_of_enough (inside : Section) {count : Nat}
    (enough : count ≤ channel.delivered.length) :
    ∃ after, readSection inside count [] channel = (.ok (channel.delivered.take count), after) ∧
      channel.Gives (channel.delivered.take count) after := by
  rcases readSection_spec inside count [] chunk with ⟨_, after, read, gives⟩ | ⟨lacking, _⟩
  · exact ⟨after, read, gives⟩
  · omega

/-- A section for which too few bytes come takes all of them and fails as the ending says. -/
theorem readSection_of_lacking (inside : Section) {count : Nat}
    (lacking : channel.delivered.length < count) :
    ∃ arrivals, readSection inside count [] channel =
      (.error (inside.cutOff channel.ending), channel.gave channel.delivered.length arrivals) := by
  rcases readSection_spec inside count [] chunk with ⟨enough, _⟩ | ⟨_, cut⟩
  · omega
  · exact cut

/-- A checksum that comes whole judges the payload before it. -/
theorem readChecksum_of_enough (payload : List UInt8) (enough : 4 ≤ channel.delivered.length) :
    ∃ after, readChecksum payload channel =
        (judge payload (ofLittleEndian (channel.delivered.take 4)), after) ∧
      channel.Gives (channel.delivered.take 4) after := by
  obtain ⟨after, read, gives⟩ := readSection_of_enough chunk .checksum enough
  refine ⟨after, ?_, gives⟩
  unfold readChecksum judge
  rw [read]
  dsimp only
  split <;> rfl

theorem readChecksum_of_lacking (payload : List UInt8) (lacking : channel.delivered.length < 4) :
    ∃ arrivals, readChecksum payload channel =
      (.error (Section.checksum.cutOff channel.ending),
        channel.gave channel.delivered.length arrivals) := by
  obtain ⟨arrivals, read⟩ := readSection_of_lacking chunk .checksum lacking
  refine ⟨arrivals, ?_⟩
  unfold readChecksum
  rw [read]

/-! ## Bodies -/

/-- A length beyond the limit is refused, and nothing behind it is taken. -/
theorem readBody_of_long {limit : Nat} (enough : 4 ≤ channel.delivered.length)
    (long : limit < announced channel.delivered) :
    ∃ after, readBody limit channel =
        (.error (.protocol (.frameTooLarge (announced channel.delivered) limit)), after) ∧
      channel.Gives (channel.delivered.take 4) after := by
  obtain ⟨after, read, gives⟩ := readSection_of_enough chunk .length enough
  refine ⟨after, ?_, gives⟩
  unfold readBody
  rw [read]
  exact if_pos long

/-- After a length within the limit the payload and the checksum are read. -/
theorem readBody_of_short {limit : Nat} (enough : 4 ≤ channel.delivered.length)
    (short : announced channel.delivered ≤ limit) :
    ∃ middle, channel.Gives (channel.delivered.take 4) middle ∧ readBody limit channel =
      match readSection .payload (announced channel.delivered) [] middle with
      | (.error error, after) => (.error error, after)
      | (.ok payload, after) => readChecksum payload after := by
  obtain ⟨middle, read, gives⟩ := readSection_of_enough chunk .length enough
  refine ⟨middle, gives, ?_⟩
  unfold readBody
  rw [read]
  exact if_neg (Nat.not_lt.2 short)

/-- A body that comes whole is taken whole, and its payload is judged by its checksum. -/
theorem readBody_of_whole {limit : Nat} (short : announced channel.delivered ≤ limit)
    (enough : 8 + announced channel.delivered ≤ channel.delivered.length) :
    ∃ after, readBody limit channel =
        (judge (carried channel.delivered) (attested channel.delivered), after) ∧
      channel.Gives (channel.delivered.take (8 + announced channel.delivered)) after := by
  obtain ⟨first, length, body⟩ := readBody_of_short chunk (by omega) short
  have arrived : announced channel.delivered ≤ first.delivered.length := by
    rw [length.rest, List.length_drop]
    omega
  obtain ⟨second, payloadRead, payload⟩ :=
    readSection_of_enough (length.chunk ▸ chunk) .payload arrived
  have front := length.further payload
  have four : 4 ≤ second.delivered.length := by
    rw [front.rest, List.length_drop]
    omega
  obtain ⟨after, checksumRead, checksum⟩ :=
    readChecksum_of_enough (front.chunk ▸ chunk) (carried channel.delivered) four
  refine ⟨after, ?_, ?_⟩
  · rw [body, payloadRead, length.rest]
    exact checksumRead.trans (by rw [front.rest]; rfl)
  · rw [show 8 + announced channel.delivered = 4 + announced channel.delivered + 4 by omega]
    exact front.further checksum

/-- A body that ends too early is taken as far as it goes, and the reading fails in the first section
that is incomplete. -/
theorem readBody_of_cut {limit : Nat}
    (cut : channel.delivered.length < 4 ∨ announced channel.delivered ≤ limit ∧
      channel.delivered.length < 8 + announced channel.delivered) :
    ∃ arrivals, readBody limit channel =
      (.error ((unfinished channel.delivered).cutOff channel.ending),
        channel.gave channel.delivered.length arrivals) := by
  unfold unfinished
  by_cases lengthCut : channel.delivered.length < 4
  · obtain ⟨arrivals, read⟩ := readSection_of_lacking chunk .length lengthCut
    refine ⟨arrivals, ?_⟩
    unfold readBody
    rw [read, if_pos lengthCut]
  · obtain ⟨short, early⟩ := cut.resolve_left lengthCut
    obtain ⟨first, length, body⟩ := readBody_of_short chunk (Nat.le_of_not_lt lengthCut) short
    have behind : first.delivered.length + 4 = channel.delivered.length := by
      rw [length.rest, List.length_drop]
      omega
    have taken : (channel.delivered.take 4).length + first.delivered.length =
        channel.delivered.length := by
      rw [List.length_take]
      omega
    by_cases payloadCut : channel.delivered.length < 4 + announced channel.delivered
    · obtain ⟨arrivals, payloadRead⟩ := readSection_of_lacking (length.chunk ▸ chunk) .payload
        (show first.delivered.length < announced channel.delivered by omega)
      refine ⟨arrivals, ?_⟩
      rw [body, payloadRead, if_neg lengthCut, if_pos payloadCut, length.ending, length.gave, taken]
    · obtain ⟨second, payloadRead, payload⟩ := readSection_of_enough (length.chunk ▸ chunk) .payload
        (show announced channel.delivered ≤ first.delivered.length by omega)
      have front := length.further payload
      have rest : second.delivered.length + (4 + announced channel.delivered) =
          channel.delivered.length := by
        rw [front.rest, List.length_drop]
        omega
      obtain ⟨arrivals, checksumRead⟩ := readChecksum_of_lacking (front.chunk ▸ chunk)
        (first.delivered.take (announced channel.delivered)) (by omega)
      refine ⟨arrivals, ?_⟩
      rw [body, payloadRead, if_neg lengthCut, if_neg payloadCut]
      refine checksumRead.trans ?_
      rw [front.ending, front.gave, List.length_take, Nat.min_eq_left (by omega), Nat.add_comm, rest]

/-! ## Frames -/

/-- When nothing is delivered there is no frame to be read. -/
theorem read_of_nothing (limit : Nat) (nothing : channel.delivered = []) :
    ∃ arrivals, read limit channel =
      (match channel.ending with
        | none => .ok none
        | some fault => .error (.connection (.readFailed fault.message)),
        channel.gave 0 arrivals) := by
  rcases readVersion_spec chunk with ⟨byte, _, _, gives⟩ | ⟨_, arrivals, versionRead⟩
  · rw [gives.delivered] at nothing
    cases nothing
  · refine ⟨arrivals, ?_⟩
    unfold read
    rw [versionRead]
    cases channel.ending <;> rfl

/-- A foreign version is refused, and nothing behind it is taken. -/
theorem read_of_foreign (limit : Nat) {first : UInt8} {body : List UInt8}
    (front : channel.delivered = first :: body) (foreign : first ≠ version) :
    ∃ after, read limit channel = (.error (.protocol (.unsupportedVersion first version)), after) ∧
      channel.Gives [first] after := by
  obtain ⟨after, versionRead, gives⟩ := readVersion_of_delivered chunk front
  refine ⟨after, ?_, gives⟩
  unfold read
  rw [versionRead]
  exact if_neg foreign

/-- Behind the right version the body is read. -/
theorem read_of_version (limit : Nat) {body : List UInt8}
    (front : channel.delivered = version :: body) :
    ∃ middle, channel.Gives [version] middle ∧ middle.delivered = body ∧ read limit channel =
      match readBody limit middle with
      | (.error error, after) => (.error error, after)
      | (.ok payload, after) => (.ok (some payload), after) := by
  obtain ⟨middle, versionRead, gives⟩ := readVersion_of_delivered chunk front
  refine ⟨middle, gives, List.append_cancel_left (gives.delivered.symm.trans front), ?_⟩
  unfold read
  rw [versionRead]
  exact if_pos rfl

/-- A length beyond the limit is refused, and nothing behind it is taken. -/
theorem read_of_exceeding {limit : Nat} {body : List UInt8}
    (front : channel.delivered = version :: body) (enough : 4 ≤ body.length)
    (long : limit < announced body) :
    ∃ after, read limit channel =
        (.error (.protocol (.frameTooLarge (announced body) limit)), after) ∧
      channel.Gives (version :: body.take 4) after := by
  obtain ⟨middle, gives, rfl, same⟩ := read_of_version chunk limit front
  obtain ⟨after, read, rest⟩ := readBody_of_long (gives.chunk ▸ chunk) enough long
  exact ⟨after, by rw [same, read], gives.trans rest⟩

/-- A frame that comes whole is taken whole, and its payload is judged by its checksum. -/
theorem read_of_whole {limit : Nat} {body : List UInt8}
    (front : channel.delivered = version :: body) (short : announced body ≤ limit)
    (enough : 8 + announced body ≤ body.length) :
    ∃ after, read limit channel = ((judge (carried body) (attested body)).map some, after) ∧
      channel.Gives (version :: body.take (8 + announced body)) after := by
  obtain ⟨middle, gives, rfl, same⟩ := read_of_version chunk limit front
  obtain ⟨after, read, rest⟩ := readBody_of_whole (gives.chunk ▸ chunk) short enough
  refine ⟨after, ?_, gives.trans rest⟩
  rw [same, read]
  cases judge (carried middle.delivered) (attested middle.delivered) <;> rfl

/-- A frame that ends too early is taken as far as it goes, and the reading fails in the first section
that is incomplete. -/
theorem read_of_cut {limit : Nat} {body : List UInt8} (front : channel.delivered = version :: body)
    (cut : body.length < 4 ∨ announced body ≤ limit ∧ body.length < 8 + announced body) :
    ∃ arrivals, read limit channel =
      (.error ((unfinished body).cutOff channel.ending), channel.gave (body.length + 1) arrivals) := by
  obtain ⟨middle, gives, rfl, same⟩ := read_of_version chunk limit front
  obtain ⟨arrivals, read⟩ := readBody_of_cut (gives.chunk ▸ chunk) cut
  refine ⟨arrivals, ?_⟩
  rw [same, read, gives.ending, gives.gave, List.length_singleton, Nat.add_comm]

end Bodies

/-- **What is read depends on what is delivered and on what stops it**, and on nothing else.

When nothing is delivered, the end of the stream is clean and a fault is not, whichever it is.  A
foreign version is refused with one byte taken.  Behind the right version a length beyond the limit
is refused with five bytes taken, whatever follows.  A frame within the limit that comes whole is
taken whole, no more and no less, and its payload is what is read if the checksum is that of the
payload.  In every other case all bytes are taken, and the reading fails in the first section that is
incomplete: as truncated at the end of the stream, and otherwise as the fault says. -/
theorem read_parses (limit : Nat) {channel : Channel} (chunk : channel.chunk ≠ some 0) :
    let bytes := channel.delivered
    let result := (read limit channel).1
    let after := (read limit channel).2
    (bytes = [] → after = channel.gave 0 after.arrivals ∧ result =
      match channel.ending with
      | none => .ok none
      | some fault => .error (.connection (.readFailed fault.message))) ∧
    (∀ first body, bytes = first :: body → first ≠ version →
      channel.Gives [first] after ∧
        result = .error (.protocol (.unsupportedVersion first version))) ∧
    ∀ body, bytes = version :: body →
      (5 ≤ bytes.length → limit < announced body →
        channel.Gives (bytes.take 5) after ∧
          result = .error (.protocol (.frameTooLarge (announced body) limit))) ∧
      (announced body ≤ limit → 9 + announced body ≤ bytes.length →
        channel.Gives (bytes.take (9 + announced body)) after ∧
          result =
            if attested body = Checksum.ofBytes (carried body) then .ok (some (carried body))
            else .error (.protocol
              (.checksumMismatch (attested body) (Checksum.ofBytes (carried body))))) ∧
      (bytes.length < 5 ∨ announced body ≤ limit ∧ bytes.length < 9 + announced body →
        after = channel.gave bytes.length after.arrivals ∧
          result = .error ((unfinished body).cutOff channel.ending)) := by
  intro bytes result after
  refine ⟨fun nothing => ?_, fun first body front foreign => ?_, fun body front =>
    ⟨fun enough long => ?_, fun short enough => ?_, fun cut => ?_⟩⟩
  · obtain ⟨arrivals, same⟩ := read_of_nothing chunk limit nothing
    exact ⟨by simp only [after, same, Channel.gave], congrArg Prod.fst same⟩
  · obtain ⟨last, same, gives⟩ := read_of_foreign chunk limit front foreign
    exact ⟨by simpa only [after, same], congrArg Prod.fst same⟩
  · rw [front, List.length_cons] at enough
    obtain ⟨last, same, gives⟩ := read_of_exceeding chunk front (by omega) long
    have first : bytes.take 5 = version :: body.take 4 := by rw [front, List.take_succ_cons]
    exact ⟨by simpa only [after, same, first], congrArg Prod.fst same⟩
  · rw [front, List.length_cons] at enough
    obtain ⟨last, same, gives⟩ := read_of_whole chunk front short (by omega)
    have whole : bytes.take (9 + announced body) = version :: body.take (8 + announced body) := by
      rw [front, show 9 + announced body = 8 + announced body + 1 by omega, List.take_succ_cons]
    refine ⟨by simpa only [after, same, whole], ?_⟩
    rw [show result = _ from congrArg Prod.fst same, judge]
    split <;> rfl
  · rw [front, List.length_cons] at cut
    obtain ⟨arrivals, same⟩ := read_of_cut chunk front
      (cut.imp (by omega) fun early => ⟨early.1, by omega⟩)
    refine ⟨?_, congrArg Prod.fst same⟩
    simp only [after, same, front, List.length_cons, Channel.gave]

/-- A frame that comes in pieces, byte by byte and with interruptions, is read as the same frame would
be that comes at once, and the byte behind it is left. -/
theorem read_parses_pieces :
    let again : Arrival := .fault ⟨.interrupted, "again"⟩
    let channel := { Channel.ofArrivals
      [again, .data [1, 2], .data [0, 0, 0, 104], again, .data [105, 172, 42, 147, 216, 1]] with
        chunk := some 1 }
    channel.chunk ≠ some 0 ∧ (read 16 channel).1 = .ok (some [104, 105]) ∧
      channel.Gives [1, 2, 0, 0, 0, 104, 105, 172, 42, 147, 216] (read 16 channel).2 ∧
      (read 16 channel).2.delivered = [1] := by
  intro again channel
  have chunk : channel.chunk ≠ some 0 := by decide
  obtain ⟨_, _, parses⟩ := read_parses 16 chunk
  obtain ⟨_, whole, _⟩ := parses [2, 0, 0, 0, 104, 105, 172, 42, 147, 216, 1] rfl
  obtain ⟨gives, result⟩ := whole (by decide) (by decide)
  have sound : attested [2, 0, 0, 0, 104, 105, 172, 42, 147, 216, 1] =
      Checksum.ofBytes (carried [2, 0, 0, 0, 104, 105, 172, 42, 147, 216, 1]) := by decide +kernel
  rw [if_pos sound] at result
  exact ⟨chunk, result, gives, gives.rest⟩

/-! ## Frames around payloads -/

section Payloads

variable {channel after : Channel} {payload : List UInt8} (chunk : channel.chunk ≠ some 0)
include chunk

/-- **A frame at the front of what is delivered is read whole**, if it respects the limit. -/
theorem read_enclose {limit : Nat} {rest : List UInt8}
    (front : channel.delivered = enclose payload ++ rest)
    (short : payload.length ≤ limit) (expressible : payload.length ≤ maximalLength) :
    ∃ after, read limit channel = (.ok (some payload), after) ∧
      channel.Gives (enclose payload) after := by
  rw [enclose_eq, List.cons_append] at front
  have whole : 8 + announced (body payload) = (body payload).length := by
    rw [announced_body expressible, length_body]
  have announces : announced (body payload ++ rest) = payload.length :=
    (announced_append (by omega) rest).trans (announced_body expressible)
  obtain ⟨after, same, gives⟩ := read_of_whole chunk front (announces ▸ short)
    (by rw [announces, List.length_append, length_body]; omega)
  refine ⟨after, ?_, ?_⟩
  · rw [same, carried_append (Nat.le_of_eq whole), attested_append (Nat.le_of_eq whole),
      carried_body expressible, attested_body expressible, judge, if_pos rfl]
    rfl
  · rwa [announces, ← length_body, List.take_left, ← enclose_eq] at gives

/-- **A frame around a payload beyond the limit is refused** as soon as its length is known. -/
theorem read_of_long {limit : Nat} {rest : List UInt8}
    (front : channel.delivered = enclose payload ++ rest) (long : limit < payload.length)
    (expressible : payload.length ≤ maximalLength) :
    (read limit channel).1 = .error (.protocol (.frameTooLarge payload.length limit)) := by
  rw [enclose_eq, List.cons_append] at front
  have announces : announced (body payload ++ rest) = payload.length :=
    (announced_append (by rw [length_body]; omega) rest).trans (announced_body expressible)
  obtain ⟨_, same, _⟩ := read_of_exceeding chunk front
    (by rw [List.length_append, length_body]; omega) (announces.symm ▸ long)
  rw [same, announces]

/-- What a payload is read from is a body that respects the limit and comes whole. -/
theorem whole_of_read {limit : Nat} (h : read limit channel = (.ok (some payload), after)) :
    ∃ bytes, channel.delivered = version :: bytes ∧ announced bytes ≤ limit ∧
      8 + announced bytes ≤ bytes.length := by
  match front : channel.delivered with
  | [] =>
    obtain ⟨_, same⟩ := read_of_nothing chunk limit front
    rw [h] at same
    split at same <;> cases same
  | first :: bytes =>
    by_cases known : first = version
    · subst known
      refine ⟨bytes, rfl, ?_⟩
      by_cases cut : bytes.length < 4 ∨ announced bytes ≤ limit ∧ bytes.length < 8 + announced bytes
      · obtain ⟨_, same⟩ := read_of_cut chunk front cut
        cases h.symm.trans same
      · by_cases long : limit < announced bytes
        · obtain ⟨_, same, _⟩ := read_of_exceeding chunk front (by omega) long
          cases h.symm.trans same
        · omega
    · obtain ⟨_, same, _⟩ := read_of_foreign chunk limit front known
      cases h.symm.trans same

/-- **A payload that was read stood in a frame at the front**, within the limit. -/
theorem gives_of_read {limit : Nat} (h : read limit channel = (.ok (some payload), after)) :
    payload.length ≤ limit ∧ payload.length ≤ maximalLength ∧
      channel.Gives (enclose payload) after := by
  obtain ⟨bytes, front, short, enough⟩ := whole_of_read chunk h
  obtain ⟨last, same, gives⟩ := read_of_whole chunk front short enough
  have result := h.symm.trans same
  unfold judge at result
  split at result
  · rename_i sound
    cases result
    have expressible := (ofLittleEndian (bytes.take 4)).toNat_lt
    rw [← announced] at expressible
    rw [length_carried enough, enclose_eq, body_carried enough sound]
    exact ⟨short, Nat.le_of_lt_succ expressible, gives⟩
  · cases result

end Payloads

/-- **No frame begins with another one**: both would be read from the front of it. -/
theorem payload_eq_of_front {payload other rest : List UInt8}
    (short : payload.length ≤ maximalLength) (alsoShort : other.length ≤ maximalLength)
    (front : enclose other = enclose payload ++ rest) : payload = other := by
  let channel := Channel.ofArrivals [.data (enclose other)]
  have chunk : channel.chunk ≠ some 0 := nofun
  have delivered : channel.delivered = enclose other ++ [] := rfl
  obtain ⟨_, read, _⟩ := read_enclose chunk delivered alsoShort alsoShort
  have alsoDelivered : channel.delivered = enclose payload ++ rest :=
    delivered.trans ((List.append_nil _).trans front)
  obtain ⟨_, alsoRead, _⟩ := read_enclose chunk alsoDelivered short short
  exact Option.some.inj (Except.ok.inj (congrArg Prod.fst (alsoRead.symm.trans read)))

end Frame

/-- A frame at the front of what is delivered is read from an open connection. -/
theorem Connection.readFrame_of_delivered {connection : Connection} {payload rest : List UInt8}
    (connected : connection.isOpen = true) (chunk : connection.channel.chunk ≠ some 0)
    (delivered : connection.channel.delivered = Frame.enclose payload ++ rest)
    (short : payload.length ≤ connection.limit) (expressible : payload.length ≤ Frame.maximalLength) :
    ∃ channel, connection.channel.Gives (Frame.enclose payload) channel ∧
      connection.readFrame = (.ok (some payload), { connection with channel }) := by
  obtain ⟨channel, read, gives⟩ := Frame.read_enclose chunk delivered short expressible
  exact ⟨channel, gives, by rw [readFrame, if_pos connected, read]⟩

end Cosimulation
