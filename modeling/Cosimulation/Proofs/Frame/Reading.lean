import Cosimulation.Connection
/-!
# Reading frames, however they are delivered

The bytes that a channel delivers before it first ends or fails may come in pieces of any size, with
interruptions anywhere.  `Channel.delivered` is the row of these bytes and `Channel.ending` what
stops it.  A reader sees nothing else of the delivery: the version is the first byte delivered
(`readVersion_spec`), and a section is read from the front of the delivered bytes if they suffice and
otherwise fails as the ending says (`readSection_spec`).  Reading is nothing but reads of the channel,
so that it keeps what they keep (`kept_read`) and leaves what was written alone (`onlyRead_read`).
-/

namespace Cosimulation

set_option autoImplicit false

/-! ## What is delivered -/

namespace Arrival

/-- The bytes that arrive before the first end of stream or fault that is no interruption. -/
def delivered : List Arrival → List UInt8
  | [] => []
  | .data bytes :: rest => bytes ++ delivered rest
  | .endOfStream :: _ => []
  | .fault cause :: rest => if cause.kind = .interrupted then delivered rest else []

/-- What stops the bytes that arrive: a fault, or else the end of the stream. -/
def ending : List Arrival → Option Fault
  | [] => none
  | .data _ :: rest => ending rest
  | .endOfStream :: _ => none
  | .fault cause :: rest => if cause.kind = .interrupted then ending rest else some cause

theorem delivered_dropWhile_isEmpty (arrivals : List Arrival) :
    delivered (arrivals.dropWhile isEmpty) = delivered arrivals := by
  induction arrivals with
  | nil => rfl
  | cons arrival rest ih =>
    rw [List.dropWhile_cons]
    split
    · rename_i empty
      rw [ih]
      match arrival, empty with
      | .data [], _ => rfl
    · rfl

theorem ending_dropWhile_isEmpty (arrivals : List Arrival) :
    ending (arrivals.dropWhile isEmpty) = ending arrivals := by
  induction arrivals with
  | nil => rfl
  | cons arrival rest ih =>
    rw [List.dropWhile_cons]
    split
    · rename_i empty
      rw [ih]
      match arrival, empty with
      | .data [], _ => rfl
    · rfl

/-- An arrival that is not empty may head the arrivals that are left. -/
theorem not_isEmpty_of_dropWhile {arrivals rest : List Arrival} {arrival : Arrival}
    (h : arrivals.dropWhile isEmpty = arrival :: rest) : arrival.isEmpty = false := by
  have := List.head?_dropWhile_not isEmpty arrivals
  rw [h] at this
  simpa using this

end Arrival

namespace Channel

/-- The bytes that a channel delivers before it first ends or fails. -/
def delivered (channel : Channel) : List UInt8 := Arrival.delivered channel.arrivals

/-- What stops the bytes that a channel delivers. -/
def ending (channel : Channel) : Option Fault := Arrival.ending channel.arrivals

/-- The channel after reads that took so many bytes and left the given arrivals. -/
def gave (channel : Channel) (count : Nat) (arrivals : List Arrival) : Channel :=
  { channel with arrivals, taken := channel.taken + count }

@[simp] theorem chunk_gave (channel : Channel) (count : Nat) (arrivals : List Arrival) :
    (channel.gave count arrivals).chunk = channel.chunk := rfl

theorem gave_gave (channel : Channel) (first second : Nat) (middle last : List Arrival) :
    (channel.gave first middle).gave second last = channel.gave (first + second) last := by
  simp [gave, Nat.add_assoc]

/-- The channel `after` is `before` with the given bytes read off its front. -/
structure Gives (before : Channel) (bytes : List UInt8) (after : Channel) : Prop where
  delivered : before.delivered = bytes ++ after.delivered
  ending : after.ending = before.ending
  same : after = before.gave bytes.length after.arrivals

namespace Gives

theorem refl (channel : Channel) : channel.Gives [] channel :=
  ⟨rfl, rfl, rfl⟩

theorem trans {before middle after : Channel} {front back : List UInt8}
    (first : before.Gives front middle) (second : middle.Gives back after) :
    before.Gives (front ++ back) after where
  delivered := by rw [first.delivered, second.delivered, List.append_assoc]
  ending := second.ending.trans first.ending
  same := by
    have := second.same
    rw [first.same, gave_gave] at this
    rwa [List.length_append]

theorem chunk {before after : Channel} {bytes : List UInt8} (gives : before.Gives bytes after) :
    after.chunk = before.chunk := by
  rw [gives.same, chunk_gave]

theorem gave {before after : Channel} {bytes : List UInt8} (gives : before.Gives bytes after)
    (count : Nat) (arrivals : List Arrival) :
    after.gave count arrivals = before.gave (bytes.length + count) arrivals := by
  rw [gives.same, gave_gave]

end Gives

/-- The channel delivers nothing any more, for the given reason, which leaves it as `after`. -/
structure Ends (before : Channel) (reason : Option Fault) (after : Channel) : Prop where
  delivered : before.delivered = []
  ending : before.ending = reason
  same : after = before.gave 0 after.arrivals

/-- What one read of some bytes does: it gives bytes, is interrupted, or meets the ending. -/
theorem read_spec {channel : Channel} {count : Nat} (wanted : count ≠ 0)
    (chunk : channel.chunk ≠ some 0) :
    match channel.read count with
    | (.ok (byte :: bytes), after) =>
      (byte :: bytes).length ≤ count ∧ channel.Gives (byte :: bytes) after
    | (.ok [], after) => channel.Ends none after
    | (.error fault, after) =>
      if fault.kind = .interrupted then channel.Gives [] after
      else channel.Ends (some fault) after := by
  have bytes := Arrival.delivered_dropWhile_isEmpty channel.arrivals
  have stop := Arrival.ending_dropWhile_isEmpty channel.arrivals
  unfold read
  rw [if_neg wanted]
  cases found : channel.arrivals.dropWhile Arrival.isEmpty with
  | nil =>
    rw [found] at bytes stop
    exact ⟨bytes.symm, stop.symm, rfl⟩
  | cons arrival rest =>
    rw [found] at bytes stop
    cases arrival with
    | endOfStream => exact ⟨bytes.symm, stop.symm, rfl⟩
    | fault cause =>
      simp only [Arrival.delivered, Arrival.ending] at bytes stop
      dsimp only
      split
      · rename_i interrupted
        rw [if_pos interrupted] at bytes stop
        exact ⟨bytes.symm, stop, rfl⟩
      · rename_i other
        rw [if_neg other] at bytes stop
        exact ⟨bytes.symm, stop.symm, rfl⟩
    | data piece =>
      -- the piece is not empty, and neither is the part of it that is read
      have nonempty : piece ≠ [] := by
        rintro rfl
        cases Arrival.not_isEmpty_of_dropWhile found
      obtain ⟨size, sized⟩ : ∃ size, min count (channel.chunk.getD count) = size + 1 := by
        refine Nat.exists_eq_succ_of_ne_zero ?_
        cases limited : channel.chunk with
        | none => simpa using wanted
        | some chunk =>
          have : chunk ≠ 0 := fun zero => ‹channel.chunk ≠ _› (by rw [limited, zero])
          simp only [Option.getD_some]
          omega
      obtain ⟨byte, others, rfl⟩ := List.exists_cons_of_ne_nil nonempty
      dsimp only
      rw [sized, List.take_succ_cons]
      dsimp only
      refine ⟨?_, ?_, stop, rfl⟩
      · rw [List.length_cons, List.length_take]
        omega
      · refine bytes.symm.trans ?_
        simp only [Channel.delivered, Arrival.delivered, List.drop_succ_cons, List.cons_append,
          ← List.append_assoc, List.take_append_drop]

section Inversion

variable {channel after : Channel} {count : Nat} (wanted : count ≠ 0)
  (chunk : channel.chunk ≠ some 0)
include wanted chunk

theorem gives_of_read {byte : UInt8} {bytes : List UInt8}
    (h : channel.read count = (.ok (byte :: bytes), after)) :
    bytes.length + 1 ≤ count ∧ channel.Gives (byte :: bytes) after := by
  have spec := read_spec wanted chunk
  rwa [h] at spec

theorem ends_of_read (h : channel.read count = (.ok [], after)) : channel.Ends none after := by
  have spec := read_spec wanted chunk
  rwa [h] at spec

theorem gives_of_interrupted {fault : Fault} (h : channel.read count = (.error fault, after))
    (interrupted : fault.kind = .interrupted) : channel.Gives [] after := by
  have spec := read_spec wanted chunk
  rw [h] at spec
  exact (if_pos interrupted).mp spec

theorem ends_of_fault {fault : Fault} (h : channel.read count = (.error fault, after))
    (other : fault.kind ≠ .interrupted) : channel.Ends (some fault) after := by
  have spec := read_spec wanted chunk
  rw [h] at spec
  exact (if_neg other).mp spec

end Inversion

end Channel

namespace Frame

/-! ## Reading from what is delivered -/

/-- The error of a section that the delivered bytes do not complete. -/
def Section.cutOff (inside : Section) : Option Fault → Error
  | none => .protocol (.truncated inside.name)
  | some fault =>
    if fault.kind = .unexpectedEnd then .protocol (.truncated inside.name)
    else .connection (.readFailed fault.message)

/-- A version is the first byte delivered. -/
theorem readVersion_spec {channel : Channel} (chunk : channel.chunk ≠ some 0) :
    (∃ byte after, readVersion channel = (.ok (some byte), after) ∧ channel.Gives [byte] after) ∨
    (channel.delivered = [] ∧ ∃ arrivals, readVersion channel =
      (match channel.ending with
        | none => .ok none
        | some fault => .error (.connection (.readFailed fault.message)), channel.gave 0 arrivals)) := by
  fun_induction readVersion channel with
  | case1 channel after h =>
    have ends := Channel.ends_of_read Nat.one_ne_zero chunk h
    exact .inr ⟨ends.delivered, after.arrivals, by rw [ends.ending, ← ends.same]⟩
  | case2 channel byte bytes after h =>
    obtain ⟨short, gives⟩ := Channel.gives_of_read Nat.one_ne_zero chunk h
    have single : bytes = [] := List.length_eq_zero_iff.1 (by omega)
    subst single
    exact .inl ⟨byte, after, rfl, gives⟩
  | case3 channel fault after h interrupted _ ih =>
    have gives := Channel.gives_of_interrupted Nat.one_ne_zero chunk h interrupted
    rcases ih (by rwa [gives.chunk]) with ⟨byte, last, version, more⟩ | ⟨silent, arrivals, version⟩
    · exact .inl ⟨byte, last, version, gives.trans more⟩
    · refine .inr ⟨by rw [gives.delivered, silent, List.append_nil], arrivals, ?_⟩
      rw [version, gives.ending, gives.gave]
      rfl
  | case4 channel fault after h other =>
    have ends := Channel.ends_of_fault Nat.one_ne_zero chunk h other
    exact .inr ⟨ends.delivered, after.arrivals, by rw [ends.ending, ← ends.same]⟩

/-- What becomes of a section for which nothing is delivered any more. -/
theorem cutOff_of_ends (inside : Section) {count : Nat} {channel after : Channel}
    {reason : Option Fault} (wanted : count ≠ 0) (ends : channel.Ends reason after) :
    channel.delivered.length < count ∧ ∃ arrivals, (Except.error (inside.cutOff reason), after) =
      ((.error (inside.cutOff channel.ending), channel.gave channel.delivered.length arrivals) :
        Except Error (List UInt8) × Channel) := by
  rw [ends.delivered, ends.ending]
  exact ⟨Nat.pos_of_ne_zero wanted, after.arrivals, congrArg _ ends.same⟩

/-- **A section is read off the front of the delivered bytes**, if they complete it. -/
theorem readSection_spec (inside : Section) (count : Nat) (reversed : List UInt8) {channel : Channel}
    (chunk : channel.chunk ≠ some 0) :
    (count ≤ channel.delivered.length ∧ ∃ after,
      readSection inside count reversed channel =
        (.ok (reversed.reverse ++ channel.delivered.take count), after) ∧
      channel.Gives (channel.delivered.take count) after) ∨
    (channel.delivered.length < count ∧ ∃ arrivals,
      readSection inside count reversed channel =
        (.error (inside.cutOff channel.ending), channel.gave channel.delivered.length arrivals)) := by
  fun_induction readSection inside count reversed channel with
  | case1 reversed channel =>
    exact .inl ⟨Nat.zero_le _, channel, by simp, by simpa using Channel.Gives.refl channel⟩
  | case2 count reversed channel wanted after h =>
    exact .inr (cutOff_of_ends inside wanted (Channel.ends_of_read wanted chunk h))
  | case3 count reversed channel wanted byte bytes after h _ ih =>
    -- the bytes of this read and those of the rest of the section make up the front
    obtain ⟨short, gives⟩ := Channel.gives_of_read wanted chunk h
    have total : channel.delivered.length = bytes.length + 1 + after.delivered.length := by
      rw [gives.delivered, List.length_append, List.length_cons]
    have front : channel.delivered.take count =
        byte :: bytes ++ after.delivered.take (count - (bytes.length + 1)) := by
      rw [gives.delivered, List.take_append, List.take_of_length_le short, List.length_cons]
    rcases ih (by rwa [gives.chunk]) with ⟨enough, last, read, more⟩ | ⟨lacking, arrivals, read⟩
    · refine .inl ⟨by omega, last, ?_, ?_⟩
      · rw [read, front]
        simp [List.reverseAux_eq]
      · rw [front]
        exact gives.trans more
    · refine .inr ⟨by omega, arrivals, ?_⟩
      rw [read, gives.ending, gives.gave, total]
      rfl
  | case4 count reversed channel wanted fault after h interrupted _ ih =>
    -- an interrupted read is tried again and has delivered nothing
    have gives := Channel.gives_of_interrupted wanted chunk h interrupted
    have same : channel.delivered = after.delivered := gives.delivered
    rcases ih (by rwa [gives.chunk]) with ⟨enough, last, read, more⟩ | ⟨lacking, arrivals, read⟩
    · exact .inl ⟨by rwa [same], last, by rw [read, same], same ▸ gives.trans more⟩
    · refine .inr ⟨by rwa [same], arrivals, ?_⟩
      rw [read, gives.ending, gives.gave, same]
      simp
  | case5 count reversed channel wanted fault after h other ended =>
    have ends := cutOff_of_ends inside wanted (Channel.ends_of_fault wanted chunk h other)
    rw [Section.cutOff, if_pos ended] at ends
    exact .inr ends
  | case6 count reversed channel wanted fault after h other unended =>
    have ends := cutOff_of_ends inside wanted (Channel.ends_of_fault wanted chunk h other)
    rw [Section.cutOff, if_neg unended] at ends
    exact .inr ends

/-! ## Words of four bytes -/

/-- Four bytes, least significant byte first, are the word that they make up. -/
theorem ofLittleEndian_littleEndian (word : UInt32) :
    ofLittleEndian (littleEndian word) = word := by
  apply UInt32.eq_of_toBitVec_eq
  ext index inside
  simp only [littleEndian, ofLittleEndian, UInt32.toBitVec_or, UInt32.toBitVec_shiftLeft,
    UInt8.toBitVec_toUInt32, UInt32.toBitVec_toUInt8, UInt32.toBitVec_shiftRight]
  simp
  grind

/-- A word is made up of the four bytes that it was read from. -/
theorem littleEndian_ofLittleEndian {bytes : List UInt8} (four : bytes.length = 4) :
    littleEndian (ofLittleEndian bytes) = bytes := by
  match bytes, four with
  | [first, second, third, fourth], _ =>
    simp only [littleEndian, ofLittleEndian, List.cons.injEq, and_true]
    refine ⟨?_, ?_, ?_, ?_⟩
    · apply UInt8.eq_of_toBitVec_eq
      ext index inside
      simp
    all_goals
      apply UInt8.eq_of_toBitVec_eq
      ext index inside
      simp
      grind

@[simp] theorem length_littleEndian (word : UInt32) : (littleEndian word).length = 4 := rfl

/-- A length that four bytes express is read back from them. -/
theorem toNat_ofNat_of_expressible {length : Nat} (expressible : length ≤ maximalLength) :
    (UInt32.ofNat length).toNat = length :=
  UInt32.toNat_ofNat_of_lt (Nat.lt_of_le_of_lt expressible (by decide))

end Frame

/-! ## What reading leaves alone -/

/-- Only reads lie between two channels: what was written, and what will become of further writes,
is the same. -/
def Channel.OnlyRead (before after : Channel) : Prop :=
  ∃ taken arrivals, after = before.gave taken arrivals

theorem Channel.OnlyRead.refl (channel : Channel) : channel.OnlyRead channel :=
  ⟨0, channel.arrivals, rfl⟩

theorem Channel.OnlyRead.trans {first second third : Channel} (front : first.OnlyRead second)
    (back : second.OnlyRead third) : first.OnlyRead third := by
  obtain ⟨taken, arrivals, rfl⟩ := front
  obtain ⟨more, left, rfl⟩ := back
  exact ⟨taken + more, left, first.gave_gave taken more arrivals left⟩

theorem Channel.onlyRead_read {channel after : Channel} {count : Nat}
    {result : Except Fault (List UInt8)} (h : channel.read count = (result, after)) :
    channel.OnlyRead after := by
  unfold read at h
  split at h
  · cases h
    exact .refl channel
  · split at h
    · cases h
      exact ⟨0, [], rfl⟩
    · cases h
      exact ⟨0, _, rfl⟩
    · cases h
      exact ⟨0, _, rfl⟩
    · cases h
      exact ⟨_, _, rfl⟩

namespace Frame

section Kept

/-! Reading a frame is nothing but reads of its channel, so that it keeps whatever they keep. -/

variable {keeps : Channel → Prop}
  (reads : ∀ {channel after count result}, channel.read count = (result, after) →
    keeps channel → keeps after)
include reads

theorem kept_readVersion {channel : Channel} (kept : keeps channel) :
    keeps (readVersion channel).2 := by
  fun_induction readVersion channel with
  | case1 channel after h => exact reads h kept
  | case2 channel byte bytes after h => exact reads h kept
  | case3 channel fault after h _ _ ih => exact ih (reads h kept)
  | case4 channel fault after h _ => exact reads h kept

theorem kept_readSection (inside : Section) (count : Nat) (reversed : List UInt8)
    {channel : Channel} (kept : keeps channel) :
    keeps (readSection inside count reversed channel).2 := by
  fun_induction readSection inside count reversed channel with
  | case1 => exact kept
  | case2 count reversed channel _ after h => exact reads h kept
  | case3 count reversed channel _ byte bytes after h _ ih => exact ih (reads h kept)
  | case4 count reversed channel _ fault after h _ _ ih => exact ih (reads h kept)
  | case5 count reversed channel _ fault after h => exact reads h kept
  | case6 count reversed channel _ fault after h => exact reads h kept

theorem kept_readChecksum (payload : List UInt8) {channel : Channel} (kept : keeps channel) :
    keeps (readChecksum payload channel).2 := by
  have checksum := kept_readSection reads .checksum 4 [] kept
  unfold readChecksum
  split
  · rename_i h
    rwa [h] at checksum
  · rename_i h
    rw [h] at checksum
    dsimp only
    split <;> exact checksum

theorem kept_readBody (limit : Nat) {channel : Channel} (kept : keeps channel) :
    keeps (readBody limit channel).2 := by
  have length := kept_readSection reads .length 4 [] kept
  unfold readBody
  split
  · rename_i h
    rwa [h] at length
  · rename_i bytes first h
    rw [h] at length
    dsimp only
    split
    · exact length
    · have payload := kept_readSection reads .payload (ofLittleEndian bytes).toNat [] length
      split
      · rename_i h
        rwa [h] at payload
      · rename_i content second h
        rw [h] at payload
        exact kept_readChecksum reads content payload

/-- **Reading a frame keeps what every read keeps.** -/
theorem kept_read (limit : Nat) {channel : Channel} (kept : keeps channel) :
    keeps (read limit channel).2 := by
  have version := kept_readVersion reads kept
  unfold read
  split
  · rename_i h
    rwa [h] at version
  · rename_i h
    rwa [h] at version
  · rename_i byte first h
    rw [h] at version
    split
    · have body := kept_readBody reads limit version
      split <;>
      · rename_i h
        rwa [h] at body
    · exact version

end Kept

/-- Reading a frame leaves alone what is written to the channel. -/
theorem onlyRead_read (limit : Nat) (channel : Channel) :
    channel.OnlyRead (read limit channel).2 :=
  kept_read (fun h front => front.trans (Channel.onlyRead_read h)) limit (.refl channel)

end Frame

/-- Reading from a connection leaves alone everything but its channel. -/
theorem Connection.onlyRead_readFrame (connection : Connection) :
    ∃ channel, connection.channel.OnlyRead channel ∧
      connection.readFrame.2 = { connection with channel } := by
  unfold readFrame
  split
  · exact ⟨_, Frame.onlyRead_read connection.limit connection.channel, rfl⟩
  · exact ⟨connection.channel, .refl _, rfl⟩

end Cosimulation
