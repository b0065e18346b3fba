import Cosimulation.Frame.Writing
/-!
# What writing a frame leaves on the channel

A channel tells beforehand how many bytes its write calls take until one of them is refused for good,
and with which fault: `Channel.room` and `Channel.refusal`.  Short writes and interruptions only cost
further calls.  A single call takes its bytes out of that room (`Channel.write_spec`), and so does the
row of calls in which a frame is written (`writeAll_spec`).  So the frame is taken whole if it finds
room (`write_of_room`), and otherwise as far as the room goes (`write_of_refusal`): nothing is written
twice and nothing is left out, the channel is flushed once if the frame was taken whole and else never,
and the answer says which of the two it was (`write_delivers`).

A channel that takes something in every call, or interrupts the call, and whose flushes succeed is
`Obliging`: every frame can be written to it, and it stays obliging (`write_of_obliging`).
-/

namespace Cosimulation

set_option autoImplicit false

/-! ## Calls that take bytes -/

namespace Channel

/-- The channel after so many write calls that took the given bytes together. -/
def took (channel : Channel) (calls : Nat) (bytes : List UInt8) : Channel :=
  { channel with
    acceptances := channel.acceptances.drop calls
    written := channel.written ++ bytes }

@[simp] theorem written_took (channel : Channel) (calls : Nat) (bytes : List UInt8) :
    (channel.took calls bytes).written = channel.written ++ bytes := rfl

@[simp] theorem flushes_took (channel : Channel) (calls : Nat) (bytes : List UInt8) :
    (channel.took calls bytes).flushes = channel.flushes := rfl

theorem took_zero (channel : Channel) : channel.took 0 [] = channel := by
  simp [took]

theorem took_took (channel : Channel) (first second : Nat) (front back : List UInt8) :
    (channel.took first front).took second back = channel.took (first + second) (front ++ back) := by
  simp [took]

/-- One flush uses up one of the coming results, whichever it is. -/
theorem flush_eq (channel : Channel) :
    channel.flush =
      (match channel.flushes.head?.join with
        | none => .ok ()
        | some fault => .error fault,
        { channel with flushes := channel.flushes.tail, flushCount := channel.flushCount + 1 }) := by
  unfold flush
  cases channel.flushes with
  | nil => rfl
  | cons first rest => cases first <;> rfl

/-- A flush takes nothing. -/
@[simp] theorem written_flush (channel : Channel) : channel.flush.2.written = channel.written := by
  rw [flush_eq]

end Channel

/-! ## Room and refusal -/

/-- A write call that takes something, or is interrupted and will be repeated. -/
def Acceptance.Progresses : Acceptance → Prop
  | .atMost count => count ≠ 0
  | .fault cause => cause.kind = .interrupted

namespace Acceptance

/-- How many bytes the calls take before one of them is refused. -/
def room : List Acceptance → Nat
  | [] => 0
  | .atMost count :: rest => if count = 0 then 0 else count + room rest
  | .fault cause :: rest => if cause.kind = .interrupted then room rest else 0

/-- The fault of the first call that is refused. -/
def refusal : List Acceptance → Option Fault
  | [] => none
  | .atMost count :: rest => if count = 0 then some Fault.nothingWritten else refusal rest
  | .fault cause :: rest => if cause.kind = .interrupted then refusal rest else some cause

theorem refusal_eq_none_iff {acceptances : List Acceptance} :
    refusal acceptances = none ↔ ∀ acceptance ∈ acceptances, acceptance.Progresses := by
  induction acceptances with
  | nil => simp [refusal]
  | cons acceptance rest ih =>
    rw [List.forall_mem_cons, ← ih]
    cases acceptance <;> simp only [refusal, Progresses] <;> split <;> simp_all

end Acceptance

namespace Channel

/-- How many bytes the channel takes before it refuses a write, if it ever does. -/
def room (channel : Channel) : Nat :=
  Acceptance.room channel.acceptances

/-- The fault with which the channel refuses a write at last. -/
def refusal (channel : Channel) : Option Fault :=
  (Acceptance.refusal channel.acceptances).or (if channel.hungUp then some Fault.brokenPipe else none)

/-- A channel refuses nothing if all its calls progress and its peer is there. -/
theorem refusal_eq_none_iff {channel : Channel} :
    channel.refusal = none ↔
      (∀ acceptance ∈ channel.acceptances, acceptance.Progresses) ∧ channel.hungUp = false := by
  rw [refusal, Option.or_eq_none_iff, Acceptance.refusal_eq_none_iff]
  cases channel.hungUp <;> simp

section Calls

variable {channel : Channel} {rest : List Acceptance}

theorem write_of_atMost {count : Nat} (next : channel.acceptances = .atMost count :: rest)
    (bytes : List UInt8) :
    channel.write bytes = (.ok (bytes.take count).length, channel.took 1 (bytes.take count)) := by
  simp [write, took, next]

theorem write_of_fault {cause : Fault} (next : channel.acceptances = .fault cause :: rest)
    (bytes : List UInt8) : channel.write bytes = (.error cause, channel.took 1 []) := by
  simp [write, took, next]

/-- Behind its script a channel takes everything, as long as its peer is there. -/
theorem write_of_none (exhausted : channel.acceptances = []) (bytes : List UInt8) :
    channel.write bytes =
      if channel.hungUp then (.error Fault.brokenPipe, channel.took 1 [])
      else (.ok bytes.length, channel.took 1 bytes) := by
  obtain ⟨_, _, acceptances, _, _, _, _, _, _⟩ := channel
  subst exhausted
  simp [write, took]

end Calls

/-- What one write call does: it takes bytes out of the room, is interrupted, or is refused. -/
theorem write_spec (channel : Channel) {bytes : List UInt8} (nonempty : bytes ≠ []) :
    match channel.write bytes with
    | (.ok 0, after) =>
      after = channel.took 1 [] ∧ channel.room = 0 ∧ channel.refusal = some Fault.nothingWritten
    | (.ok (count + 1), after) =>
      after = channel.took 1 (bytes.take (count + 1)) ∧
        (bytes.length ≤ count + 1 ∧ (channel.refusal = none ∨ bytes.length ≤ channel.room) ∨
          channel.room = count + 1 + after.room ∧ after.refusal = channel.refusal)
    | (.error fault, after) =>
      after = channel.took 1 [] ∧
        if fault.kind = .interrupted then
          after.room = channel.room ∧ after.refusal = channel.refusal
        else channel.room = 0 ∧ channel.refusal = some fault := by
  obtain ⟨first, others, rfl⟩ := List.exists_cons_of_ne_nil nonempty
  match next : channel.acceptances with
  | [] =>
    rw [write_of_none next]
    cases gone : channel.hungUp with
    | true =>
      have other : Fault.brokenPipe.kind ≠ .interrupted := by decide
      simp [room, refusal, next, gone, other, Acceptance.room, Acceptance.refusal]
    | false => simp [refusal, next, gone, Acceptance.refusal]
  | .atMost 0 :: rest =>
    rw [write_of_atMost next]
    simp [room, refusal, next, Acceptance.room, Acceptance.refusal]
  | .atMost (count + 1) :: rest =>
    rw [write_of_atMost next, List.take_succ_cons, List.length_cons]
    refine ⟨by rw [List.take_succ_cons, List.length_take, ← List.take_eq_take_min], ?_⟩
    by_cases whole : others.length ≤ count
    · refine .inl ⟨?_, .inr ?_⟩
      · rw [List.take_of_length_le whole]
        exact Nat.le_refl _
      · simp [room, next, Acceptance.room]
        omega
    · refine .inr ⟨?_, ?_⟩
      · simp [room, took, next, Acceptance.room]
        omega
      · simp [refusal, took, next, Acceptance.refusal]
  | .fault cause :: rest =>
    rw [write_of_fault next]
    refine ⟨rfl, ?_⟩
    split
    · rename_i interrupted
      simp [took, room, refusal, next, Acceptance.room, Acceptance.refusal, interrupted]
    · rename_i other
      simp [room, refusal, next, Acceptance.room, Acceptance.refusal, other]

end Channel

/-! ## Frames -/

namespace Frame

/-- **Bytes are taken as far as there is room for them.**  Either all of them are taken, once and in
order, or the room and no more, and then with the fault of the refusal. -/
theorem writeAll_spec (bytes : List UInt8) (channel : Channel) :
    ((channel.refusal = none ∨ bytes.length ≤ channel.room) ∧
      ∃ calls, writeAll bytes channel = (.ok (), channel.took calls bytes)) ∨
    ∃ fault calls, channel.refusal = some fault ∧ channel.room < bytes.length ∧
      writeAll bytes channel = (.error fault, channel.took calls (bytes.take channel.room)) := by
  fun_induction writeAll bytes channel with
  | case1 channel => exact .inl ⟨.inr (Nat.zero_le _), 0, by rw [channel.took_zero]⟩
  | case2 bytes channel nonempty after h =>
    have spec := channel.write_spec nonempty
    rw [h] at spec
    obtain ⟨rfl, full, refused⟩ := spec
    exact .inr ⟨_, 1, refused, full ▸ List.length_pos_iff.2 nonempty, by rw [full, List.take_zero]⟩
  | case3 bytes channel nonempty count after h _ ih =>
    have spec := channel.write_spec nonempty
    rw [h] at spec
    obtain ⟨rfl, ⟨whole, fits⟩ | ⟨room, refusal⟩⟩ := spec
    · -- the call took everything, so that nothing is left to be written
      rw [List.drop_of_length_le whole] at ih
      rcases ih with ⟨_, calls, same⟩ | ⟨_, _, _, impossible, _⟩
      · refine .inl ⟨fits, 1 + calls, ?_⟩
        rw [List.drop_of_length_le whole, same, Channel.took_took, List.take_of_length_le whole,
          List.append_nil]
      · exact absurd impossible (Nat.not_lt_zero _)
    · rcases ih with ⟨fits, calls, same⟩ | ⟨fault, calls, refused, long, same⟩
      · rw [refusal, List.length_drop] at fits
        refine .inl ⟨fits.imp_right (by omega), 1 + calls, ?_⟩
        rw [same, Channel.took_took, List.take_append_drop]
      · rw [List.length_drop] at long
        refine .inr ⟨fault, 1 + calls, refusal ▸ refused, by omega, ?_⟩
        rw [same, Channel.took_took, room, ← List.take_add]
  | case4 bytes channel nonempty fault after h interrupted _ ih =>
    have spec := channel.write_spec nonempty
    rw [h] at spec
    obtain ⟨rfl, again⟩ := spec
    rw [if_pos interrupted] at again
    rw [again.1, again.2] at ih
    rcases ih with ⟨fits, calls, same⟩ | ⟨fault, calls, refused, long, same⟩
    · exact .inl ⟨fits, 1 + calls, by rw [same, Channel.took_took]; rfl⟩
    · exact .inr ⟨fault, 1 + calls, refused, long, by rw [same, Channel.took_took]; rfl⟩
  | case5 bytes channel nonempty fault after h other =>
    have spec := channel.write_spec nonempty
    rw [h] at spec
    obtain ⟨rfl, refused⟩ := spec
    rw [if_neg other] at refused
    exact .inr ⟨fault, 1, refused.2, refused.1 ▸ List.length_pos_iff.2 nonempty,
      by rw [refused.1, List.take_zero]⟩

/-- A frame that finds room is flushed once, and only that flush can fail. -/
theorem write_of_room (frame : List UInt8) {channel : Channel}
    (fits : channel.refusal = none ∨ frame.length ≤ channel.room) :
    ∃ calls, write frame channel =
      (match channel.flushes.head?.join with
        | none => .ok ()
        | some fault => .error (.writeFailed fault.message),
        (channel.took calls frame).flush.2) := by
  rcases writeAll_spec frame channel with ⟨_, calls, all⟩ | ⟨fault, _, refused, long, _⟩
  · refine ⟨calls, ?_⟩
    rw [write, all]
    dsimp only
    rw [Channel.flush_eq, Channel.flushes_took]
    cases channel.flushes.head?.join <;> rfl
  · rcases fits with never | enough
    · cases never.symm.trans refused
    · omega

/-- A frame that finds too little room is cut off there and is not flushed. -/
theorem write_of_refusal {frame : List UInt8} {channel : Channel}
    (lacking : ¬(channel.refusal = none ∨ frame.length ≤ channel.room)) :
    ∃ fault calls, channel.refusal = some fault ∧ write frame channel =
      (.error (.writeFailed fault.message), channel.took calls (frame.take channel.room)) := by
  rcases writeAll_spec frame channel with ⟨fits, _⟩ | ⟨fault, calls, refused, _, cut⟩
  · exact absurd fits lacking
  · exact ⟨fault, calls, refused, by rw [write, cut]⟩

/-- What finds too little room is not taken whole. -/
theorem drop_room_ne_nil {frame : List UInt8} {channel : Channel}
    (lacking : ¬(channel.refusal = none ∨ frame.length ≤ channel.room)) :
    frame.drop channel.room ≠ [] :=
  fun nothing => lacking (.inr (List.drop_eq_nil_iff.1 nothing))

/-- **Writing a frame takes a beginning of it, and all of it when it succeeds.**  A frame that was
cut off is not flushed; a frame that was taken whole is flushed once, and only that flush can still
fail. -/
theorem write_cases (frame : List UInt8) (channel : Channel) :
    ∃ calls front back, frame = front ++ back ∧
      ((back ≠ [] ∧ ∃ fault : Fault, write frame channel =
          (.error (.writeFailed fault.message), channel.took calls front)) ∨
        (back = [] ∧ ∃ result, write frame channel = (result, (channel.took calls front).flush.2) ∧
          (result = .ok () ↔ channel.flushes.head?.join = none))) := by
  by_cases fits : channel.refusal = none ∨ frame.length ≤ channel.room
  · obtain ⟨calls, same⟩ := write_of_room frame fits
    refine ⟨calls, frame, [], (List.append_nil _).symm, .inr ⟨rfl, _, same, ?_⟩⟩
    cases channel.flushes.head?.join <;> simp
  · obtain ⟨fault, calls, _, same⟩ := write_of_refusal fits
    exact ⟨calls, _, _, (List.take_append_drop channel.room frame).symm,
      .inl ⟨drop_room_ne_nil fits, fault, same⟩⟩

/-- **A frame is written whole and flushed once, or its writing fails.**

What the channel takes is always a beginning of the frame.  If it is not the whole frame, it is as
much as the channel has room for; then nothing is flushed, and the answer is the fault of the refusal.
If it is the whole frame, the channel is flushed once, and the answer is what becomes of that flush,
which is not repeated when it is interrupted.  A channel whose calls progress, whose peer is there and
whose flush succeeds takes every frame, however small the pieces. -/
theorem write_delivers (frame : List UInt8) (channel : Channel) :
    let result := (write frame channel).1
    let after := (write frame channel).2
    (∃ front back, frame = front ++ back ∧ after.written = channel.written ++ front ∧
      (result = .ok () ↔ back = [] ∧ channel.flushes.head?.join = none) ∧
      (back ≠ [] →
        after.flushCount = channel.flushCount ∧ after.flushes = channel.flushes ∧
          front.length = channel.room ∧
          ∃ fault, channel.refusal = some fault ∧ result = .error (.writeFailed fault.message)) ∧
      (back = [] →
        after.flushCount = channel.flushCount + 1 ∧ after.flushes = channel.flushes.tail ∧
          ∀ fault, channel.flushes.head?.join = some fault →
            result = .error (.writeFailed fault.message))) ∧
    ((∀ acceptance ∈ channel.acceptances, acceptance.Progresses) → channel.hungUp = false →
      channel.flushes.head?.join = none →
        result = .ok () ∧ after.written = channel.written ++ frame) := by
  intro result after
  have whole (fits : channel.refusal = none ∨ frame.length ≤ channel.room) :
      after.written = channel.written ++ frame ∧ after.flushCount = channel.flushCount + 1 ∧
        after.flushes = channel.flushes.tail ∧ result =
          match channel.flushes.head?.join with
          | none => .ok ()
          | some fault => .error (.writeFailed fault.message) := by
    obtain ⟨calls, same⟩ := write_of_room frame fits
    have left := congrArg Prod.snd same
    rw [Channel.flush_eq] at left
    exact ⟨congrArg Channel.written left, congrArg Channel.flushCount left,
      congrArg Channel.flushes left, congrArg Prod.fst same⟩
  refine ⟨?_, fun progresses present flushed => ?_⟩
  · by_cases fits : channel.refusal = none ∨ frame.length ≤ channel.room
    · obtain ⟨written, count, left, answer⟩ := whole fits
      refine ⟨frame, [], (List.append_nil _).symm, written, ?_, fun left => absurd rfl left,
        fun _ => ⟨count, left, fun fault failed => by rw [answer, failed]⟩⟩
      rw [answer]
      cases channel.flushes.head?.join <;> simp
    · obtain ⟨fault, calls, refused, same⟩ := write_of_refusal fits
      have answer : result = .error (.writeFailed fault.message) := congrArg Prod.fst same
      have left : after = channel.took calls (frame.take channel.room) := congrArg Prod.snd same
      have cut := drop_room_ne_nil fits
      have long : ¬frame.length ≤ channel.room := fun enough => fits (.inr enough)
      refine ⟨_, _, (List.take_append_drop channel.room frame).symm, by rw [left]; rfl, ?_,
        fun _ => ⟨by rw [left]; rfl, by rw [left]; rfl, ?_, fault, refused, answer⟩,
        fun nothing => absurd nothing cut⟩
      · rw [answer]
        simp [cut]
      · rw [List.length_take]
        omega
  · obtain ⟨written, _, _, answer⟩ :=
      whole (.inl (Channel.refusal_eq_none_iff.2 ⟨progresses, present⟩))
    exact ⟨by rw [answer, flushed], written⟩

/-- Short writes and an interruption between them neither lose nor repeat a byte. -/
theorem write_delivers_pieces :
    let acceptances : List Acceptance :=
      [.atMost 1, .fault ⟨.interrupted, "again"⟩, .atMost 2, .fault ⟨.interrupted, "again"⟩]
    let channel := { Channel.ofArrivals [] with acceptances }
    (∀ acceptance ∈ channel.acceptances, acceptance.Progresses) ∧ channel.hungUp = false ∧
      channel.flushes.head?.join = none ∧ (write [1, 2, 3, 4, 5] channel).1 = .ok () ∧
      (write [1, 2, 3, 4, 5] channel).2.written = [1, 2, 3, 4, 5] := by
  intro acceptances channel
  have progresses : ∀ acceptance ∈ channel.acceptances, acceptance.Progresses :=
    Acceptance.refusal_eq_none_iff.1 rfl
  obtain ⟨_, whole⟩ := write_delivers [1, 2, 3, 4, 5] channel
  obtain ⟨result, written⟩ := whole progresses rfl rfl
  exact ⟨progresses, rfl, rfl, result, written⟩

end Frame

/-! ## What is written to a channel -/

/-- The channel `after` is `before` with the given bytes written to it: what is still to arrive, and
how it is read, is the same. -/
def Channel.Wrote (before : Channel) (bytes : List UInt8) (after : Channel) : Prop :=
  ∃ acceptances flushes flushCount, after =
    { before with acceptances, flushes, flushCount, written := before.written ++ bytes }

namespace Channel.Wrote

variable {before after : Channel} {bytes : List UInt8}

theorem refl (channel : Channel) : channel.Wrote [] channel :=
  ⟨channel.acceptances, channel.flushes, channel.flushCount, by rw [List.append_nil]⟩

theorem took (channel : Channel) (calls : Nat) (bytes : List UInt8) :
    channel.Wrote bytes (channel.took calls bytes) :=
  ⟨_, _, _, rfl⟩

theorem flush (wrote : before.Wrote bytes after) : before.Wrote bytes after.flush.2 := by
  obtain ⟨acceptances, flushes, flushCount, rfl⟩ := wrote
  rw [Channel.flush_eq]
  exact ⟨_, _, _, rfl⟩

theorem written (wrote : before.Wrote bytes after) : after.written = before.written ++ bytes := by
  obtain ⟨_, _, _, rfl⟩ := wrote
  rfl

theorem arrivals (wrote : before.Wrote bytes after) : after.arrivals = before.arrivals := by
  obtain ⟨_, _, _, rfl⟩ := wrote
  rfl

end Channel.Wrote

/-! ## Channels that take everything -/

/-- A channel whose writes and flushes succeed, in however many calls. -/
structure Channel.Obliging (channel : Channel) : Prop where
  progresses : ∀ acceptance ∈ channel.acceptances, acceptance.Progresses
  flushes : ∀ flush ∈ channel.flushes, flush = none
  present : channel.hungUp = false

namespace Channel.Obliging

variable {channel : Channel}

theorem took (obliging : channel.Obliging) (calls : Nat) (bytes : List UInt8) :
    (channel.took calls bytes).Obliging where
  progresses acceptance member := obliging.progresses acceptance (List.mem_of_mem_drop member)
  flushes := obliging.flushes
  present := obliging.present

theorem flush (obliging : channel.Obliging) : channel.flush.2.Obliging := by
  rw [Channel.flush_eq]
  exact ⟨obliging.progresses,
    fun flush member => obliging.flushes flush (List.mem_of_mem_tail member), obliging.present⟩

theorem refusal (obliging : channel.Obliging) : channel.refusal = none :=
  Channel.refusal_eq_none_iff.2 ⟨obliging.progresses, obliging.present⟩

/-- The coming flush succeeds. -/
theorem flushed (obliging : channel.Obliging) : channel.flushes.head?.join = none := by
  have flushes := obliging.flushes
  cases found : channel.flushes with
  | nil => rfl
  | cons first rest => exact flushes first (found ▸ List.mem_cons_self)

end Channel.Obliging

/-- **Every frame can be written to an obliging channel.** -/
theorem Frame.write_of_obliging (frame : List UInt8) {channel : Channel}
    (obliging : channel.Obliging) :
    ∃ calls, write frame channel = (.ok (), (channel.took calls frame).flush.2) := by
  obtain ⟨calls, same⟩ := write_of_room frame (.inl obliging.refusal)
  exact ⟨calls, by rw [same, obliging.flushed]⟩

end Cosimulation
