import Cosimulation.Proofs.Frame.Parsing
import Cosimulation.Proofs.Session.Responding
import Cosimulation.Proofs.Wire.Spelling
import Mathlib.Data.List.Forall2
/-!
# Messages over a stream

Messages are sent as frames, one behind the other, and the other end reads frames one after the
other.  Whatever commands, or whatever responses, are framed under a limit, reading under the same
limit gives them back in their order and then the end of the stream, in whatever pieces the bytes
are delivered.  A message that is not framed because it is too long would not be read either: the
two ends draw the boundary at the same length and name it alike (`reads_messages`).
-/

namespace Cosimulation

set_option autoImplicit false

namespace Frame

/-- What so many reads give, one after the other. -/
def reads (limit : Nat) : Nat → Channel → List (Except Error (Option (List UInt8)))
  | 0, _ => []
  | count + 1, channel => (read limit channel).1 :: reads limit count (read limit channel).2

section Delivery

variable {limit : Nat} {channel : Channel} (chunk : channel.chunk ≠ some 0)
include chunk

/-- **Frames within the limit are read back in their order**, and then the end of the stream. -/
theorem reads_enclosed {payloads : List (List UInt8)}
    (delivered : channel.delivered = payloads.flatMap enclose) (ending : channel.ending = none)
    (short : ∀ payload ∈ payloads, payload.length ≤ limit ∧ payload.length ≤ maximalLength) :
    reads limit (payloads.length + 1) channel =
      payloads.map (fun payload => .ok (some payload)) ++ [.ok none] := by
  induction payloads generalizing channel with
  | nil =>
    obtain ⟨_, ended⟩ := read_of_nothing chunk limit delivered
    rw [ending] at ended
    rw [List.length_nil, reads, ended]
    rfl
  | cons payload payloads ih =>
    rw [List.flatMap_cons] at delivered
    obtain ⟨fits, expressible⟩ := short payload List.mem_cons_self
    obtain ⟨after, found, gives⟩ := read_enclose chunk delivered fits expressible
    have behind : after.delivered = payloads.flatMap enclose :=
      List.append_cancel_left (gives.delivered.symm.trans delivered)
    have others := ih (gives.chunk ▸ chunk) behind (gives.ending.trans ending)
      fun other member => short other (List.mem_cons_of_mem _ member)
    rw [List.length_cons, reads, found, others]
    rfl

end Delivery

/-- Messages that are framed under a limit have payloads that respect it, and their frames are the
frames around these payloads. -/
theorem payloads_of_framed {α : Type} [Message α] {limit : Nat} {messages : List α}
    {frames : List (List UInt8)}
    (framed : List.Forall₂ (fun message frame => ofMessage limit message = .ok frame)
      messages frames) :
    frames.flatten = (messages.map Message.payload).flatMap enclose ∧
      ∀ payload ∈ messages.map Message.payload,
        payload.length ≤ limit ∧ payload.length ≤ maximalLength := by
  induction framed with
  | nil => exact ⟨rfl, by simp⟩
  | cons first _ ih =>
    obtain ⟨short, expressible, rfl⟩ := encode_eq_ok_iff.1 first
    refine ⟨?_, ?_⟩
    · rw [List.flatten_cons, ih.1, List.map_cons, List.flatMap_cons]
    · simp only [List.map_cons, List.mem_cons, forall_eq_or_imp]
      exact ⟨⟨short, expressible⟩, ih.2⟩

/-- What is too long to be framed under a limit that four bytes express is longer than that limit,
and this is what the error says. -/
theorem eq_of_frameTooLarge {limit length maximum : Nat} {payload : List UInt8}
    (expressible : limit ≤ maximalLength)
    (refused : encode limit payload = .error (.frameTooLarge length maximum)) :
    limit < payload.length ∧ length = payload.length ∧ maximum = limit := by
  unfold encode at refused
  split at refused
  · rename_i long
    cases refused
    exact ⟨long, rfl, rfl⟩
  · split at refused
    · omega
    · cases refused

end Frame

/-- The two kinds of messages: what the controller sends and what it is answered. -/
inductive MessageKind where
  | command
  | response
  deriving DecidableEq, Repr

namespace MessageKind

/-- The messages of a kind. -/
abbrev Carrier : MessageKind → Type
  | .command => Command
  | .response => Response

instance : (kind : MessageKind) → Message kind.Carrier
  | .command => inferInstanceAs (Message Command)
  | .response => inferInstanceAs (Message Response)

/-- Messages of either kind are read back from the bytes that they are written as. -/
theorem decode_payload : (kind : MessageKind) → (message : kind.Carrier) →
    Message.decode (Message.payload message) = .ok message
  | .command, message => Command.decode_payload message
  | .response, message => Response.decode_payload message

end MessageKind

/-- **Messages pass a stream unchanged, or are refused at both ends.**  The frames of messages that
are framed under a limit, delivered in any pieces and then the end of the stream, are read under
that limit one after the other, and then the end; each payload spells the message that was sent.
A message that is refused as too long under a limit that four bytes express is either too long for
any frame, or the frame around it is refused by the reader with the same error. -/
theorem reads_messages (kind : MessageKind) (limit : Nat) :
    (∀ (messages : List kind.Carrier) (frames : List (List UInt8)) (channel : Channel),
      List.Forall₂ (fun message frame => Frame.ofMessage limit message = .ok frame)
        messages frames →
      channel.chunk ≠ some 0 → channel.delivered = frames.flatten → channel.ending = none →
      ∃ payloads : List (List UInt8), Frame.reads limit (messages.length + 1) channel =
          payloads.map (fun payload => .ok (some payload)) ++ [.ok none] ∧
        payloads.map Message.decode = messages.map .ok) ∧
    (∀ (message : kind.Carrier) (length maximum : Nat), limit ≤ Frame.maximalLength →
      Frame.ofMessage limit message = .error (.frameTooLarge length maximum) →
      Frame.maximalLength < (Message.payload message).length ∨
        ∀ (channel : Channel) (rest : List UInt8), channel.chunk ≠ some 0 →
          channel.delivered = Frame.enclose (Message.payload message) ++ rest →
          (Frame.read limit channel).1 = .error (.protocol (.frameTooLarge length maximum))) := by
  refine ⟨fun messages frames channel framed chunk delivered ending => ?_,
    fun message length maximum expressible refused => ?_⟩
  · obtain ⟨bytes, short⟩ := Frame.payloads_of_framed framed
    have read := Frame.reads_enclosed chunk (delivered.trans bytes) ending short
    rw [List.length_map] at read
    refine ⟨_, read, ?_⟩
    rw [List.map_map]
    exact List.map_congr_left fun message _ => kind.decode_payload message
  · obtain ⟨long, rfl, rfl⟩ := Frame.eq_of_frameTooLarge expressible refused
    by_cases fits : (Message.payload message).length ≤ Frame.maximalLength
    · exact .inr fun channel rest chunk delivered =>
        Frame.read_of_long chunk delivered long fits
    · exact .inl (Nat.lt_of_not_ge fits)

/-- Two commands whose texts need escapes and the largest number, and one that is a byte too long. -/
theorem reads_messages_escaped :
    let messages : List Command :=
      [⟨.ofNat 1, .print "\"\\\n\u0001é"⟩, ⟨.ofNat 2, .advance 18446744073709551615⟩]
    let frames := messages.map fun command => Frame.enclose (Message.payload command)
    let long : Command := ⟨.ofNat 3, .ping⟩
    (∃ payloads : List (List UInt8),
      Frame.reads 120 3 (.ofArrivals [.data frames.flatten]) =
          payloads.map (fun payload => .ok (some payload)) ++ [.ok none] ∧
        payloads.map Message.decode = messages.map .ok) ∧
    Frame.ofMessage 64 long = .error (.frameTooLarge 65 64) ∧
    (Frame.read 64 (.ofArrivals [.data (Frame.enclose (Message.payload long))])).1 =
      .error (.protocol (.frameTooLarge 65 64)) := by
  intro messages frames long
  obtain ⟨pass, _⟩ := reads_messages .command 120
  obtain ⟨_, refuse⟩ := reads_messages .command 64
  have short : ∀ command ∈ messages, (Message.payload command).length ≤ 120 := by decide +kernel
  have framed : List.Forall₂ (fun command frame => Frame.ofMessage 120 command = .ok frame)
      messages frames := by
    rw [List.forall₂_map_right_iff, List.forall₂_same]
    exact fun command member => Frame.encode_eq_ok_iff.2
      ⟨short command member, Nat.le_trans (short command member) (by decide), rfl⟩
  have refused : Frame.ofMessage 64 long = .error (.frameTooLarge 65 64) := by decide +kernel
  refine ⟨pass messages frames _ framed nofun (List.append_nil _) rfl, refused, ?_⟩
  rcases refuse long 65 64 (by decide) refused with inexpressible | read
  · exact absurd inexpressible (by decide +kernel)
  · exact read _ [] nofun rfl

end Cosimulation
