import Cosimulation.Proofs.Json.Size
import Cosimulation.Proofs.Session.Responding
import Cosimulation.Proofs.Wire.RoundTrip
/-!
# How long responses are

The length of a response depends on a few texts and numbers in it.  Acknowledgements and times are
so short that they fit every limit that a bridge may have, which is at least 256 bytes
(`Response.fits_of_isShort`).  The failure that reports a response as too long repeats the path, and
its length is computed exactly (`length_oversized`).
-/

namespace Cosimulation

set_option autoImplicit false

open Json (escapedSize)

/-- The names and words of fixed length. -/
theorem escapedSize_names :
    escapedSize "request_id" = 10 ∧ escapedSize "status" = 6 ∧ escapedSize "ok" = 2 ∧
    escapedSize "error" = 5 ∧ escapedSize "result" = 6 ∧ escapedSize "kind" = 4 ∧
    escapedSize "message" = 7 ∧ escapedSize "type" = 4 ∧ escapedSize "ack" = 3 ∧
    escapedSize "pong" = 4 ∧ escapedSize "time" = 4 := by
  decide +kernel

/-- A request id is written in thirty-six bytes. -/
theorem RequestId.escapedSize_display (id : RequestId) : escapedSize id.display = 36 := by
  have digits : ∀ value < 16, Json.IsPlain (Hex.digit value) := by decide
  have plain (count value : Nat) : ∀ char ∈ Hex.digits count value, Json.IsPlain char := by
    induction count generalizing value with
    | zero => simp [Hex.digits]
    | succ count ih =>
      intro char member
      rcases List.mem_append.1 member with front | last
      · exact ih _ char front
      · rw [List.mem_singleton.1 last]
        exact digits _ (Nat.mod_lt _ (by decide))
  have hyphen : Json.IsPlain '-' := by decide
  have length : id.text.length = 36 := length_hyphenate (Hex.length_digits ..)
  rw [display, Json.escapedSize_of_plain, length]
  intro char member
  have inside := plain 32 id.bits.toNat
  simp only [text, hyphenate, List.mem_append, List.mem_cons] at member
  rcases member with (((group | rfl | group) | rfl | group) | rfl | group) | rfl | group
  · exact inside char (List.mem_of_mem_take group)
  · exact hyphen
  · exact inside char (List.mem_of_mem_drop (List.mem_of_mem_take group))
  · exact hyphen
  · exact inside char (List.mem_of_mem_drop (List.mem_of_mem_take group))
  · exact hyphen
  · exact inside char (List.mem_of_mem_drop (List.mem_of_mem_take group))
  · exact hyphen
  · exact inside char (List.mem_of_mem_drop group)

@[simp] theorem RequestId.size_toJson (id : RequestId) : Json.size (Message.toJson id) = 38 := by
  change Json.size (.string id.display) = 38
  rw [Json.size_string, escapedSize_display]

/-- A reply that holds no text. -/
def Reply.IsShort (reply : Reply) : Prop :=
  reply = .ack ∨ (∃ clock, reply = .pong clock) ∨ ∃ clock, reply = .time clock

namespace Response

/-- The length of a failure. -/
theorem length_payload_failed (id : RequestId) (error : ApplyError) :
    (Message.payload (failed id error)).length =
      93 + escapedSize error.kind + escapedSize error.message := by
  change Json.size (.object (failed id error).members) = _
  simp [members, Status.members, failed, escapedSize_names]
  omega

/-- The length of a success. -/
theorem length_payload_ok (id : RequestId) (reply : Reply) :
    (Message.payload (ok id reply)).length = 77 + Json.size (.object reply.members) := by
  change Json.size (.object (ok id reply).members) = _
  have result : Json.size (Message.toJson reply) = Json.size (.object reply.members) := rfl
  simp only [members, Status.members, ok, Json.size_object, Json.membersSize_cons_cons,
    Json.membersSize_singleton, Json.size_string, RequestId.size_toJson, escapedSize_names, result]
  omega

/-- Words of 64 bits have at most twenty digits. -/
theorem length_toDigits_word (word : UInt64) : (Nat.toDigits 10 word.toNat).length ≤ 20 := by
  rw [Nat.length_toDigits_le_iff (by decide) (by decide)]
  exact Nat.lt_trans word.toNat_lt (by decide)

/-- Acknowledgements and times are short. -/
theorem length_payload_of_isShort (id : RequestId) {reply : Reply} (short : reply.IsShort) :
    (Message.payload (ok id reply)).length ≤ 165 := by
  rw [length_payload_ok]
  rcases short with rfl | ⟨clock, rfl⟩ | ⟨clock, rfl⟩
  · simp [Reply.members, escapedSize_names]
  · have digits := length_toDigits_word clock
    simp [Reply.members, escapedSize_names]
    omega
  · have digits := length_toDigits_word clock
    simp [Reply.members, escapedSize_names]
    omega

/-- Acknowledgements and times fit every limit that a bridge may have. -/
theorem fits_of_isShort {limit : Nat} (least : 256 ≤ limit) (id : RequestId) {reply : Reply}
    (short : reply.IsShort) : (ok id reply).Fits limit := by
  have length := length_payload_of_isShort id short
  exact fits_iff.2 ⟨by omega, Nat.le_trans length (by decide)⟩

end Response

/-! ## Failures -/

/-- The failure of an operation that finds no object. -/
theorem length_unknownObject (id : RequestId) (path : String) :
    (Message.payload (Response.failed id (.unknownObject path))).length =
      125 + escapedSize path := by
  have kind : escapedSize (ApplyError.unknownObject path).kind = 14 := by
    change escapedSize "unknown_object" = 14
    decide +kernel
  have words : escapedSize "Object not found: " = 18 := by decide +kernel
  have message : (ApplyError.unknownObject path).message = s!"Object not found: {path}" := rfl
  rw [Response.length_payload_failed, kind, message]
  simp only [Json.escapedSize_append, Json.escapedSize_toString, words]
  omega

/-- The failure of a write with an improper value. -/
theorem length_invalidValue (id : RequestId) (path reason : String) :
    (Message.payload (Response.failed id (.invalidValue path reason))).length =
      126 + escapedSize path + escapedSize reason := by
  have kind : escapedSize (ApplyError.invalidValue path reason).kind = 13 := by
    change escapedSize "invalid_value" = 13
    decide +kernel
  have words : escapedSize "Invalid value for " = 18 ∧ escapedSize ": " = 2 := by decide +kernel
  have message : (ApplyError.invalidValue path reason).message =
      s!"Invalid value for {path}: {reason}" := rfl
  rw [Response.length_payload_failed, kind, message]
  simp only [Json.escapedSize_append, Json.escapedSize_toString, words]
  omega

/-! ## The failure that reports a response as too long -/

/-- The length of the failure that reports a response of `length` bytes on `path` as longer than
`maximum`. -/
def rejectionLength (operation path : String) (length maximum : Nat) : Nat :=
  165 + escapedSize operation + escapedSize path + (Nat.toDigits 10 length).length +
    (Nat.toDigits 10 maximum).length

theorem message_rejected (operation path reason : String) :
    (ApplyError.rejected operation path reason).message =
      s!"Simulator rejected {operation} on {path}: {reason}" := rfl

theorem escapedSize_rejected (operation path : String) (length maximum : Nat) :
    escapedSize (ApplyError.rejected operation path
      s!"response of {length} bytes exceeds frame limit {maximum}").message =
      64 + escapedSize operation + escapedSize path + (Nat.toDigits 10 length).length +
        (Nat.toDigits 10 maximum).length := by
  have words : escapedSize "Simulator rejected " = 19 ∧ escapedSize " on " = 4 ∧
      escapedSize ": " = 2 ∧ escapedSize "response of " = 12 ∧
      escapedSize " bytes exceeds frame limit " = 27 := by decide +kernel
  rw [message_rejected]
  simp only [Json.escapedSize_append, Json.escapedSize_toString, Json.escapedSize_toString_nat,
    words]
  omega

/-- **The failure that reports a response as too long has just that length.** -/
theorem length_oversized (id : RequestId) (operation : Operation) (length maximum : Nat) :
    (Message.payload (Response.failed id (Dispatcher.oversized operation length maximum))).length =
      rejectionLength operation.name (operation.path?.getD "") length maximum := by
  have kind : escapedSize (Dispatcher.oversized operation length maximum).kind = 8 := by
    change escapedSize "rejected" = 8
    decide +kernel
  have message := escapedSize_rejected operation.name (operation.path?.getD "") length maximum
  rw [Response.length_payload_failed, kind, Dispatcher.oversized, message, rejectionLength]
  omega

end Cosimulation
