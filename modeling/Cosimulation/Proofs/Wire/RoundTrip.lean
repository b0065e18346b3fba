import Cosimulation.Proofs.Json.RoundTrip
import Cosimulation.Proofs.Text.RequestId
import Cosimulation.Proofs.Text.Utf8
import Cosimulation.Wire.Response
/-!
# Reading back messages

The bytes of any text that spells a value are read as the message that the value is read as
(`Message.decode_of_spells`).  So every response is read back from the bytes that it is written as
(`Response.decode_payload`), and no two responses are written alike.
-/

namespace Cosimulation

set_option autoImplicit false

open Json (Plain)

/-- Whatever text spells a value, its bytes are read as the message that the value is read as. -/
theorem Message.decode_of_spells {α : Type} [Message α] {json : Json String} {text : List Char}
    (spells : Json.SpellsValue json text) {message : α}
    (read : ofJson? (Json.raw json) = some message) : decode (Utf8.encode text) = .ok message := by
  rw [decode, Utf8.symbols_encode, Json.parse?_of_spells spells]
  dsimp only
  rw [read]

/-- Bytes are malformed if their text spells a value that is read as no message. -/
theorem Message.decode_of_unread {α : Type} [Message α] {json : Json String} {text : List Char}
    (spells : Json.SpellsValue json text) (unread : (ofJson? (Json.raw json) : Option α) = none) :
    ∃ reason, (decode (Utf8.encode text) : Except ProtocolError α) = .error (.malformed reason) := by
  refine ⟨"the payload is not a message of the expected kind", ?_⟩
  rw [decode, Utf8.symbols_encode, Json.parse?_of_spells spells]
  dsimp only
  rw [unread]

/-- A message that is written as a plain value and read as itself is read back from its bytes. -/
theorem Message.decode_payload {α : Type} [Message α] {message : α} {room : Nat}
    (plain : Plain room (toJson message)) (read : ofJson? (Json.raw (toJson message)) = some message) :
    decode (payload message) = .ok message :=
  decode_of_spells plain.spells read

/-! ## Plain members -/

namespace Json

@[simp] theorem plain_string (room : Nat) (text : String) : Plain room (.string text) :=
  .string text

@[simp] theorem plain_natural (room : Nat) (word : UInt64) : Plain room (.natural word.toNat) :=
  .natural word.toNat_lt

@[simp] theorem plain_object {room : Nat} {members : List (String × Json String)} :
    Plain (room + 1) (.object members) ↔ ∀ member ∈ members, Plain room member.2 := by
  constructor
  · intro plain
    cases plain with
    | object all => exact all
  · exact .object

/-- A natural number that fits 64 bits is read as a word. -/
@[simp] theorem word?_natural {Text : Type} (word : UInt64) :
    (natural word.toNat : Json Text).word? = some word := by
  simp [word?, natural, word.toNat_lt]

@[simp] theorem word?_string {Text : Type} (text : Text) : (string text).word? = none := rfl

end Json

/-! ## Values -/

@[simp] theorem SignalValue.plain_toJson (value : SignalValue) (room : Nat) :
    Plain (room + 1) (Message.toJson value) := by
  cases value <;> simp [Message.toJson]

/-- A signal value that is held is read as itself. -/
@[simp] theorem SignalValue.ofJson?_toJson (value : SignalValue) (room : Nat) :
    SignalValue.ofJson? room (Message.toJson value) = some value := by
  cases value <;>
    simp [SignalValue.ofJson?, Message.toJson, Json.paired?, Json.members?, Json.required?,
      Json.optional?, Json.given, Json.variant?, Json.string?, Json.Reading.text?, ofType?]

@[simp] theorem RequestId.plain_toJson (id : RequestId) (room : Nat) :
    Plain room (Message.toJson id) :=
  .string id.display

/-- The members of an object are held with the request id that is among them. -/
theorem RequestId.ofMembers?_raw {id : RequestId} {members : List (String × Json String)}
    (holdable : Json.Holdable Json.maximalDepth (.object members))
    (found : Json.required? "request_id" members = some (Message.toJson id)) :
    RequestId.ofMembers? (Json.raw (.object members)) = some (id, .object members) := by
  have read : RequestId.ofJson? (Message.toJson id) = some id := by
    simp [RequestId.ofJson?, Message.toJson, Json.string?, Json.Reading.text?, RequestId.display]
  simp [RequestId.ofMembers?, Json.hold?_raw holdable, found, read]

/-! ## Responses -/

namespace Response

/-- The members that a response is written as. -/
def members (response : Response) : List (String × Json String) :=
  ("request_id", Message.toJson response.requestId) :: response.status.members

theorem plain_reply (reply : Reply) (room : Nat) :
    Plain (room + 2) (.object reply.members) := by
  cases reply <;> simp [Reply.members]

theorem plain_members (response : Response) :
    Plain Json.maximalDepth (.object response.members) := by
  obtain ⟨id, reply | ⟨kind, message⟩⟩ := response
  · have plain : Plain 126 (Message.toJson reply) := plain_reply reply 124
    simp [members, Status.members, Json.maximalDepth, plain]
  · simp [members, Status.members, Json.maximalDepth]

/-- A reply that is held is read as itself. -/
theorem ofJson?_reply (reply : Reply) :
    Reply.ofJson? (Json.object reply.members) = some reply := by
  cases reply <;> simp [Reply.members, Reply.ofJson?, Json.tagged?, Reply.kinds, Json.members?,
    Json.required?, Json.given, Json.choice?, Json.string?, Json.Reading.text?,
    Json.Reading.ordinal?, Json.Reading.hold?, Reply.ofRecord?, Json.fields?]

/-- The request id of a response is found among its members. -/
theorem required?_members (response : Response) :
    Json.required? "request_id" response.members = some (Message.toJson response.requestId) := by
  obtain ⟨id, reply | ⟨kind, message⟩⟩ := response <;>
    simp [members, Status.members, Json.required?, Json.given]

/-- The status of a response is read off its members. -/
theorem ofJson?_members (response : Response) :
    Status.ofJson? (Json.object response.members) = some response.status := by
  obtain ⟨id, reply | ⟨kind, message⟩⟩ := response
  · have read : Reply.ofJson? (Message.toJson reply) = some reply := ofJson?_reply reply
    simp [members, Status.members, Status.ofJson?, Json.tagged?, Json.members?, Json.required?,
      Json.given, Json.choice?, Json.string?, Json.Reading.text?, Json.Reading.ordinal?,
      Json.Reading.hold?, Status.ofRecord?, Json.fields?, read]
  · simp [members, Status.members, Status.ofJson?, Json.tagged?, Json.members?, Json.required?,
      Json.given, Json.choice?, Json.string?, Json.Reading.text?, Json.Reading.ordinal?,
      Json.Reading.hold?, Status.ofRecord?, Json.fields?]

/-- **A response is read back from the bytes that it is written as.** -/
@[simp] theorem decode_payload (response : Response) :
    Message.decode (Message.payload response) = .ok response := by
  refine Message.decode_payload response.plain_members ?_
  have held := RequestId.ofMembers?_raw response.plain_members.holdable response.required?_members
  have read := response.ofJson?_members
  change Message.ofJson? (Json.raw (.object response.members)) = some response
  simp [Message.ofJson?, held, read]

/-- Responses that are written alike are the same. -/
theorem payload_injective {first second : Response}
    (same : Message.payload first = Message.payload second) : first = second := by
  have read := first.decode_payload
  rw [same, second.decode_payload] at read
  cases read
  rfl

end Response

end Cosimulation
