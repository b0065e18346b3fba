import Cosimulation.Json.Parser
import Cosimulation.Json.Printer
import Cosimulation.Json.Record
import Cosimulation.Error
/-!
# Messages on the wire

A message is written as the UTF-8 bytes of a compact JSON text and read from the bytes of any JSON
text that spells it.  `Message` says, type by type, which value a message is written as and which
values are read as it; bytes, text and values are then the same for all of them.
-/

namespace Cosimulation

set_option autoImplicit false

/-- A type of messages. -/
class Message (α : Type) where
  /-- The value that a message is written as. -/
  toJson : α → Json String
  /-- The message that a value is read as. -/
  ofJson? : Json.Raw → Option α

namespace Message

variable {α : Type} [Message α]

/-- The text that a message is written as. -/
def text (message : α) : String :=
  String.ofList (Json.print (toJson message))

/-- The bytes that a message is written as. -/
def payload (message : α) : List UInt8 :=
  Utf8.encode (Json.print (toJson message))

/-- Reads a message from bytes; what cannot be read is malformed, and the wording says which of the
two layers refused it. -/
def decode (payload : List UInt8) : Except ProtocolError α :=
  match Json.parse? (Utf8.symbols payload) with
  | none => .error (.malformed "the payload is not a JSON text")
  | some json =>
    match ofJson? json with
    | none => .error (.malformed "the payload is not a message of the expected kind")
    | some message => .ok message

end Message

/-! ## Plain values -/

instance : Message String where
  toJson := .string
  ofJson? := Json.string?

instance : Message UInt64 where
  toJson value := .natural value.toNat
  ofJson? := Json.word?

end Cosimulation
