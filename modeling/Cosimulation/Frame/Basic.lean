import Cosimulation.Checksum
import Cosimulation.Error
import Cosimulation.Wire.Message
/-!
# Frames

A frame is a payload that can be cut out of a stream again and checked: one byte of version, the
length of the payload in four bytes, the payload, and its checksum in four bytes.  Length and
checksum have their least significant byte first.  A payload is framed only if it is no longer than
the limit that both ends agree on, and short enough for its length to be expressed at all.
-/

namespace Cosimulation.Frame

set_option autoImplicit false

/-- The version of the frames written and understood. -/
def version : UInt8 := 1

/-- The number of payload bytes allowed unless configured otherwise. -/
def defaultLimit : Nat := 1024 * 1024

/-- The largest length that four bytes express. -/
def maximalLength : Nat := UInt32.size - 1

/-- The sections of a frame behind its version. -/
inductive Section where
  | length
  | payload
  | checksum
  deriving DecidableEq, Repr

/-- The name of a section. -/
def Section.name : Section → String
  | .length => "length"
  | .payload => "payload"
  | .checksum => "checksum"

/-- A word in four bytes, least significant byte first. -/
def littleEndian (word : UInt32) : List UInt8 :=
  [word.toUInt8, (word >>> 8).toUInt8, (word >>> 16).toUInt8, (word >>> 24).toUInt8]

/-- The word in a row of bytes, least significant byte first. -/
def ofLittleEndian : List UInt8 → UInt32
  | [] => 0
  | byte :: rest => byte.toUInt32 ||| (ofLittleEndian rest <<< 8)

/-- The frame around a payload. -/
def enclose (payload : List UInt8) : List UInt8 :=
  version :: littleEndian (UInt32.ofNat payload.length) ++ payload
    ++ littleEndian (Checksum.ofBytes payload)

/-- The frame around a payload that respects the limit. -/
def encode (limit : Nat) (payload : List UInt8) : Except ProtocolError (List UInt8) :=
  if limit < payload.length then .error (.frameTooLarge payload.length limit)
  else if maximalLength < payload.length then
    .error (.frameTooLarge payload.length maximalLength)
  else .ok (enclose payload)

/-- The frame around what a serializer produced; a serializer that failed produces no frame. -/
def ofSerialized (limit : Nat) : Except String (List UInt8) → Except ProtocolError (List UInt8)
  | .error message => .error (.serializationFailed message)
  | .ok payload => encode limit payload

/-- The frame around a message. -/
def ofMessage {α : Type} [Message α] (limit : Nat) (message : α) :
    Except ProtocolError (List UInt8) :=
  encode limit (Message.payload message)

end Cosimulation.Frame
