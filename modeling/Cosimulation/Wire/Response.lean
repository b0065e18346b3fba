import Cosimulation.Wire.Value
import Cosimulation.Response
/-!
# Responses on the wire

A reply is a record with its kind under `type`, a status one with its kind under `status`; a response
is the object of its status with the request id in front.  Its members belong to two parts of it, so
they are held.
-/

namespace Cosimulation

set_option autoImplicit false

namespace Reply

/-- The members that a reply is written as. -/
def members : Reply → List (String × Json String)
  | .ack => [("type", .string "ack")]
  | .pong clock => [("type", .string "pong"), ("time", .natural clock.toNat)]
  | .found path => [("type", .string "found"), ("path", .string path)]
  | .value path current =>
    [("type", .string "value"), ("path", .string path), ("value", Message.toJson current)]
  | .time clock => [("type", .string "time"), ("time", .natural clock.toNat)]

/-- The kinds of replies, in the order of their numbers. -/
def kinds : List String := ["ack", "pong", "found", "value", "time"]

/-- The reply of a kind with the fields found in a record. -/
def ofRecord? (kind : String) (record : Json String) : Option Reply :=
  match kind with
  | "ack" =>
    match record.fields? [] with
    | some [] => some .ack
    | _ => none
  | "pong" =>
    match record.fields? ["time"] with
    | some [clock] => clock.word?.map .pong
    | _ => none
  | "found" =>
    match record.fields? ["path"] with
    | some [path] => path.string?.map .found
    | _ => none
  | "value" =>
    match record.fields? ["path", "value"] with
    | some [path, current] => do
      return .value (← path.string?) (← SignalValue.ofJson? Json.maximalDepth current)
    | _ => none
  | "time" =>
    match record.fields? ["time"] with
    | some [clock] => clock.word?.map .time
    | _ => none
  | _ => none

/-- The reply that a value is read as. -/
def ofJson? {Text : Type} [Json.Reading Text] (json : Json Text) : Option Reply := do
  let (kind, record) ← json.tagged? kinds "type" Json.maximalDepth
  ofRecord? kind record

end Reply

instance : Message Reply where
  toJson reply := .object reply.members
  ofJson? := Reply.ofJson?

namespace Status

/-- The members that a status is written as. -/
def members : Status → List (String × Json String)
  | .ok reply => [("status", .string "ok"), ("result", Message.toJson reply)]
  | .error kind message =>
    [("status", .string "error"), ("kind", .string kind), ("message", .string message)]

/-- The kinds of a status, in the order of their numbers. -/
def kinds : List String := ["ok", "error"]

/-- The status of a kind with the fields found in a record. -/
def ofRecord? (kind : String) (record : Json String) : Option Status :=
  match kind with
  | "ok" =>
    match record.fields? ["result"] with
    | some [result] => (Reply.ofJson? result).map .ok
    | _ => none
  | "error" =>
    match record.fields? ["kind", "message"] with
    | some [kind, message] => do return .error (← kind.string?) (← message.string?)
    | _ => none
  | _ => none

/-- The status that a value is read as. -/
def ofJson? {Text : Type} [Json.Reading Text] (json : Json Text) : Option Status := do
  let (kind, record) ← json.tagged? kinds "status" Json.maximalDepth
  ofRecord? kind record

end Status

instance : Message Status where
  toJson status := .object status.members
  ofJson? := Status.ofJson?

instance : Message Response where
  toJson response :=
    .object (("request_id", Message.toJson response.requestId) :: response.status.members)
  ofJson? json := do
    let (id, rest) ← RequestId.ofMembers? json
    return ⟨id, ← Status.ofJson? rest⟩

end Cosimulation
