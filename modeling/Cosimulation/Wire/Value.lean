import Cosimulation.Wire.Message
import Cosimulation.Invocation
import Cosimulation.RequestId
import Cosimulation.SignalValue
/-!
# Values on the wire

Request ids, signal values and invocations as JSON values.  A signal value is a record of its type
and its value.
-/

namespace Cosimulation

set_option autoImplicit false

variable {Text : Type} [Json.Reading Text]

/-- The request id that a value is read as. -/
def RequestId.ofJson? (json : Json Text) : Option RequestId :=
  json.string?.bind fun text => RequestId.parse? text.toList

instance : Message RequestId where
  toJson id := .string id.display
  ofJson? := RequestId.ofJson?

/-- The members of an object, which are held, with the request id among them. -/
def RequestId.ofMembers? (json : Json.Raw) : Option (RequestId × Json String) :=
  match json.hold? Json.maximalDepth with
  | some (.object members) => do
    let id ← (Json.required? "request_id" members).bind RequestId.ofJson?
    return (id, .object members)
  | _ => none

namespace SignalValue

/-- The types of signal values, in the order of their numbers. -/
def types : List String := ["int", "bits"]

/-- The signal value of a type that a value is read as. -/
def ofType? (type : String) (value : Json Text) : Option SignalValue :=
  match type with
  | "int" => value.word?.map .int
  | "bits" => value.string?.map .bits
  | _ => none

/-- The signal value that a value is read as. -/
def ofJson? (room : Nat) (json : Json Text) : Option SignalValue :=
  match json.paired? types "type" "value" room with
  | some (type, .inPlace value) => ofType? type value
  | some (type, .held value) => ofType? type value
  | _ => none

end SignalValue

instance : Message SignalValue where
  toJson
    | .int value => .object [("type", .string "int"), ("value", .natural value.toNat)]
    | .bits digits => .object [("type", .string "bits"), ("value", .string digits)]
  ofJson? := SignalValue.ofJson? Json.maximalDepth

instance : Message Invocation where
  toJson invocation := .object [("args", .array (invocation.elements.map .string))]
  ofJson? json :=
    match json.fields? ["args"] with
    | some [elements] => elements.strings?.map Invocation.mk
    | _ => none

end Cosimulation
