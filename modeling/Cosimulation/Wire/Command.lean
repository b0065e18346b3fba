import Cosimulation.Wire.Value
import Cosimulation.Command
/-!
# Commands on the wire

An operation is a record of its name, which stands under `op`, and, where it has fields, the object
of these, which stands under `payload`.  A command is the same object with the request id in front.
Its members belong to two parts of it, so they are held.
-/

namespace Cosimulation

set_option autoImplicit false

namespace Operation

/-- The fields of an operation, if it has any. -/
def payload : Operation → List (String × Json String)
  | .ping => []
  | .lookup path => [("path", .string path)]
  | .read path => [("path", .string path)]
  | .write path value => [("path", .string path), ("value", Message.toJson value)]
  | .force path value => [("path", .string path), ("value", Message.toJson value)]
  | .release path => [("path", .string path)]
  | .time => []
  | .advance ticks => [("ticks", .natural ticks.toNat)]
  | .print message => [("message", .string message)]
  | .finish => []

/-- The members that an operation is written as. -/
def members (operation : Operation) : List (String × Json String) :=
  ("op", .string operation.name) ::
    if operation.payload = [] then [] else [("payload", .object operation.payload)]

/-- The names of the operations, in the order of their numbers. -/
def names : List String :=
  ["ping", "lookup", "read", "write", "force", "release", "time", "advance", "print", "finish"]

variable {Text : Type} [Json.Reading Text]

/-- The operation of a name with one text as its only field. -/
def ofText? (field : String) (make : String → Operation)
    (members : List (String × Json Text)) : Option Operation :=
  ((Json.required? field members).bind Json.string?).map make

/-- The operation of a name with a path and a value, which has the given room. -/
def ofAssignment? (room : Nat) (make : String → SignalValue → Operation)
    (members : List (String × Json Text)) : Option Operation := do
  let path ← (Json.required? "path" members).bind Json.string?
  let value ← (Json.required? "value" members).bind (SignalValue.ofJson? room)
  return make path value

/-- The operation of a name with a number of ticks. -/
def ofTicks? (make : UInt64 → Operation) (members : List (String × Json Text)) :
    Option Operation :=
  ((Json.required? "ticks" members).bind Json.word?).map make

omit [Json.Reading Text] in
/-- The operation of a name without fields: its payload is left out or null. -/
def ofNothing? (operation : Operation) : Option (Json Text) → Option Operation
  | none => some operation
  | some .null => some operation
  | some _ => none

/-- The operation of a name with fields: its payload is an object. -/
def ofObject? (read : List (String × Json Text) → Option Operation)
    (payload : Option (Json Text)) : Option Operation := do
  read (← (← payload).members?)

/-- The operation with a given name and payload.  The values in the payload have the given room. -/
def ofNamed? (room : Nat) (name : String) (payload : Option (Json Text)) : Option Operation :=
  match name with
  | "ping" => ofNothing? .ping payload
  | "lookup" => ofObject? (ofText? "path" .lookup) payload
  | "read" => ofObject? (ofText? "path" .read) payload
  | "write" => ofObject? (ofAssignment? room .write) payload
  | "force" => ofObject? (ofAssignment? room .force) payload
  | "release" => ofObject? (ofText? "path" .release) payload
  | "time" => ofNothing? .time payload
  | "advance" => ofObject? (ofTicks? .advance) payload
  | "print" => ofObject? (ofText? "message" .print) payload
  | "finish" => ofNothing? .finish payload
  | _ => none

/-- The operation that a value is read as. -/
def ofJson? (room : Nat) (json : Json Text) : Option Operation :=
  match json.paired? names "op" "payload" room with
  | some (name, .absent) => ofNamed? (room - 2) name (none : Option (Json Text))
  | some (name, .inPlace payload) => ofNamed? (room - 2) name (some payload)
  | some (name, .held payload) => ofNamed? (room - 2) name (some payload)
  | none => none

end Operation

instance : Message Operation where
  toJson operation := .object operation.members
  ofJson? := Operation.ofJson? Json.maximalDepth

instance : Message Command where
  toJson command :=
    .object (("request_id", Message.toJson command.requestId) :: command.operation.members)
  ofJson? json := do
    let (id, rest) ← RequestId.ofMembers? json
    return ⟨id, ← Operation.ofJson? Json.maximalDepth rest⟩

end Cosimulation
