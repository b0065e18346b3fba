import Cosimulation.Json.Holding
/-!
# Records

Messages are read off values by a few readers that are shared by all of them.  Beside plain values
these are records, which come in three forms: a record of named fields (`fields?`), a record whose
kind stands among its fields (`tagged?`), and a record of a kind and a content (`paired?`).  Each may
be written as an object, whose further members are ignored while a repeated member of a known name is
refused, or as the array of its parts in their order.

Every reader works on values in place as well as on held ones.
-/

namespace Cosimulation.Json

set_option autoImplicit false

variable {Text : Type}

/-! ## Members -/

/-- The values given to a name, in the order in which they were written. -/
def given (name : String) (members : List (String × Json Text)) : List (Json Text) :=
  (members.filter fun (key, _) => key = name).map Prod.snd

/-- The value of a name that must be given exactly once. -/
def required? (name : String) (members : List (String × Json Text)) : Option (Json Text) :=
  match given name members with
  | [value] => some value
  | _ => none

/-- The value of a name that may be left out but not repeated. -/
def optional? (name : String) (members : List (String × Json Text)) :
    Option (Option (Json Text)) :=
  match given name members with
  | [] => some none
  | [value] => some (some value)
  | _ => none

variable [Reading Text]

/-! ## Plain values and fields -/

/-- The text of a string. -/
def string? : Json Text → Option String
  | .string text => Reading.text? text
  | _ => none

/-- The texts of an array of strings. -/
def strings? : Json Text → Option (List String)
  | .array items => items.mapM string?
  | _ => none

/-- The members of an object, all names of which must be texts. -/
def members? : Json Text → Option (List (String × Json Text))
  | .object members => members.mapM fun (name, value) => do return (← Reading.text? name, value)
  | _ => none

/-- The values of the named fields of a record. -/
def fields? (names : List String) : Json Text → Option (List (Json Text))
  | .array items => if items.length = names.length then some items else none
  | json => do
    let members ← json.members?
    names.mapM fun name => required? name members

/-! ## Kinds -/

/-- The kind that a value names, by its name or by its number. -/
def choice? (kinds : List String) (json : Json Text) : Option String :=
  match Reading.ordinal? json with
  | some position => kinds[position]?
  | none => json.string?

/-- The kind that a value names by its name alone or as the only member of an object, where it is
given nothing. -/
def variant? : Json Text → Option String
  | .object [(name, value)] => if Reading.isVoid value then Reading.text? name else none
  | json => json.string?

/-- The kind of a record whose kind stands among its fields under the name `tag`, and the record of
the other fields.  These are held until the kind is known. -/
def tagged? (kinds : List String) (tag : String) (room : Nat) :
    Json Text → Option (String × Json String)
  | .array (kind :: items) => do
    return (← kind.choice? kinds, ← Reading.hold? room (.array items))
  | json => do
    let kind ← required? tag (← json.members?)
    return (← kind.choice? kinds, ← Reading.hold? room json)

/-- What goes with a kind. -/
inductive Content (Text : Type) where
  /-- Nothing is given. -/
  | absent
  /-- A value is given behind the kind, which may be read where it stands. -/
  | inPlace (json : Json Text)
  /-- A value is given before the kind, which had to be held. -/
  | held (json : Json String)

/-- The kind of a record of two parts, which stands under the name `tag`, and its content, which
stands under the name `content`. -/
def paired? (kinds : List String) (tag content : String) (room : Nat) :
    Json Text → Option (String × Content Text)
  | .array [kind, value] => do return (← kind.choice? kinds, .inPlace value)
  | json => do
    let members ← json.members?
    let kind ← (← required? tag members).variant?
    match ← optional? content members with
    | none => return (kind, .absent)
    | some value =>
      if (members.map Prod.fst).find? (fun name => name = tag ∨ name = content) = some tag then
        return (kind, .inPlace value)
      else return (kind, .held (← Reading.hold? (room - 1) value))

end Cosimulation.Json
