/-!
# The invocation

A simulator hands on the command line it was launched with.  An option has two spellings there:
`-name value` in two elements, and `+name+value` or `+name=value` in one.  The first element that is
either spelling of the option decides, so an option cannot be overridden by a later element.
-/

namespace Cosimulation

set_option autoImplicit false

/-- The command line that the simulator was launched with. -/
structure Invocation where
  elements : List String
  deriving DecidableEq, Repr

namespace Invocation

/-- What follows `start` at the front of a text. -/
def rest? (start text : List Char) : Option (List Char) :=
  if start.isPrefixOf text then some (text.drop start.length) else none

/-- The value in an element of the form `+name+value` or `+name=value`. -/
def plusValue? (name element : String) : Option String :=
  match element.toList with
  | '+' :: text =>
    match rest? name.toList text with
    | some (separator :: value) =>
      if separator = '+' ∨ separator = '=' then some (String.ofList value) else none
    | _ => none
  | _ => none

/-- Whether an element is `-name`. -/
def isMinus (name element : String) : Bool :=
  element.toList = '-' :: name.toList

/-- The value of an option among the given elements.  A `-name` at the very end has no value. -/
def resolveIn (name : String) : List String → Option String
  | [] => none
  | element :: rest =>
    if isMinus name element then rest.head?
    else
      match plusValue? name element with
      | some value => some value
      | none => resolveIn name rest

/-- The value of an option. -/
def resolve (invocation : Invocation) (name : String) : Option String :=
  resolveIn name invocation.elements

/-- Whether a switch is given, as `+name` or `-name`. -/
def flag (invocation : Invocation) (name : String) : Bool :=
  invocation.elements.any fun element =>
    element.toList = '+' :: name.toList || element.toList = '-' :: name.toList

end Invocation

end Cosimulation
