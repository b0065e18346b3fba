import Cosimulation.Json.Token
/-!
# Reading JSON

Reading is a walk over the tokens of a text with the containers that are still open kept on a
stack.  Each token takes one stage of reading to the next, and the text is a value exactly when the
walk ends in the stage `complete`.
-/

namespace Cosimulation.Json

set_option autoImplicit false

open Utf8 (Symbol)

/-- A container that is still open, with a value outstanding: an array behind the given items, or an
object behind the given members and the name that the value belongs to.  Items and members are kept
last one first. -/
inductive Enclosure where
  | array (reversed : List Raw)
  | object (reversed : List (Option String × Raw)) (name : Option String)

/-- How far reading has come.  `around` are the open containers, innermost first. -/
inductive Stage where
  /-- A value must follow. -/
  | awaitingValue (around : List Enclosure)
  /-- An array has just been opened: its first item or its end follows. -/
  | arrayOpened (around : List Enclosure)
  /-- An item has just ended. -/
  | itemEnded (reversed : List Raw) (around : List Enclosure)
  /-- An object has just been opened: its first name or its end follows. -/
  | objectOpened (around : List Enclosure)
  /-- A name must follow. -/
  | awaitingName (reversed : List (Option String × Raw)) (around : List Enclosure)
  /-- The colon behind a name must follow. -/
  | awaitingColon (name : Option String) (reversed : List (Option String × Raw))
      (around : List Enclosure)
  /-- A member has just ended. -/
  | memberEnded (reversed : List (Option String × Raw)) (around : List Enclosure)
  /-- The whole value has been read. -/
  | complete (value : Raw)

namespace Stage

/-- The stage behind a value that ends in the given surroundings. -/
def deliver (value : Raw) : List Enclosure → Stage
  | [] => .complete value
  | .array reversed :: around => .itemEnded (value :: reversed) around
  | .object reversed name :: around => .memberEnded ((name, value) :: reversed) around

/-- The stage behind a token with which a value begins. -/
def begin (around : List Enclosure) : Token → Option Stage
  | .null => some (deliver .null around)
  | .boolean value => some (deliver (.boolean value) around)
  | .number numeral => some (deliver (.number numeral) around)
  | .string text => some (deliver (.string text) around)
  | .openBracket => some (.arrayOpened around)
  | .openBrace => some (.objectOpened around)
  | _ => none

/-- The stage behind a token, if the token may stand there. -/
def step : Stage → Token → Option Stage
  | .awaitingValue around, token => begin around token
  | .arrayOpened around, .closeBracket => some (deliver (.array []) around)
  | .arrayOpened around, token => begin (.array [] :: around) token
  | .itemEnded reversed around, .comma => some (.awaitingValue (.array reversed :: around))
  | .itemEnded reversed around, .closeBracket => some (deliver (.array reversed.reverse) around)
  | .objectOpened around, .closeBrace => some (deliver (.object []) around)
  | .objectOpened around, .string name => some (.awaitingColon name [] around)
  | .awaitingName reversed around, .string name => some (.awaitingColon name reversed around)
  | .awaitingColon name reversed around, .colon => some (.awaitingValue (.object reversed name :: around))
  | .memberEnded reversed around, .comma => some (.awaitingName reversed around)
  | .memberEnded reversed around, .closeBrace => some (deliver (.object reversed.reverse) around)
  | _, _ => none

/-- Walks over the tokens of a text to its end. -/
def walk (stage : Stage) (text : List Symbol) : Option Stage :=
  match h : Token.next text with
  | .ended => some stage
  | .malformed => none
  | .token token rest =>
    have := Token.length_next h
    match stage.step token with
    | some next => walk next rest
    | none => none
termination_by text.length

/-- The value read, once reading has come to its end. -/
def result? : Stage → Option Raw
  | .complete value => some value
  | _ => none

end Stage

/-- The value that a text is written for. -/
def parse? (text : List Symbol) : Option Raw :=
  (Stage.walk (.awaitingValue []) text).bind Stage.result?

end Cosimulation.Json
