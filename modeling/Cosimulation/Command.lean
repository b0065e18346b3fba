import Cosimulation.RequestId
import Cosimulation.SignalValue
/-!
# Commands

The controller drives the simulation with ten operations.  A command is one operation under a
request id that the response will carry back.
-/

namespace Cosimulation

set_option autoImplicit false

/-- What the controller can ask for. -/
inductive Operation where
  /-- Is anybody there? -/
  | ping
  /-- Is there an object of that path? -/
  | lookup (path : String)
  /-- The current value of an object. -/
  | read (path : String)
  /-- Deposits a value. -/
  | write (path : String) (value : SignalValue)
  /-- Holds a value until it is released. -/
  | force (path : String) (value : SignalValue)
  /-- Ends a force. -/
  | release (path : String)
  /-- The current simulation time. -/
  | time
  /-- Lets simulation time pass. -/
  | advance (ticks : UInt64)
  /-- Prints a line in the simulator. -/
  | print (message : String)
  /-- Ends the run. -/
  | finish
  deriving DecidableEq, Repr

namespace Operation

/-- The name of an operation. -/
def name : Operation → String
  | .ping => "ping"
  | .lookup _ => "lookup"
  | .read _ => "read"
  | .write _ _ => "write"
  | .force _ _ => "force"
  | .release _ => "release"
  | .time => "time"
  | .advance _ => "advance"
  | .print _ => "print"
  | .finish => "finish"

/-- The path of the object that an operation is about. -/
def path? : Operation → Option String
  | .lookup path => some path
  | .read path => some path
  | .write path _ => some path
  | .force path _ => some path
  | .release path => some path
  | _ => none

end Operation

/-- An operation under a request id. -/
structure Command where
  requestId : RequestId
  operation : Operation
  deriving DecidableEq, Repr

end Cosimulation
