import Cosimulation.RequestId
import Cosimulation.SignalValue
/-!
# Responses

Every command is answered by one response: the reply of an operation that was applied, or the label
and the wording of the error that kept it from being applied.
-/

namespace Cosimulation

set_option autoImplicit false

/-- The reply of an operation that was applied. -/
inductive Reply where
  | ack
  | pong (time : UInt64)
  | found (path : String)
  | value (path : String) (value : SignalValue)
  | time (time : UInt64)
  deriving DecidableEq, Repr

/-- How a command went. -/
inductive Status where
  | ok (result : Reply)
  | error (kind message : String)
  deriving DecidableEq, Repr

/-- How the command under a request id went. -/
structure Response where
  requestId : RequestId
  status : Status
  deriving DecidableEq, Repr

namespace Response

/-- The response to a command that was applied. -/
def ok (id : RequestId) (reply : Reply) : Response := ⟨id, .ok reply⟩

/-- The response to a command that could not be applied. -/
def failed (id : RequestId) (error : ApplyError) : Response :=
  ⟨id, .error error.kind error.message⟩

/-- Whether the command was applied. -/
def isOk (response : Response) : Bool :=
  match response.status with
  | .ok _ => true
  | .error _ _ => false

/-- The reply, if the command was applied. -/
def reply? (response : Response) : Option Reply :=
  match response.status with
  | .ok reply => some reply
  | .error _ _ => none

end Response

end Cosimulation
