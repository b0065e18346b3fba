import Cosimulation.Error
/-!
# How a session goes on and ends

A session handles one command at a time.  Each turn has an outcome, and the last one gives the
reason for which the session was closed.
-/

namespace Cosimulation

set_option autoImplicit false

/-- Why a session was closed. -/
inductive CloseReason where
  /-- The controller closed the connection between two frames. -/
  | peerClosed
  /-- The controller asked for the end of the run. -/
  | finished
  /-- A frame or a command could not be understood, or a response not be framed. -/
  | protocol (message : String)
  /-- The connection failed. -/
  | connection (message : String)
  /-- The simulation ended while the connection was open. -/
  | shutdown
  deriving DecidableEq, Repr

namespace CloseReason

/-- The wording of a reason. -/
def display : CloseReason → String
  | .peerClosed => "controller closed the connection"
  | .finished => "controller finished the simulation"
  | .protocol message => s!"protocol error: {message}"
  | .connection message => s!"connection error: {message}"
  | .shutdown => "simulation ended"

/-- Whether the session was closed by an error. -/
def isError : CloseReason → Bool
  | .protocol _ => true
  | .connection _ => true
  | _ => false

/-- The reason for closing after a frame could not be read. -/
def ofReadError (error : Error) : CloseReason :=
  if error.isProtocol then .protocol error.message else .connection error.message

end CloseReason

/-- What one turn of a session did. -/
inductive Outcome where
  /-- A command was answered. -/
  | served
  /-- A command asked for that much simulation time; it is answered when the time has passed. -/
  | yielded (ticks : UInt64)
  /-- An earlier command still waits for its time to pass: nothing was done. -/
  | suspended
  /-- The session is closed. -/
  | closed (reason : CloseReason)
  deriving DecidableEq, Repr

end Cosimulation
