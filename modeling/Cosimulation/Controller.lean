import Cosimulation.Socket.Directory
import Cosimulation.Connection
import Cosimulation.Wire.Command
import Cosimulation.Wire.Response
/-!
# The controller's end

The controller owns the socket file: it binds a listener, hands its path to the simulator and accepts
the bridge's connection.  From then on it sends commands and receives responses.  A call is one
command and the response to it: a response under another request id is refused.

The request ids are given from outside, so that the controller itself is a function of what it is
told and of what arrives.
-/

namespace Cosimulation

set_option autoImplicit false

/-! ## Listening -/

/-- A listener, bound to a path. -/
structure Listener where
  path : String
  deriving DecidableEq, Repr

namespace Listener

/-- Binds a listener at a path, in place of the file or socket that is there.  The channel is what
the first connection will get. -/
def bind (directory : Directory) (path : String) (channel : Channel) :
    Except ConnectionError (Listener × Directory) :=
  match directory.clear path with
  | .error fault => .error (.connectFailed s!"{path}: {fault.message}")
  | .ok directory =>
    match directory.bind path channel with
    | .error fault => .error (.connectFailed s!"bind {path}: {fault.message}")
    | .ok directory => .ok (⟨path⟩, directory)

/-- The argument that leads a simulator to the listener. -/
def plusArgument (listener : Listener) : String :=
  s!"+socket+{listener.path}"

/-- Removes the socket file of a listener that is no longer needed. -/
def release (listener : Listener) (directory : Directory) : Directory :=
  match directory.unlink listener.path with
  | .ok directory => directory
  | .error _ => directory

end Listener

/-! ## Driving the simulation -/

/-- A controller with its connection to the bridge. -/
structure Controller where
  connection : Connection
  deriving DecidableEq, Repr

namespace Controller

/-- The controller that a listener gets from a connection to it. -/
def accept (listener : Listener) (channel : Channel) : Controller :=
  ⟨.ofChannel channel listener.path Frame.defaultLimit⟩

/-- Writes bytes, framed or not. -/
def sendRaw (controller : Controller) (bytes : List UInt8) :
    Except ConnectionError Unit × Controller :=
  match controller.connection.writeFrame bytes with
  | (result, connection) => (result, ⟨connection⟩)

/-- Sends an operation as a command under a request id. -/
def send (controller : Controller) (id : RequestId) (operation : Operation) :
    Except Error Unit × Controller :=
  match Frame.ofMessage Frame.defaultLimit (Command.mk id operation) with
  | .error error => (.error (.protocol error), controller)
  | .ok frame =>
    match controller.sendRaw frame with
    | (.error error, controller) => (.error (.connection error), controller)
    | (.ok (), controller) => (.ok (), controller)

/-- Receives the next response, if the bridge has not hung up. -/
def receive (controller : Controller) : Except Error (Option Response) × Controller :=
  match controller.connection.readFrame with
  | (.error error, connection) => (.error error, ⟨connection⟩)
  | (.ok none, connection) => (.ok none, ⟨connection⟩)
  | (.ok (some payload), connection) =>
    match Message.decode payload with
    | .error error => (.error (.protocol error), ⟨connection⟩)
    | .ok response => (.ok (some response), ⟨connection⟩)

/-- The wording for a response that answers another command. -/
def crossed (found awaited : RequestId) : String :=
  s!"response for {found.display} while waiting for {awaited.display}"

/-- Sends a command and waits for its response. -/
def call (controller : Controller) (id : RequestId) (operation : Operation) :
    Except Error Response × Controller :=
  match controller.send id operation with
  | (.error error, controller) => (.error error, controller)
  | (.ok (), controller) =>
    match controller.receive with
    | (.error error, controller) => (.error error, controller)
    | (.ok none, controller) => (.error (.connection .closed), controller)
    | (.ok (some response), controller) =>
      if response.requestId = id then (.ok response, controller)
      else (.error (.protocol (.malformed (crossed response.requestId id))), controller)

/-- Closes the connection. -/
def close (controller : Controller) : Controller :=
  ⟨controller.connection.close⟩

end Controller

end Cosimulation
