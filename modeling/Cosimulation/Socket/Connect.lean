import Cosimulation.Connection
/-!
# Connecting to the controller

The bridge connects to the socket whose path the simulator was launched with.  Connecting is tried
once.  A path that is missing or empty is a matter of configuration; that nobody listens, that
access is refused, and any other fault are matters of the connection.
-/

namespace Cosimulation

set_option autoImplicit false

/-- Why the bridge could not connect. -/
inductive ConnectError where
  | missingPath (option : String)
  | noListener (path : String) (fault : Fault)
  | permissionDenied (path : String)
  | io (path : String) (fault : Fault)
  deriving DecidableEq, Repr

namespace ConnectError

/-- The wording of a connect error. -/
def message : ConnectError → String
  | .missingPath _ => "no socket path supplied"
  | .noListener path fault => s!"no controller listening at {path}: {fault.message}"
  | .permissionDenied path => s!"permission denied for {path}"
  | .io path fault => s!"connecting to {path} failed: {fault.message}"

/-- The error that the bridge reports. -/
def toError : ConnectError → Error
  | .missingPath option => .configuration (.missingOption option)
  | .noListener path fault => .connection (.noListener path fault.message)
  | .permissionDenied path => .connection (.permissionDenied path)
  | .io path fault => .connection (.connectFailed s!"{path}: {fault.message}")

/-- The error that a fault of the socket at a path amounts to. -/
def ofFault (path : String) (fault : Fault) : ConnectError :=
  match fault.kind with
  | .notFound => .noListener path fault
  | .connectionRefused => .noListener path fault
  | .permissionDenied => .permissionDenied path
  | _ => .io path fault

end ConnectError

/-- What a host offers for reaching sockets. -/
class Network (σ : Type) where
  /-- Connects to the socket at a path. -/
  dial : σ → String → Except Fault Channel × σ

/-- Connects to the controller at the path that an option gave. -/
def Connection.establish {σ : Type} [Network σ] (host : σ) (path : Option String) (option : String)
    (limit : Nat) : Except ConnectError Connection × σ :=
  match path with
  | none => (.error (.missingPath option), host)
  | some path =>
    if path.isEmpty then (.error (.missingPath option), host)
    else
      match Network.dial host path with
      | (.error fault, host) => (.error (.ofFault path fault), host)
      | (.ok channel, host) => (.ok (.ofChannel channel path limit), host)

end Cosimulation
