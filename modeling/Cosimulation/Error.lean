import Cosimulation.Text.Hex
/-!
# What can go wrong

Errors are causes, in four families.  Each family has one function for its wording.  A fault in the
configuration, on the connection or in the protocol ends the session; a command that could not be
applied is only reported back to the controller, which is why `Error.isRecoverable` singles it out.
-/

namespace Cosimulation

set_option autoImplicit false

/-- What is wrong with the configuration or with a registration. -/
inductive ConfigurationError where
  | missingOption (option : String)
  | invalidOption (option value reason : String)
  | registrationRejected (trigger : String)
  deriving DecidableEq, Repr

/-- What went wrong on the channel between controller and bridge. -/
inductive ConnectionError where
  | noListener (path message : String)
  | permissionDenied (path : String)
  | connectFailed (message : String)
  | readFailed (message : String)
  | writeFailed (message : String)
  | closed
  deriving DecidableEq, Repr

/-- What is wrong with a frame or with the message in it. -/
inductive ProtocolError where
  | unsupportedVersion (found expected : UInt8)
  | frameTooLarge (length maximum : Nat)
  /-- The stream ended inside the section of that name. -/
  | truncated (inside : String)
  | checksumMismatch (stored computed : UInt32)
  | malformed (message : String)
  | serializationFailed (message : String)
  deriving DecidableEq, Repr

/-- Why a command could not be applied to the simulation. -/
inductive ApplyError where
  | unknownObject (path : String)
  | invalidValue (path reason : String)
  | rejected (operation path reason : String)
  deriving DecidableEq, Repr

/-- An error of any family. -/
inductive Error where
  | configuration (error : ConfigurationError)
  | connection (error : ConnectionError)
  | protocol (error : ProtocolError)
  | apply (error : ApplyError)
  deriving DecidableEq, Repr

/-! ## Wording -/

/-- The wording of a configuration error. -/
def ConfigurationError.message : ConfigurationError → String
  | .missingOption option =>
    s!"Required option '{option}' was not supplied (use -{option} <value> or +{option}+<value>)"
  | .invalidOption option value reason => s!"Option '{option}' has invalid value '{value}': {reason}"
  | .registrationRejected trigger => s!"Simulator rejected callback registration for {trigger}"

/-- The wording of a connection error. -/
def ConnectionError.message : ConnectionError → String
  | .noListener path message => s!"No controller listening at {path}: {message}"
  | .permissionDenied path => s!"Permission denied connecting to {path}"
  | .connectFailed message => s!"Connection failed: {message}"
  | .readFailed message => s!"Read from controller failed: {message}"
  | .writeFailed message => s!"Write to controller failed: {message}"
  | .closed => "Connection is closed"

/-- A checksum as eight hexadecimal digits. -/
def showChecksum (checksum : UInt32) : String :=
  String.ofList (Hex.digits 8 checksum.toNat)

/-- The wording of a protocol error. -/
def ProtocolError.message : ProtocolError → String
  | .unsupportedVersion found expected =>
    s!"Unsupported frame version: {found.toNat} (expected {expected.toNat})"
  | .frameTooLarge length maximum => s!"Frame size {length} exceeds maximum {maximum}"
  | .truncated inside => s!"Truncated frame: connection ended inside the {inside}"
  | .checksumMismatch stored computed =>
    s!"CRC mismatch: stored={showChecksum stored}, computed={showChecksum computed}"
  | .malformed message => s!"Malformed command: {message}"
  | .serializationFailed message => s!"Failed to serialize response: {message}"

/-- The wording of an apply error. -/
def ApplyError.message : ApplyError → String
  | .unknownObject path => s!"Object not found: {path}"
  | .invalidValue path reason => s!"Invalid value for {path}: {reason}"
  | .rejected operation path reason => s!"Simulator rejected {operation} on {path}: {reason}"

/-- The label of an apply error in a response. -/
def ApplyError.kind : ApplyError → String
  | .unknownObject _ => "unknown_object"
  | .invalidValue _ _ => "invalid_value"
  | .rejected _ _ _ => "rejected"

namespace Error

/-- The wording of an error, which begins with its family. -/
def message : Error → String
  | .configuration error => s!"Configuration error: {error.message}"
  | .connection error => s!"Connection error: {error.message}"
  | .protocol error => s!"Protocol error: {error.message}"
  | .apply error => s!"Apply error: {error.message}"

/-! ## Families -/

/-- Whether the configuration is at fault. -/
def isConfiguration : Error → Bool
  | .configuration _ => true
  | _ => false

/-- Whether the connection is at fault. -/
def isConnection : Error → Bool
  | .connection _ => true
  | _ => false

/-- Whether the protocol was violated. -/
def isProtocol : Error → Bool
  | .protocol _ => true
  | _ => false

/-- Whether the session goes on after the error. -/
def isRecoverable : Error → Bool
  | .apply _ => true
  | _ => false

/-- Whether the error ends the session. -/
def isFatal (error : Error) : Bool := !error.isRecoverable

end Error

end Cosimulation
