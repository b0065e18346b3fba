import Cosimulation.Bridge.Host
import Cosimulation.Vpi.Host
/-!
# The procedural interface as a simulator

`VpiSimulator` offers what the bridge needs on top of the calls of a `VpiHost`.  Handles are looked
up once per path and kept for the whole run.  After every call that reads or puts a value the host
is asked for an error, and any level but zero makes the command fail.

While the bridge is being called it is busy, and whatever the host calls in the meantime is skipped:
it does nothing and returns success.
-/

namespace Cosimulation

set_option autoImplicit false

/-- A simulator behind the procedural interface, with the handles found so far. -/
structure VpiSimulator where
  handles : List (String × Handle)
  host : VpiHost
  deriving DecidableEq, Repr

namespace VpiHost

/-- Whether a text can be handed over, its end being marked by a NUL. -/
def isPassable (text : String) : Bool :=
  !text.toList.contains '\x00'

/-- Skips the calls that arrive while the bridge is busy. -/
def skip (host : VpiHost) (reentries : List Reentry) : VpiHost :=
  reentries.foldl (fun host _ => host.note (.reentered 0)) host

/-- A line with its end, as it is printed. -/
def printed (line : String) : String :=
  String.ofList (line.toList.filter (· ≠ '\x00')) ++ "\n"

end VpiHost

namespace VpiSimulator

/-- A call of the host. -/
def call {α : Type} (simulator : VpiSimulator) (call : VpiHost → α × VpiHost) : α × VpiSimulator :=
  match call simulator.host with
  | (result, host) => (result, { simulator with host })

/-- The elements of the command line that are there. -/
def invocation (simulator : VpiSimulator) : Invocation × VpiSimulator :=
  simulator.call fun host =>
    match host.vlogInfo with
    | (elements, host) =>
      (⟨((elements.getD []).filterMap id).map terminatedText⟩, host)

/-- Asks the host for an error of the last call. -/
def check (simulator : VpiSimulator) (operation path : String) :
    Except ApplyError Unit × VpiSimulator :=
  match simulator.call VpiHost.checkError with
  | (level, simulator) =>
    if level = 0 then (.ok (), simulator)
    else
      (.error (.rejected operation path s!"simulator reported an error (level {level})"), simulator)

/-- The handle of a path: the one found before, or else the one that the host finds. -/
def lookup (simulator : VpiSimulator) (path : String) :
    Except ApplyError ObjectReference × VpiSimulator :=
  match simulator.handles.lookup path with
  | some handle => (.ok handle, simulator)
  | none =>
    if VpiHost.isPassable path then
      match simulator.call (·.handleByName path) with
      | (some handle, simulator) =>
        (.ok handle, { simulator with handles := (path, handle) :: simulator.handles })
      | (none, simulator) => (.error (.unknownObject path), simulator)
    else (.error (.unknownObject path), simulator)

/-- The value of an object. -/
def read (simulator : VpiSimulator) (handle : ObjectReference) (path : String) :
    Except ApplyError SignalValue × VpiSimulator :=
  match simulator.call (·.getValue handle) with
  | (value, simulator) =>
    match simulator.check "read" path with
    | (.error error, simulator) => (.error error, simulator)
    | (.ok (), simulator) =>
      match value.digits? with
      | some digits => (.ok (.bits digits), simulator)
      | none => (.error (.rejected "read" path "object has no binary value"), simulator)

/-- Puts a row of digits on an object. -/
def put (simulator : VpiSimulator) (handle : ObjectReference) (path digits : String) (flag : Nat)
    (operation : String) : Except ApplyError Unit × VpiSimulator :=
  if VpiHost.isPassable digits then
    { simulator with
      host := simulator.host.putDigits handle (Utf8.encode digits.toList) flag }.check operation path
  else (.error (.invalidValue path "bit string contains a NUL byte"), simulator)

/-- Writes a value to an object. -/
def write (simulator : VpiSimulator) (handle : ObjectReference) (path : String)
    (value : SignalValue) : WriteMode → Except ApplyError Unit × VpiSimulator
  | .deposit => simulator.put handle path (value.toBits 1) Vpi.noDelay "write"
  | .force => simulator.put handle path (value.toBits 1) Vpi.forceFlag "force"

/-- Ends the force on an object.  A host that does not give the value that the object settles to is
asked for it. -/
def release (simulator : VpiSimulator) (handle : ObjectReference) (path : String) :
    Except ApplyError SignalValue × VpiSimulator :=
  match simulator.call (·.putRelease handle) with
  | (value, simulator) =>
    match simulator.check "release" path with
    | (.error error, simulator) => (.error error, simulator)
    | (.ok (), simulator) =>
      match value.digits? with
      | some digits => (.ok (.bits digits), simulator)
      | none => simulator.read handle path

/-- The current simulation time. -/
def time (simulator : VpiSimulator) : UInt64 × VpiSimulator :=
  match simulator.call VpiHost.getTime with
  | (now, simulator) => (now.ticks, simulator)

/-- Prints one line. -/
def print (simulator : VpiSimulator) (line : String) : VpiSimulator :=
  let host := simulator.host.printf (VpiHost.printed line)
  { simulator with host := { host with duringPrint := [] }.skip host.duringPrint }

/-- Ends the run. -/
def finish (simulator : VpiSimulator) : VpiSimulator :=
  let host := simulator.host.control
  { simulator with host := { host with duringFinish := [] }.skip host.duringFinish }

end VpiSimulator

instance : Simulator VpiSimulator where
  invocation := VpiSimulator.invocation
  lookup := VpiSimulator.lookup
  read := VpiSimulator.read
  write := VpiSimulator.write
  release := VpiSimulator.release
  time := VpiSimulator.time
  print := VpiSimulator.print
  finish := VpiSimulator.finish

end Cosimulation
