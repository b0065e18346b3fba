import Cosimulation.Simulator.Basic
/-!
# A simulator in memory

A flat table of named signals, a clock, the lines printed so far and whether the run was ended.  A
signal keeps the value that the design drives apart from the value that it is forced to: a deposit
on a forced signal stays hidden until the force is released.
-/

namespace Cosimulation

set_option autoImplicit false

/-- A named signal. -/
structure Signal where
  path : String
  driven : SignalValue
  forced : Option SignalValue
  deriving DecidableEq, Repr

namespace Signal

/-- The value that a reader sees. -/
def current (signal : Signal) : SignalValue :=
  signal.forced.getD signal.driven

/-- Writes a value to a signal. -/
def write (signal : Signal) (value : SignalValue) : WriteMode → Signal
  | .deposit => { signal with driven := value }
  | .force => { signal with forced := some value }

/-- Ends a force. -/
def release (signal : Signal) : Signal :=
  { signal with forced := none }

end Signal

/-- A simulator in memory. -/
structure MemorySimulator where
  invocation : Invocation
  signals : List Signal
  time : UInt64
  output : List String
  finished : Bool
  deriving DecidableEq, Repr

namespace MemorySimulator

/-- The simulator that was launched with an invocation, before any signal is added. -/
def launch (invocation : Invocation) : MemorySimulator :=
  ⟨invocation, [], 0, [], false⟩

/-- The position of the signal of a path. -/
def indexOf? (simulator : MemorySimulator) (path : String) : Option Nat :=
  simulator.signals.findIdx? fun signal => signal.path = path

/-- The signal of a path. -/
def signal? (simulator : MemorySimulator) (path : String) : Option Signal :=
  (simulator.indexOf? path).bind fun index => simulator.signals[index]?

/-- Adds a signal, or drives the signal of that path anew and ends its force. -/
def setSignal (simulator : MemorySimulator) (path : String) (value : SignalValue) :
    MemorySimulator :=
  match simulator.indexOf? path with
  | some index =>
    { simulator with
      signals := simulator.signals.modify index fun signal =>
        { signal with driven := value, forced := none } }
  | none => { simulator with signals := simulator.signals ++ [⟨path, value, none⟩] }

/-- The current value of the signal of a path. -/
def value? (simulator : MemorySimulator) (path : String) : Option SignalValue :=
  (simulator.signal? path).map Signal.current

/-- Whether the signal of a path is forced. -/
def isForced (simulator : MemorySimulator) (path : String) : Bool :=
  (simulator.signal? path).any fun signal => signal.forced.isSome

/-- Lets simulation time pass. -/
def advance (simulator : MemorySimulator) (ticks : UInt64) : MemorySimulator :=
  { simulator with time := timeAfter simulator.time ticks }

/-! ## The calls of the bridge -/

/-- Finds the signal of a path. -/
def lookup (simulator : MemorySimulator) (path : String) :
    Except ApplyError ObjectReference × MemorySimulator :=
  match simulator.indexOf? path with
  | some index => (.ok index, simulator)
  | none => (.error (.unknownObject path), simulator)

/-- The signal that a reference stands for.  A reference is good only together with the path that
it was found by. -/
def referred (simulator : MemorySimulator) (reference : ObjectReference) (path : String) :
    Except ApplyError Signal :=
  match simulator.signals[reference]? with
  | some signal => if signal.path = path then .ok signal else .error (.unknownObject path)
  | none => .error (.unknownObject path)

/-- The current value of the signal that a reference stands for. -/
def read (simulator : MemorySimulator) (reference : ObjectReference) (path : String) :
    Except ApplyError SignalValue × MemorySimulator :=
  ((simulator.referred reference path).map Signal.current, simulator)

/-- Writes a value to the signal that a reference stands for. -/
def write (simulator : MemorySimulator) (reference : ObjectReference) (path : String)
    (value : SignalValue) (mode : WriteMode) : Except ApplyError Unit × MemorySimulator :=
  match simulator.referred reference path with
  | .error error => (.error error, simulator)
  | .ok signal =>
    (.ok (), { simulator with signals := simulator.signals.set reference (signal.write value mode) })

/-- Ends the force on the signal that a reference stands for. -/
def release (simulator : MemorySimulator) (reference : ObjectReference) (path : String) :
    Except ApplyError SignalValue × MemorySimulator :=
  match simulator.referred reference path with
  | .error error => (.error error, simulator)
  | .ok signal =>
    (.ok signal.driven, { simulator with signals := simulator.signals.set reference signal.release })

/-- Prints one line. -/
def print (simulator : MemorySimulator) (line : String) : MemorySimulator :=
  { simulator with output := simulator.output ++ [line] }

/-- Ends the run. -/
def finish (simulator : MemorySimulator) : MemorySimulator :=
  { simulator with finished := true }

end MemorySimulator

instance : Simulator MemorySimulator where
  invocation simulator := (simulator.invocation, simulator)
  lookup := MemorySimulator.lookup
  read := MemorySimulator.read
  write := MemorySimulator.write
  release := MemorySimulator.release
  time simulator := (simulator.time, simulator)
  print := MemorySimulator.print
  finish := MemorySimulator.finish

end Cosimulation
