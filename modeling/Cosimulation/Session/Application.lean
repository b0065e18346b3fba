import Cosimulation.Command
import Cosimulation.Response
import Cosimulation.Simulator.Basic
/-!
# Applying operations

An operation either has its reply at once, or asks for something that only the session can bring
about: letting time pass, or ending the run.  A value is checked before the object of its path is
looked for, so of two things wrong with a write it is the value that is reported.
-/

namespace Cosimulation

set_option autoImplicit false

/-- What came of an operation that was applied. -/
inductive Applied where
  /-- The reply is ready. -/
  | reply (reply : Reply)
  /-- The reply is due after that much simulation time, which is not zero. -/
  | advance (ticks : UInt64)
  /-- The run is to end. -/
  | finish
  deriving DecidableEq, Repr

namespace Operation

variable {σ : Type} [Simulator σ]

/-- Looks for the object of a path and goes on with it. -/
def withObject {α : Type} (path : String) (simulator : σ)
    (next : ObjectReference → σ → Except ApplyError α × σ) : Except ApplyError α × σ :=
  match Simulator.lookup simulator path with
  | (.error error, simulator) => (.error error, simulator)
  | (.ok reference, simulator) => next reference simulator

/-- Writes a checked value to the object of a path. -/
def assign (path : String) (value : SignalValue) (mode : WriteMode) (simulator : σ) :
    Except ApplyError Applied × σ :=
  match value.validate path with
  | .error error => (.error error, simulator)
  | .ok () =>
    withObject path simulator fun reference simulator =>
      match Simulator.write simulator reference path value mode with
      | (.error error, simulator) => (.error error, simulator)
      | (.ok (), simulator) => (.ok (.reply .ack), simulator)

/-- The reply that carries the value of an object. -/
def valueReply (path : String) : Except ApplyError SignalValue × σ → Except ApplyError Applied × σ
  | (.error error, simulator) => (.error error, simulator)
  | (.ok value, simulator) => (.ok (.reply (.value path value)), simulator)

/-- The reply that carries the current time. -/
def timeReply (make : UInt64 → Reply) (simulator : σ) : Except ApplyError Applied × σ :=
  match Simulator.time simulator with
  | (now, simulator) => (.ok (.reply (make now)), simulator)

/-- Applies an operation to a simulator. -/
def apply (operation : Operation) (simulator : σ) : Except ApplyError Applied × σ :=
  match operation with
  | .ping => timeReply .pong simulator
  | .lookup path =>
    withObject path simulator fun _ simulator => (.ok (.reply (.found path)), simulator)
  | .read path =>
    withObject path simulator fun reference simulator =>
      valueReply path (Simulator.read simulator reference path)
  | .write path value => assign path value .deposit simulator
  | .force path value => assign path value .force simulator
  | .release path =>
    withObject path simulator fun reference simulator =>
      valueReply path (Simulator.release simulator reference path)
  | .time => timeReply .time simulator
  | .advance ticks =>
    if ticks = 0 then timeReply .time simulator else (.ok (.advance ticks), simulator)
  | .print message => (.ok (.reply .ack), Simulator.print simulator message)
  | .finish => (.ok .finish, simulator)

end Operation

end Cosimulation
