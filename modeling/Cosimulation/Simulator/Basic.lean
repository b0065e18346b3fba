import Cosimulation.Invocation
import Cosimulation.SignalValue
/-!
# What a simulator offers

The bridge reaches the simulation through eight calls.  Every call is a function of the simulator's
state; the calls that only look are allowed to change it too, since a simulator may keep account of
being looked at.
-/

namespace Cosimulation

set_option autoImplicit false

/-- What a simulator knows an object by during a run. -/
abbrev ObjectReference := Nat

/-- How a value is written. -/
inductive WriteMode where
  /-- Once; the design may overwrite it. -/
  | deposit
  /-- Until it is released. -/
  | force
  deriving DecidableEq, Repr

/-- The time that lies `ticks` after another one; time stands still at its largest value. -/
def timeAfter (time ticks : UInt64) : UInt64 :=
  if time.toNat + ticks.toNat < UInt64.size then time + ticks
  else UInt64.ofNat (UInt64.size - 1)

/-- What a simulator offers to the bridge. -/
class Simulator (σ : Type) where
  /-- The command line that the simulator was launched with. -/
  invocation : σ → Invocation × σ
  /-- Finds the object of a path. -/
  lookup : σ → String → Except ApplyError ObjectReference × σ
  /-- The current value of an object. -/
  read : σ → ObjectReference → String → Except ApplyError SignalValue × σ
  /-- Writes a value to an object. -/
  write : σ → ObjectReference → String → SignalValue → WriteMode → Except ApplyError Unit × σ
  /-- Ends a force and gives the value that the object settles to. -/
  release : σ → ObjectReference → String → Except ApplyError SignalValue × σ
  /-- The current simulation time. -/
  time : σ → UInt64 × σ
  /-- Prints one line. -/
  print : σ → String → σ
  /-- Ends the run. -/
  finish : σ → σ

end Cosimulation
