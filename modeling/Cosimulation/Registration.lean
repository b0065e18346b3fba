import Cosimulation.Error
/-!
# Registrations

The bridge asks the simulator to be called back: at the start and the end of the simulation, when
the design calls a system task, or when a delay has elapsed.  What the simulator accepted is entered
in a ledger, delays excepted: a delay fires once and is then done with, so it leaves no trace.
-/

namespace Cosimulation

set_option autoImplicit false

/-- When the simulator calls back. -/
inductive Trigger where
  | startOfSimulation
  | endOfSimulation
  | systemTask (name : String)
  | afterDelay (ticks : UInt64)
  deriving DecidableEq, Repr

namespace Trigger

/-- The wording of a trigger. -/
def display : Trigger → String
  | .startOfSimulation => "start-of-simulation"
  | .endOfSimulation => "end-of-simulation"
  | .systemTask name => s!"system task {name}"
  | .afterDelay ticks => s!"delay of {ticks.toNat} ticks"

/-- Whether a trigger is a delay. -/
def isDelay : Trigger → Bool
  | .afterDelay _ => true
  | _ => false

end Trigger

/-- What the simulator calls. -/
inductive EntryPoint where
  /-- Connect and serve the first command. -/
  | startup
  /-- Release the connection. -/
  | shutdown
  /-- Serve a command. -/
  | service
  /-- Answer the advance whose delay has elapsed, and serve a command. -/
  | resume
  deriving DecidableEq, Repr

/-- A trigger bound to an entry point. -/
structure Registration where
  trigger : Trigger
  entry : EntryPoint
  deriving DecidableEq, Repr

/-- What a simulator offers for being called back. -/
class Scheduler (σ : Type) where
  /-- Hands a registration to the simulator, which may reject it. -/
  register : σ → Registration → Except ConfigurationError Unit × σ

/-! ## The ledger -/

/-- The lasting registrations that were accepted, in their order. -/
structure Ledger where
  registrations : List Registration
  deriving DecidableEq, Repr

namespace Ledger

/-- The ledger before any registration. -/
def empty : Ledger := ⟨[]⟩

/-- The ledger behind an accepted registration. -/
def enter (ledger : Ledger) (registration : Registration) : Ledger :=
  if registration.trigger.isDelay then ledger
  else ⟨ledger.registrations ++ [registration]⟩

/-- Binds an entry point to a trigger.  A rejection leaves the ledger alone. -/
def register {σ : Type} [Scheduler σ] (ledger : Ledger) (host : σ) (registration : Registration) :
    Except ConfigurationError Unit × Ledger × σ :=
  match Scheduler.register host registration with
  | (.error error, host) => (.error error, ledger, host)
  | (.ok (), host) => (.ok (), ledger.enter registration, host)

end Ledger

/-! ## A scheduler that only records -/

/-- A scheduler that records what it accepts, and rejects the triggers it was told to reject. -/
structure Recorder where
  log : List Registration
  rejected : List Trigger
  deriving DecidableEq, Repr

namespace Recorder

/-- The recorder before any registration. -/
def empty : Recorder := ⟨[], []⟩

/-- Rejects a trigger from now on. -/
def reject (recorder : Recorder) (trigger : Trigger) : Recorder :=
  { recorder with rejected := recorder.rejected ++ [trigger] }

/-- The delay of a registration and the entry point that it is for. -/
def delay? (registration : Registration) : Option (UInt64 × EntryPoint) :=
  match registration.trigger with
  | .afterDelay ticks => some (ticks, registration.entry)
  | _ => none

/-- Takes the recorded delays out of the log. -/
def takeDelays (recorder : Recorder) : List (UInt64 × EntryPoint) × Recorder :=
  (recorder.log.filterMap delay?,
    { recorder with log := recorder.log.filter fun registration => !registration.trigger.isDelay })

/-- Records a registration unless its trigger is rejected. -/
def register (recorder : Recorder) (registration : Registration) :
    Except ConfigurationError Unit × Recorder :=
  if registration.trigger ∈ recorder.rejected then
    (.error (.registrationRejected registration.trigger.display), recorder)
  else (.ok (), { recorder with log := recorder.log ++ [registration] })

end Recorder

instance : Scheduler Recorder := ⟨Recorder.register⟩

end Cosimulation
