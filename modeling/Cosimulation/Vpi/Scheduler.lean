import Cosimulation.Vpi.Simulator
/-!
# Callbacks over the procedural interface

A callback carries the number of its entry point through the simulator and back.  The handle of a
callback would only serve to cancel it, which never happens, so it is let go of at once; a system
task stays for good and its handle is left alone.
-/

namespace Cosimulation

set_option autoImplicit false

namespace EntryPoint

/-- The number that an entry point is registered with. -/
def code : EntryPoint → Nat
  | .startup => 1
  | .shutdown => 2
  | .service => 3
  | .resume => 4

/-- The entry point of a number. -/
def ofCode? : Nat → Option EntryPoint
  | 1 => some .startup
  | 2 => some .shutdown
  | 3 => some .service
  | 4 => some .resume
  | _ => none

@[simp] theorem ofCode?_code (entry : EntryPoint) : ofCode? entry.code = some entry := by
  cases entry <;> rfl

end EntryPoint

namespace VpiHost

/-- Registers a callback and lets go of its handle. -/
def callBack (host : VpiHost) (reason : Nat) (delay : Option VpiTime) (entry : EntryPoint) :
    Bool × VpiHost :=
  match host.registerCallback reason delay entry.code with
  | (some handle, host) => (true, host.freeObject handle)
  | (none, host) => (false, host)

/-- Registers a system task, if its name can be handed over. -/
def declareTask (host : VpiHost) (name : String) : Bool × VpiHost :=
  if isPassable name then
    match host.registerTask name with
    | (handle, host) => (handle.isSome, host)
  else (false, host)

/-- Hands a registration to the host, and tells whether it was accepted. -/
def schedule (host : VpiHost) (registration : Registration) : Bool × VpiHost :=
  match registration.trigger with
  | .startOfSimulation => host.callBack Vpi.startOfSimulation none registration.entry
  | .endOfSimulation => host.callBack Vpi.endOfSimulation none registration.entry
  | .afterDelay ticks => host.callBack Vpi.afterDelay (some (.ofTicks ticks)) registration.entry
  | .systemTask name => host.declareTask name

end VpiHost

namespace VpiSimulator

/-- Hands a registration to the host. -/
def register (simulator : VpiSimulator) (registration : Registration) :
    Except ConfigurationError Unit × VpiSimulator :=
  match simulator.call (·.schedule registration) with
  | (true, simulator) => (.ok (), simulator)
  | (false, simulator) =>
    (.error (.registrationRejected registration.trigger.display), simulator)

end VpiSimulator

instance : Scheduler VpiSimulator := ⟨VpiSimulator.register⟩

instance : Network VpiSimulator where
  dial simulator path := (simulator.host.directory.dial path, simulator)

instance : Host VpiSimulator where

end Cosimulation
