import Cosimulation.Registration
import Cosimulation.Simulator.Memory
import Cosimulation.Socket.Connect
import Cosimulation.Socket.Directory
/-!
# Hosts

The bridge lives in a host: the simulator that it serves commands from, the scheduler that calls it
back, and the network over which it reaches the controller.  A host in memory puts the three
together from a signal table, a recorder and a directory tree.
-/

namespace Cosimulation

set_option autoImplicit false

/-- Everything that the bridge needs from the process it lives in. -/
class Host (σ : Type) extends Simulator σ, Scheduler σ, Network σ where
  /-- Takes note of an error that the bridge reports, as the log of the process does.  A process
  without a log takes none. -/
  alert : σ → String → σ := fun host _ => host

/-- A host in memory. -/
structure MemoryHost where
  simulator : MemorySimulator
  recorder : Recorder
  directory : Directory
  deriving DecidableEq, Repr

namespace MemoryHost

/-- A call of the simulator as a call of the host. -/
def onSimulator {α : Type} (host : MemoryHost) (call : MemorySimulator → α × MemorySimulator) :
    α × MemoryHost :=
  match call host.simulator with
  | (result, simulator) => (result, { host with simulator })

/-- A call of the recorder as a call of the host. -/
def onRecorder {α : Type} (host : MemoryHost) (call : Recorder → α × Recorder) : α × MemoryHost :=
  match call host.recorder with
  | (result, recorder) => (result, { host with recorder })

end MemoryHost

instance : Simulator MemoryHost where
  invocation host := host.onSimulator Simulator.invocation
  lookup host path := host.onSimulator (·.lookup path)
  read host reference path := host.onSimulator (·.read reference path)
  write host reference path value mode := host.onSimulator (·.write reference path value mode)
  release host reference path := host.onSimulator (·.release reference path)
  time host := host.onSimulator Simulator.time
  print host line := { host with simulator := host.simulator.print line }
  finish host := { host with simulator := host.simulator.finish }

instance : Scheduler MemoryHost where
  register host registration := host.onRecorder (·.register registration)

instance : Network MemoryHost where
  dial host path := (host.directory.dial path, host)

instance : Host MemoryHost where

end Cosimulation
