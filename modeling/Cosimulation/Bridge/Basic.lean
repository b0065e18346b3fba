import Cosimulation.Bridge.Host
import Cosimulation.Configuration
import Cosimulation.Session.Dispatcher
/-!
# The bridge

The bridge is what the host calls.  It registers its entry points when it is loaded, connects to the
controller and serves the first command at the start of the simulation, serves further commands
whenever it is called for service, answers an advance when its delay has elapsed, and releases the
connection at the end of the simulation.  A `Run` is the bridge together with its host.

Every entry point answers with a status.  It is fatal exactly when an error was reported; the run of
a simulation whose session is over is ended, since nobody is left to drive it.
-/

namespace Cosimulation

set_option autoImplicit false

/-- What an entry point answers to the host. -/
inductive HostStatus where
  | success
  | fatal
  deriving DecidableEq, Repr

/-- The number that a status is shown as. -/
def HostStatus.code : HostStatus → Nat
  | .success => 0
  | .fatal => 1

/-- How far the simulation has come, as far as the bridge was told. -/
inductive Phase where
  | loaded
  | running
  | ended
  deriving DecidableEq, Repr

/-- The bridge's end of the channel: not yet connected, with a session on it, or released.  A
connection that was released is kept as the record of what was carried over it. -/
inductive Link where
  | unconnected
  | live (dispatcher : Dispatcher) (connection : Connection)
  | released (connection : Connection)
  deriving DecidableEq, Repr

namespace Link

/-- The session that is live. -/
def session? : Link → Option Dispatcher
  | .live dispatcher _ => some dispatcher
  | _ => none

/-- The connection, live or released. -/
def connection? : Link → Option Connection
  | .unconnected => none
  | .live _ connection => some connection
  | .released connection => some connection

end Link

/-- The bridge. -/
structure Bridge where
  configuration : Configuration
  invocation : Invocation
  ledger : Ledger
  link : Link
  /-- Why the last session was closed. -/
  lastClose : Option CloseReason
  phase : Phase
  deriving DecidableEq, Repr

/-- The bridge with the host that it lives in. -/
structure Run (σ : Type) where
  bridge : Bridge
  host : σ

namespace Bridge

/-- The bridge that has just been loaded. -/
def load (configuration : Configuration) (invocation : Invocation) : Bridge :=
  ⟨configuration, invocation, .empty, .unconnected, none, .loaded⟩

/-- The session that is live. -/
def session? (bridge : Bridge) : Option Dispatcher := bridge.link.session?

end Bridge

namespace Run

variable {σ : Type} [Host σ]

/-! ## Loading -/

/-- Loads the bridge into a host with a given configuration. -/
def withConfiguration (host : σ) (configuration : Configuration) : Run σ :=
  match Simulator.invocation host with
  | (invocation, host) => ⟨.load configuration invocation, host⟩

/-- Loads the bridge into a host, configured by the host's command line. -/
def load (host : σ) : Except (ConfigurationError × σ) (Run σ) :=
  match Simulator.invocation host with
  | (invocation, host) =>
    match Configuration.ofInvocation invocation with
    | .error error => .error (error, host)
    | .ok configuration => .ok ⟨.load configuration invocation, host⟩

/-! ## The console -/

/-- Prints a line. -/
def print (run : Run σ) (line : String) : Run σ :=
  { run with host := Simulator.print run.host s!"{run.bridge.configuration.logPrefix} {line}" }

/-- Prints an informational line, unless the bridge is to be quiet. -/
def inform (run : Run σ) (line : String) : Run σ :=
  if run.bridge.configuration.quiet then run else run.print line

/-- Reports an error: in the log of the process, and as a line that is printed even by a bridge that
is to be quiet. -/
def report (run : Run σ) (message : String) : Run σ :=
  { run with host := Host.alert run.host message }.print s!"ERROR: {message}"

/-! ## Registering -/

/-- Binds an entry point to a trigger. -/
def register (run : Run σ) (trigger : Trigger) (entry : EntryPoint) :
    Except ConfigurationError Unit × Run σ :=
  match run.bridge.ledger.register run.host ⟨trigger, entry⟩ with
  | (result, ledger, host) => (result, ⟨{ run.bridge with ledger }, host⟩)

/-- Binds one entry point after the other, up to the first rejection. -/
def registerAll (run : Run σ) : List (Trigger × EntryPoint) → Except ConfigurationError Unit × Run σ
  | [] => (.ok (), run)
  | (trigger, entry) :: rest =>
    match run.register trigger entry with
    | (.error error, run) => (.error error, run)
    | (.ok (), run) => registerAll run rest

/-- Registers start, end and service; done once, when the bridge is loaded. -/
def registerCallbacks (run : Run σ) : Except ConfigurationError Unit × Run σ :=
  run.registerAll
    [(.startOfSimulation, .startup), (.endOfSimulation, .shutdown),
      (.systemTask run.bridge.configuration.serviceTask, .service)]

/-! ## Serving -/

/-- The run with an exchange put back in its place. -/
def restore (run : Run σ) (exchange : Exchange σ) : Run σ :=
  ⟨{ run.bridge with link := .live exchange.dispatcher exchange.connection }, exchange.simulator⟩

/-- The run with the session dropped.  Its connection is closed, if it is not closed already. -/
def dropSession (run : Run σ) : Run σ :=
  match run.bridge.link with
  | .live _ connection => { run with bridge.link := .released connection.close }
  | _ => run

/-- Closes the live session because the simulation ends, and drops it. -/
def shutdownSession (run : Run σ) : Run σ :=
  match run.bridge.link with
  | .live dispatcher connection =>
    (run.restore (Exchange.mk dispatcher connection run.host).shutdown).dropSession
  | _ => run

/-- The turns of one callback: one in single mode, and in drain mode as many as there are commands
to serve.  The first turn resumes the session if a delay has elapsed. -/
def turns (mode : DispatchMode) (resuming : Bool) (exchange : Exchange σ) : Outcome × Exchange σ :=
  let first := if resuming then exchange.resume else exchange.cycle
  match mode, first with
  | .drain, (.served, exchange) => exchange.drain
  | _, _ => first

/-- Asks to be called back when the time of an advance has passed.  If the host rejects that, the
advance is answered at once and the run is ended. -/
def scheduleResume (run : Run σ) (ticks : UInt64) : HostStatus × Run σ :=
  match run.register (.afterDelay ticks) .resume with
  | (.ok (), run) => (.success, run)
  | (.error error, run) =>
    let run := (run.report (Error.configuration error).message).shutdownSession
    (.fatal, { run with host := Simulator.finish run.host })

/-- Tells why a session was closed. -/
def announce (run : Run σ) (reason : CloseReason) : HostStatus × Run σ :=
  if reason.isError then (.fatal, run.report reason.display)
  else (.success, run.inform s!"session ended: {reason.display}")

/-- Ends the run, unless that has been done at the controller's wish. -/
def endUnlessFinished (run : Run σ) (reason : CloseReason) : Run σ :=
  if reason = .finished then run else { run with host := Simulator.finish run.host }

/-- Lets go of a session that was closed. -/
def endSession (run : Run σ) (reason : CloseReason) : HostStatus × Run σ :=
  match run.dropSession.announce reason with
  | (status, run) =>
    (status, { run.endUnlessFinished reason with bridge.lastClose := some reason })

/-- What the bridge does with the outcome of its last turn. -/
def settle (run : Run σ) : Outcome → HostStatus × Run σ
  | .served => (.success, run)
  | .suspended => (.success, run)
  | .yielded ticks => run.scheduleResume ticks
  | .closed reason => run.endSession reason

/-- Takes the turns of one callback, if a session is live. -/
def pump (run : Run σ) (resuming : Bool) : HostStatus × Run σ :=
  match run.bridge.link with
  | .live dispatcher connection =>
    match turns run.bridge.configuration.mode resuming ⟨dispatcher, connection, run.host⟩ with
    | (outcome, exchange) => (run.restore exchange).settle outcome
  | _ => (.success, run)

/-! ## Entry points -/

/-- Start of simulation: connects and serves the first command.  Starting again does nothing. -/
def start (run : Run σ) : HostStatus × Run σ :=
  if run.bridge.phase = .loaded then
    let configuration := run.bridge.configuration
    let path := configuration.socketPath run.bridge.invocation
    let bridge := { run.bridge with phase := .running }
    match Connection.establish run.host path configuration.socketOption configuration.frameLimit with
    | (.error error, host) =>
      (.fatal,
        ((Run.mk bridge host).report error.toError.message).inform
          "couldn't connect to the controller")
    | (.ok connection, host) =>
      let run := (Run.mk bridge host).inform s!"connected to controller at {connection.peer}"
      { run with bridge.link := .live (.start configuration.frameLimit) connection }.pump false
  else (.success, run)

/-- End of simulation: closes the session that is live. -/
def conclude (run : Run σ) : HostStatus × Run σ :=
  if run.bridge.phase = .ended then (.success, run)
  else
    let run := { run with bridge.phase := .ended }
    match run.bridge.link with
    | .live dispatcher connection =>
      let exchange := (Exchange.mk dispatcher connection run.host).shutdown
      let run := (run.restore exchange).dropSession
      (.success, { run with bridge.lastClose := exchange.dispatcher.closeReason })
    | _ => (.success, run)

/-- Service: serves another command. -/
def service (run : Run σ) : HostStatus × Run σ := run.pump false

/-- A delay has elapsed: answers the advance that waits and serves another command. -/
def resume (run : Run σ) : HostStatus × Run σ := run.pump true

/-- Calls an entry point. -/
def invoke (run : Run σ) : EntryPoint → HostStatus × Run σ
  | .startup => run.start
  | .shutdown => run.conclude
  | .service => run.service
  | .resume => run.resume

/-- Registers the end of the simulation and starts at once, for hosts that call no routine of their
own at the start and declare the service task themselves. -/
def bootstrap (run : Run σ) : HostStatus × Run σ :=
  match run.register .endOfSimulation .shutdown with
  | (.error error, run) => (.fatal, run.report (Error.configuration error).message)
  | (.ok (), run) => run.start

end Run

end Cosimulation
