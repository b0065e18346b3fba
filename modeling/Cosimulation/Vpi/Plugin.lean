import Cosimulation.Bridge.Basic
import Cosimulation.Vpi.Scheduler
/-!
# The plugin

A simulator that loads the library finds a handful of entry points: routines that install the
bridge, the routine that every callback arrives at, and the service task.  They share one bridge for
the whole process.  It is installed at most once and never replaced; until then callbacks and
service calls do nothing.

The simulator may call an entry point from within a call that it received itself.  During a call of
the bridge such a call is skipped (`VpiHost.skip`).  A line that is printed outside of any call of
the bridge finds the bridge idle, so there the call is carried out (`Plugin.print`).
-/

namespace Cosimulation

set_option autoImplicit false

/-- The bridge of the process, with the handles that it has found. -/
structure Installation where
  bridge : Bridge
  handles : List (String × Handle)
  deriving DecidableEq, Repr

/-- The simulator's process with the library loaded. -/
structure Plugin where
  host : VpiHost
  installed : Option Installation
  deriving DecidableEq, Repr

namespace Plugin

/-- The process in which nothing has been installed yet. -/
def loaded (host : VpiHost) : Plugin := ⟨host, none⟩

/-! ## Calling the bridge -/

/-- The plugin with a run put back in its place. -/
def ofRun (run : Run VpiSimulator) : Plugin :=
  ⟨run.host.host, some ⟨run.bridge, run.host.handles⟩⟩

/-- Calls the bridge, if one is installed. -/
def withBridge (plugin : Plugin) (call : Run VpiSimulator → HostStatus × Run VpiSimulator) :
    HostStatus × Plugin :=
  match plugin.installed with
  | none => (.success, plugin)
  | some ⟨bridge, handles⟩ =>
    match call ⟨bridge, ⟨handles, plugin.host⟩⟩ with
    | (status, run) => (status, ofRun run)

/-- The service task: serves a command. -/
def service (plugin : Plugin) : HostStatus × Plugin :=
  plugin.withBridge Run.service

/-- A callback arrives with the number that it was registered with; a number of no entry point is
ignored. -/
def callback (plugin : Plugin) (code : Nat) : HostStatus × Plugin :=
  match EntryPoint.ofCode? code with
  | some entry => plugin.withBridge (·.invoke entry)
  | none => (.success, plugin)

/-- A callback that comes without any data is ignored. -/
def onCallback (plugin : Plugin) (data : Option Nat) : HostStatus × Plugin :=
  match data with
  | none => (.success, plugin)
  | some code => plugin.callback code

/-! ## Printing outside of the bridge -/

/-- Carries out a call that arrives while the bridge is idle. -/
def reenter (plugin : Plugin) (reentry : Reentry) : Plugin :=
  let (status, plugin) :=
    match reentry with
    | .service => plugin.service
    | .callback code => plugin.callback code
  { plugin with host := plugin.host.note (.reentered status.code) }

/-- Prints a line while the bridge is idle. -/
def print (plugin : Plugin) (line : String) : Plugin :=
  let host := plugin.host.printf (VpiHost.printed line)
  host.duringPrint.foldl reenter { plugin with host := { host with duringPrint := [] } }

/-- A line that begins as the bridge's lines do unless configured otherwise. -/
def line (text : String) : String :=
  s!"{Configuration.standard.logPrefix} {text}"

/-! ## Installing -/

/-- Installs the bridge and tells whether that was done.  It is not done on an invalid command line,
nor when a bridge is installed already. -/
def install (plugin : Plugin) : Bool × Plugin :=
  match Run.load (VpiSimulator.mk [] plugin.host) with
  | .error (error, simulator) =>
    (false, { plugin with host := simulator.host }.print (line s!"ERROR: {error.message}"))
  | .ok run =>
    match plugin.installed with
    | some _ => (false, { plugin with host := run.host.host })
    | none => (true, ofRun run)

/-- Registers the callbacks of a bridge that was just installed. -/
def announce (run : Run VpiSimulator) : HostStatus × Run VpiSimulator :=
  match run.registerCallbacks with
  | (.ok (), run) => (.success, run)
  | (.error error, run) =>
    (.fatal, { run with host := run.host.print (line s!"ERROR: {error.message}") })

/-- The routine that the simulator calls when it loads the library: installs the bridge and
registers its callbacks. -/
def initialise (plugin : Plugin) : Plugin :=
  match plugin.install with
  | (true, plugin) => (plugin.withBridge announce).2
  | (false, plugin) => plugin

/-- The routines that the simulator calls one after the other when it loads the library. -/
def startupRoutines : List (Plugin → Plugin) := [initialise]

/-- Installs the bridge at the simulator's explicit wish. -/
def bootstrap (plugin : Plugin) : HostStatus × Plugin :=
  (.success, (plugin.print (line "initialized")).initialise)

/-- Installs the bridge and starts at once, for simulators without startup routines. -/
def installInline (plugin : Plugin) : HostStatus × Plugin :=
  match plugin.install with
  | (false, plugin) => (.fatal, plugin)
  | (true, plugin) => plugin.withBridge Run.bootstrap

end Plugin

end Cosimulation
