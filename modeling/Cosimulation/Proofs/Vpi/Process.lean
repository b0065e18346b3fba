import Cosimulation.Proofs.Bridge.Lifecycle
import Cosimulation.Vpi.Plugin
/-!
# A simulator's process

A simulator loads the library and from then on calls its entry points in any order (`Plugin.Call`).  Between
two calls it may come to answer differently, and things happen on the channel of a live session.  The
process is the row of these steps (`Plugin.follow`).

What the simulator was asked to call back for good, and what of it was accepted, stands in its record
(`VpiHost.registry`).  Of all that a bridge asks of its host only registering can change that record,
and a delay does not (`registry_invoke`).  So a process in which nothing is installed, or in which a
bridge is installed already, goes on in a restricted way, which is closed under everything that
happens in it: calls that arrive while a line is printed, and new attempts to install a bridge
(`Plugin.Continues`, `continues_print`).
-/

namespace Cosimulation

set_option autoImplicit false

/-! ## Steps of the process -/

/-- A call into the library. -/
inductive Plugin.Call where
  /-- The routines that are called when the library is loaded. -/
  | load
  | bootstrap
  | installInline
  | service
  /-- A callback arrives, with or without the number that it was registered with. -/
  | callback (data : Option Nat)
  deriving DecidableEq, Repr

/-- The simulator as it comes to answer differently.  What it has accepted so far stays accepted, and
it keeps the record of its calls without looking at it. -/
def VpiHost.rescript (host : VpiHost) (change : VpiHost → VpiHost) : VpiHost :=
  { change { host with calls := [] } with
    callbacks := host.callbacks, tasks := host.tasks, calls := host.calls }

/-- A step of the process. -/
inductive Plugin.Step where
  | call (call : Plugin.Call)
  /-- The simulator comes to answer differently. -/
  | rescript (change : VpiHost → VpiHost)
  /-- Something happens on the channel of the live session. -/
  | channel (change : Channel → Channel)

namespace Plugin

/-- Calls into the library.  The routines that are called when it is loaded return nothing. -/
def call (plugin : Plugin) : Call → Option HostStatus × Plugin
  | .load => (none, startupRoutines.foldl (fun plugin routine => routine plugin) plugin)
  | .bootstrap => (some plugin.bootstrap.1, plugin.bootstrap.2)
  | .installInline => (some plugin.installInline.1, plugin.installInline.2)
  | .service => (some plugin.service.1, plugin.service.2)
  | .callback data => (some (plugin.onCallback data).1, (plugin.onCallback data).2)

/-- The plugin with its host changed. -/
def onHost (plugin : Plugin) (change : VpiHost → VpiHost) : Plugin :=
  { plugin with host := change plugin.host }

/-- The plugin with the link of its bridge changed. -/
def mapLink (plugin : Plugin) (change : Link → Link) : Plugin :=
  { plugin with
    installed := plugin.installed.map fun installation =>
      { installation with bridge.link := change installation.bridge.link } }

/-- The process after a step. -/
def after (plugin : Plugin) : Step → Plugin
  | .call call => (plugin.call call).2
  | .rescript change => plugin.onHost (·.rescript change)
  | .channel change => plugin.mapLink (·.mapChannel change)

/-- The process after a row of steps. -/
def follow (plugin : Plugin) (steps : List Step) : Plugin :=
  steps.foldl after plugin

/-- A process in which a bridge is installed is that of a run. -/
theorem vacant_or_run (plugin : Plugin) :
    plugin = ⟨plugin.host, none⟩ ∨ ∃ run, plugin = ofRun run := by
  obtain ⟨host, installed⟩ := plugin
  cases installed with
  | none => exact .inl rfl
  | some installation => exact .inr ⟨⟨installation.bridge, ⟨installation.handles, host⟩⟩, rfl⟩

theorem occupied_ofRun (run : Run VpiSimulator) : (ofRun run).installed ≠ none :=
  Option.some_ne_none _

theorem ofRun_injective : Function.Injective ofRun := by
  intro first second same
  simp only [ofRun, mk.injEq, Option.some.injEq, Installation.mk.injEq] at same
  obtain ⟨host, bridge, handles⟩ := same
  obtain ⟨_, _, _⟩ := first
  obtain ⟨_, _, _⟩ := second
  simp only at host bridge handles
  rw [host, bridge, handles]

end Plugin

/-- The call that ends the run. -/
abbrev VpiCall.ending : VpiCall := .control Vpi.finish 1

/-! ## What the simulator was asked to call back for good -/

/-- Whether a call asks to be called back for good.  A delay fires once. -/
def VpiCall.isLasting : VpiCall → Bool
  | .registerCallback reason _ _ => reason ≠ Vpi.afterDelay
  | .registerTask .. => true
  | _ => false

/-- What the host was asked to call back for good, and what of it was accepted: the codes of the
callbacks, and the system tasks. -/
structure Registry where
  requests : List VpiCall
  callbacks : List Nat
  tasks : List String
  deriving DecidableEq, Repr

namespace VpiHost

/-- The record of what the host was asked to call back for good.  The code of an elapsed delay is
that of a callback that was not. -/
def registry (host : VpiHost) : Registry where
  requests := host.calls.filter VpiCall.isLasting
  callbacks := host.callbacks.filter (· ≠ EntryPoint.resume.code)
  tasks := host.tasks

theorem registry_note (host : VpiHost) {call : VpiCall} (passing : call.isLasting = false) :
    (host.note call).registry = host.registry := by
  simp [registry, note, passing]

@[simp] theorem registry_rescript (host : VpiHost) (change : VpiHost → VpiHost) :
    (host.rescript change).registry = host.registry :=
  rfl

@[simp] theorem registry_changeObject (host : VpiHost) (handle : Handle)
    (change : VpiObject → VpiObject) :
    (host.changeObject handle change).registry = host.registry := by
  unfold changeObject
  split <;> rfl

@[simp] theorem registry_skip (host : VpiHost) (reentries : List Reentry) :
    (host.skip reentries).registry = host.registry := by
  induction reentries generalizing host with
  | nil => rfl
  | cons reentry reentries ih =>
    have skipped := ih (host.note (.reentered 0))
    rwa [registry_note host rfl] at skipped

@[simp] theorem registry_checkError (host : VpiHost) :
    host.checkError.2.registry = host.registry :=
  registry_note { host with errors := host.errors.tail } rfl

@[simp] theorem registry_putDigits (host : VpiHost) (handle : Handle) (digits : List UInt8)
    (flag : Nat) : (host.putDigits handle digits flag).registry = host.registry :=
  (registry_changeObject _ _ _).trans (registry_note host rfl)

@[simp] theorem registry_putRelease (host : VpiHost) (handle : Handle) :
    (host.putRelease handle).2.registry = host.registry := by
  let called := (host.note (.putValue handle .blank none Vpi.releaseFlag)).changeObject handle
    fun object => { object with forced := none }
  have same : called.registry = host.registry :=
    (registry_changeObject _ _ _).trans (registry_note host rfl)
  unfold putRelease
  dsimp only
  split <;> exact same

/-- Asking for a delay leaves no trace in the record, whether it is accepted or not. -/
theorem registry_schedule_delay (host : VpiHost) (ticks : UInt64) :
    (host.schedule ⟨.afterDelay ticks, .resume⟩).2.registry = host.registry := by
  by_cases refused : Vpi.afterDelay ∈ host.refused <;>
    simp [schedule, callBack, registerCallback, refused, freeObject, note, registry,
      VpiCall.isLasting]

end VpiHost

namespace VpiSimulator

variable (simulator : VpiSimulator)

theorem registry_check (operation path : String) :
    (simulator.check operation path).2.host.registry = simulator.host.registry := by
  unfold check
  dsimp only [call]
  split <;> exact VpiHost.registry_checkError _

theorem registry_lookup (path : String) :
    (simulator.lookup path).2.host.registry = simulator.host.registry := by
  have noted : (simulator.host.handleByName path).2.registry = simulator.host.registry :=
    VpiHost.registry_note _ rfl
  unfold lookup
  dsimp only [call]
  split
  · rfl
  · split
    · cases found : simulator.host.handleByName path with
      | mk handle host =>
        rw [found] at noted
        cases handle <;> exact noted
    · rfl

theorem registry_read (handle : Handle) (path : String) :
    (simulator.read handle path).2.host.registry = simulator.host.registry := by
  have checked := registry_check
    { simulator with host := (simulator.host.getValue handle).2 } "read" path
  have noted : (simulator.host.getValue handle).2.registry = simulator.host.registry :=
    VpiHost.registry_note _ rfl
  rw [← noted, ← checked]
  unfold read
  dsimp only [call]
  split
  · rename_i found
    rw [found]
  · rename_i found
    rw [found]
    split <;> rfl

theorem registry_put (handle : Handle) (path digits : String) (flag : Nat) (operation : String) :
    (simulator.put handle path digits flag operation).2.host.registry =
      simulator.host.registry := by
  unfold put
  split
  · rw [registry_check]
    exact VpiHost.registry_putDigits _ _ _ _
  · rfl

theorem registry_release (handle : Handle) (path : String) :
    (simulator.release handle path).2.host.registry = simulator.host.registry := by
  have checked := registry_check
    { simulator with host := (simulator.host.putRelease handle).2 } "release" path
  rw [VpiHost.registry_putRelease] at checked
  unfold release
  dsimp only [call]
  split
  · rename_i found
    rw [found] at checked
    exact checked
  · rename_i found
    rw [found] at checked
    split
    · exact checked
    · exact (registry_read _ _ _).trans checked

/-- **Of all that a bridge asks of its simulator only registering changes the record.** -/
theorem confines_registry :
    Host.Confines fun first second : VpiSimulator => second.host.registry = first.host.registry where
  refl _ := rfl
  trans first second := second.trans first
  lookup := registry_lookup
  read := registry_read
  write simulator reference path value mode := by
    cases mode <;> exact registry_put _ _ _ _ _ _
  release := registry_release
  time simulator := VpiHost.registry_note simulator.host rfl
  print simulator line := by
    let printed := simulator.host.printf (VpiHost.printed line)
    have noted : printed.registry = simulator.host.registry := VpiHost.registry_note _ rfl
    exact (VpiHost.registry_skip { printed with duringPrint := [] } printed.duringPrint).trans noted
  finish simulator := by
    have noted : simulator.host.control.registry = simulator.host.registry :=
      VpiHost.registry_note _ rfl
    exact (VpiHost.registry_skip { simulator.host.control with duringFinish := [] }
      simulator.host.control.duringFinish).trans noted
  alert _ _ := rfl

theorem host_register (registration : Registration) :
    (Scheduler.register simulator registration).2.host =
      (simulator.host.schedule registration).2 := by
  show (simulator.register registration).2.host = _
  unfold register
  dsimp only [call]
  cases simulator.host.schedule registration with
  | mk accepted host => cases accepted <;> rfl

end VpiSimulator

namespace Run

variable {run : Run VpiSimulator}

/-- Dialling the controller asks nothing of the simulator. -/
theorem host_dialled (run : Run VpiSimulator) : run.dialled.2 = run.host := by
  rcases run.dialled_cases with ⟨_, same⟩ | ⟨_, _, host, dials, same⟩ | ⟨_, _, host, dials, same⟩
  · rw [same]
  · rw [same]
    exact (congrArg Prod.snd dials).symm
  · rw [same]
    exact (congrArg Prod.snd dials).symm

/-- **No call of an entry point changes the record.** -/
theorem registry_invoke (coherent : run.bridge.Coherent) (entry : EntryPoint) :
    (run.invoke entry).2.host.host.registry = run.host.host.registry := by
  have delays (simulator : VpiSimulator) (ticks : UInt64) :
      (Scheduler.register simulator ⟨.afterDelay ticks, .resume⟩).2.host.registry =
        simulator.host.registry := by
    rw [VpiSimulator.host_register]
    exact simulator.host.registry_schedule_delay ticks
  have reached := reached_invoke VpiSimulator.confines_registry delays coherent entry
  rw [run.host_dialled, ite_self] at reached
  exact reached

end Run

/-! ## How the process goes on -/

/-- What happens to an installed bridge when nothing is registered for good. -/
inductive Happening.Ordinary : Happening VpiSimulator → Prop where
  | invoke (entry : EntryPoint) : Ordinary (.invoke entry)
  | channel (change : Channel → Channel) : Ordinary (.channel change)
  | change {change : VpiSimulator → VpiSimulator} :
      (∀ simulator, (change simulator).host.registry = simulator.host.registry) →
      Ordinary (.change change)

namespace Run

/-- What ordinary happenings leave alone: the record of the host, and what the bridge is set up
with. -/
theorem ordinary_follow {run : Run VpiSimulator} (coherent : run.bridge.Coherent)
    {happenings : List (Happening VpiSimulator)}
    (ordinary : ∀ happening ∈ happenings, happening.Ordinary) :
    (run.follow happenings).host.host.registry = run.host.host.registry ∧
      (run.follow happenings).bridge.setup = run.bridge.setup := by
  induction happenings generalizing run with
  | nil => exact ⟨rfl, rfl⟩
  | cons happening happenings ih =>
    have next := ih (coherent_after coherent happening) fun other member =>
      ordinary other (List.mem_cons_of_mem happening member)
    have first : (run.after happening).host.host.registry = run.host.host.registry ∧
        (run.after happening).bridge.setup = run.bridge.setup := by
      cases ordinary happening List.mem_cons_self with
      | invoke entry => exact ⟨registry_invoke coherent entry, run.setup_invoke entry⟩
      | channel change => exact ⟨rfl, rfl⟩
      | change keeps => exact ⟨keeps run.host, rfl⟩
    exact ⟨next.1.trans first.1, next.2.trans first.2⟩

end Run

namespace Plugin

/-- How a process goes on without anything being installed and without anything being registered for
good: nothing is installed and the host changes, or ordinary things happen to the bridge that is
installed. -/
inductive Continues : Plugin → Plugin → Prop where
  | vacant {host other : VpiHost} : other.registry = host.registry →
      Continues ⟨host, none⟩ ⟨other, none⟩
  | installed (run : Run VpiSimulator) {happenings : List (Happening VpiSimulator)} :
      (∀ happening ∈ happenings, happening.Ordinary) →
      Continues (ofRun run) (ofRun (run.follow happenings))

namespace Continues

theorem refl (plugin : Plugin) : Continues plugin plugin := by
  rcases plugin.vacant_or_run with vacant | ⟨run, rfl⟩
  · rw [vacant]
    exact .vacant rfl
  · have nothing : ∀ happening ∈ ([] : List (Happening VpiSimulator)), happening.Ordinary := nofun
    exact .installed run nothing

theorem trans {first second third : Plugin} (goesOn : Continues first second)
    (later : Continues second third) : Continues first third := by
  cases goesOn with
  | @vacant host other same =>
    generalize middle : Plugin.mk other none = second at later
    cases later with
    | vacant also =>
      cases middle
      exact .vacant (also.trans same)
    | installed run _ => cases middle
  | @installed run happenings ordinary =>
    generalize middle : ofRun (run.follow happenings) = second at later
    cases later with
    | vacant => cases middle
    | @installed next others also =>
      have joined : ofRun (next.follow others) = ofRun (run.follow (happenings ++ others)) := by
        rw [← ofRun_injective middle, Run.follow, Run.follow, Run.follow, List.foldl_append]
      rw [joined]
      refine .installed run fun happening member => ?_
      exact (List.mem_append.1 member).elim (ordinary happening) (also happening)

/-- As long as nothing is installed, the record stays as it is. -/
theorem of_vacant {plugin next : Plugin} (goesOn : Continues plugin next)
    (vacant : plugin.installed = none) :
    next.installed = none ∧ next.host.registry = plugin.host.registry := by
  cases goesOn with
  | vacant same => exact ⟨rfl, same⟩
  | installed run => cases vacant

/-- What is installed stays installed. -/
theorem of_occupied {plugin next : Plugin} (goesOn : Continues plugin next)
    (occupied : plugin.installed ≠ none) : next.installed ≠ none := by
  cases goesOn with
  | vacant => exact absurd rfl occupied
  | installed run => exact occupied_ofRun _

/-- From an installed bridge the process goes on with that bridge. -/
theorem of_run {run : Run VpiSimulator} {next : Plugin} (goesOn : Continues (ofRun run) next) :
    ∃ happenings, (∀ happening ∈ happenings, happening.Ordinary) ∧
      next = ofRun (run.follow happenings) := by
  generalize begins : ofRun run = plugin at goesOn
  cases goesOn with
  | vacant => cases begins
  | @installed other happenings ordinary =>
    rw [ofRun_injective begins]
    exact ⟨happenings, ordinary, rfl⟩

/-- The record stays as it is. -/
theorem registry {run : Run VpiSimulator} (coherent : run.bridge.Coherent) {next : Plugin}
    (goesOn : Continues (ofRun run) next) : next.host.registry = run.host.host.registry := by
  obtain ⟨happenings, ordinary, rfl⟩ := goesOn.of_run
  exact (Run.ordinary_follow coherent ordinary).1

/-- A process goes on by one ordinary happening. -/
theorem once (run : Run VpiSimulator) {happening : Happening VpiSimulator}
    (ordinary : happening.Ordinary) : Continues (ofRun run) (ofRun (run.after happening)) := by
  have alone : ∀ other ∈ [happening], other.Ordinary := by
    intro other member
    rwa [List.mem_singleton.1 member]
  exact .installed run alone

/-- A process goes on when the host changes without its record. -/
theorem onHost (plugin : Plugin) {change : VpiHost → VpiHost}
    (keeps : ∀ host, (change host).registry = host.registry) :
    Continues plugin (plugin.onHost change) := by
  rcases plugin.vacant_or_run with vacant | ⟨run, rfl⟩
  · rw [vacant]
    exact .vacant (keeps plugin.host)
  · have ordinary : Happening.Ordinary (.change fun simulator =>
        { simulator with host := change simulator.host }) :=
      .change fun simulator => keeps simulator.host
    exact once run ordinary

theorem channel (plugin : Plugin) (change : Channel → Channel) :
    Continues plugin (plugin.mapLink (·.mapChannel change)) := by
  rcases plugin.vacant_or_run with vacant | ⟨run, rfl⟩
  · rw [vacant]
    exact .vacant rfl
  · exact once run (.channel change)

/-- A process goes on when the bridge is called. -/
theorem invoke (plugin : Plugin) (entry : EntryPoint) :
    Continues plugin (plugin.withBridge (·.invoke entry)).2 := by
  rcases plugin.vacant_or_run with vacant | ⟨run, rfl⟩
  · rw [vacant]
    exact .vacant rfl
  · exact once run (.invoke entry)

theorem service (plugin : Plugin) : Continues plugin plugin.service.2 :=
  invoke plugin .service

theorem callback (plugin : Plugin) (code : Nat) : Continues plugin (plugin.callback code).2 := by
  unfold Plugin.callback
  split
  · exact invoke plugin _
  · exact refl plugin

theorem onCallback (plugin : Plugin) (data : Option Nat) :
    Continues plugin (plugin.onCallback data).2 := by
  cases data with
  | none => exact refl plugin
  | some code => exact callback plugin code

end Continues

/-- A call that arrives while the bridge is idle. -/
theorem continues_reenter (plugin : Plugin) (reentry : Reentry) :
    Continues plugin (plugin.reenter reentry) := by
  have noted (status : HostStatus) (plugin : Plugin) :
      Continues plugin (plugin.onHost (·.note (.reentered status.code))) :=
    .onHost plugin fun host => host.registry_note rfl
  cases reentry with
  | service => exact (Continues.service plugin).trans (noted _ _)
  | callback code => exact (Continues.callback plugin code).trans (noted _ _)

/-- **Printing a line**, with all the calls that arrive meanwhile. -/
theorem continues_print (plugin : Plugin) (line : String) : Continues plugin (plugin.print line) := by
  have goesOn (reentries : List Reentry) (plugin : Plugin) :
      Continues plugin (reentries.foldl reenter plugin) := by
    induction reentries generalizing plugin with
    | nil => exact .refl plugin
    | cons reentry reentries ih => exact (continues_reenter plugin reentry).trans (ih _)
  have printed : Continues plugin (plugin.onHost fun host =>
      { host.printf (VpiHost.printed line) with duringPrint := [] }) :=
    .onHost plugin fun host => host.registry_note rfl
  exact printed.trans (goesOn _ _)

end Plugin

end Cosimulation
