import Cosimulation.Proofs.Vpi.Process
/-!
# One bridge in a process

Several entry points install a bridge, and they may be called in any order, again and again.  The
command line may be invalid in one call and valid in the next, and the simulator may refuse what it
is asked to call back.  Still a process installs one bridge at most, and never replaces it.

How an attempt to install a bridge goes depends on the command line and on whether one is installed
already (`installs_install`).  The attempt that succeeds hands the registrations of its plan to the
simulator, one after the other up to the first that is refused (`follows_registerAll`).  Nothing else
in the process registers for good, so that the simulator's record shows the front of one plan and
nothing more, whatever is called before and afterwards (`installs_at_most_once`).
-/

namespace Cosimulation

set_option autoImplicit false

/-! ## Plans and records -/

namespace Registration

/-- The call by which a simulator is asked for a registration. -/
def request (registration : Registration) : VpiCall :=
  match registration.trigger with
  | .startOfSimulation =>
    .registerCallback Vpi.startOfSimulation none registration.entry.code
  | .endOfSimulation => .registerCallback Vpi.endOfSimulation none registration.entry.code
  | .afterDelay ticks =>
    .registerCallback Vpi.afterDelay (some (.ofTicks ticks)) registration.entry.code
  | .systemTask name => .registerTask Vpi.systemTask 0 name

/-- The code that a callback is accepted with. -/
def code? (registration : Registration) : Option Nat :=
  match registration.trigger with
  | .systemTask _ => none
  | _ => some registration.entry.code

/-- The name that a system task is accepted with. -/
def task? (registration : Registration) : Option String :=
  match registration.trigger with
  | .systemTask name => some name
  | _ => none

/-- Whether a registration is one to be called back for good. -/
def isLasting (registration : Registration) : Bool :=
  !registration.trigger.isDelay && registration.entry ≠ .resume

end Registration

namespace Registry

/-- The record of a simulator that was asked for registrations and has accepted some. -/
def of (asked accepted : List Registration) : Registry where
  requests := asked.map Registration.request
  callbacks := accepted.filterMap Registration.code?
  tasks := accepted.filterMap Registration.task?

/-- The record shows the front of a plan.  All that was asked for was accepted, and was entered in
the ledger, except perhaps for the last. -/
def Follows (registry : Registry) (ledger : Ledger) (plan : List Registration) : Prop :=
  ∃ asked, registry = .of asked ledger.registrations ∧ asked <+: plan ∧
    ledger.registrations <+: asked ∧ asked.length ≤ ledger.registrations.length + 1

end Registry

/-- What a call registers for good if it installs a bridge. -/
def Plugin.Call.plan (configuration : Configuration) : Plugin.Call → List Registration
  | .load | .bootstrap =>
    [⟨.startOfSimulation, .startup⟩, ⟨.endOfSimulation, .shutdown⟩,
      ⟨.systemTask configuration.serviceTask, .service⟩]
  | .installInline => [⟨.endOfSimulation, .shutdown⟩]
  | .service | .callback _ => []

/-! ## Registering -/

/-- How asking for a lasting registration goes, and what the record shows of it. -/
inductive VpiHost.Schedules (asked accepted : List Registration) (registration : Registration) :
    Bool × VpiHost → Prop where
  | accepts {host : VpiHost} :
      host.registry = .of (asked ++ [registration]) (accepted ++ [registration]) →
      Schedules asked accepted registration (true, host)
  | refuses {host : VpiHost} : host.registry = .of (asked ++ [registration]) accepted →
      Schedules asked accepted registration (false, host)
  /-- The name of a system task cannot be handed over. -/
  | withholds {host : VpiHost} : host.registry = .of asked accepted →
      Schedules asked accepted registration (false, host)

namespace VpiHost

variable {host : VpiHost} {asked accepted : List Registration}
  (record : host.registry = .of asked accepted)
include record

/-- What was asked for is entered in the record. -/
theorem registry_asked {registration : Registration} (lasting : registration.request.isLasting) :
    (host.note registration.request).registry = .of (asked ++ [registration]) accepted := by
  have entered : (host.note registration.request).registry =
      { host.registry with requests := host.registry.requests ++ [registration.request] } := by
    simp [VpiHost.registry, note, lasting]
  rw [entered, record]
  simp [Registry.of]

theorem schedules_callBack {registration : Registration} {reason : Nat}
    (request : registration.request = .registerCallback reason none registration.entry.code)
    (code : registration.code? = some registration.entry.code) (task : registration.task? = none)
    (passing : reason ≠ Vpi.afterDelay) (calls : registration.entry ≠ .resume) :
    Schedules asked accepted registration (host.callBack reason none registration.entry) := by
  have lasting : registration.request.isLasting := by simp [request, VpiCall.isLasting, passing]
  have noted := registry_asked record lasting
  by_cases refused : reason ∈ host.refused
  · have answer : host.callBack reason none registration.entry =
        (false, host.note registration.request) := by
      simp [callBack, registerCallback, refused, request]
    rw [answer]
    exact .refuses noted
  · have codes : registration.entry.code ≠ EntryPoint.resume.code := by
      intro same
      have entries := congrArg EntryPoint.ofCode? same
      simp only [EntryPoint.ofCode?_code, Option.some.injEq] at entries
      exact calls entries
    have answer : (host.callBack reason none registration.entry).1 = true := by
      simp [callBack, registerCallback, refused]
    have entered : (host.callBack reason none registration.entry).2.registry =
        { (host.note registration.request).registry with
          callbacks := (host.note registration.request).registry.callbacks ++
            [registration.entry.code] } := by
      simp [callBack, registerCallback, refused, freeObject, VpiHost.registry, note, request, codes,
        List.filter_cons, VpiCall.isLasting]
    generalize host.callBack reason none registration.entry = done at answer entered
    obtain ⟨_, next⟩ := done
    dsimp only at answer entered
    subst answer
    refine .accepts ?_
    rw [entered, noted]
    simp [Registry.of, code, task]

theorem schedules_declareTask (name : String) (entry : EntryPoint) :
    Schedules asked accepted ⟨.systemTask name, entry⟩ (host.declareTask name) := by
  have noted : (host.note (.registerTask Vpi.systemTask 0 name)).registry =
      .of (asked ++ [⟨.systemTask name, entry⟩]) accepted :=
    registry_asked record (rfl : (Registration.request ⟨.systemTask name, entry⟩).isLasting = true)
  by_cases passable : isPassable name
  · by_cases refused : host.refusesTasks
    · have answer : host.declareTask name =
          (false, host.note (.registerTask Vpi.systemTask 0 name)) := by
        simp [declareTask, registerTask, passable, refused]
      rw [answer]
      exact .refuses noted
    · have answer : host.declareTask name =
          (true, { host.note (.registerTask Vpi.systemTask 0 name) with
            tasks := host.tasks ++ [name] }) := by
        simp [declareTask, registerTask, passable, refused]
      have entered : ({ host.note (.registerTask Vpi.systemTask 0 name) with
            tasks := host.tasks ++ [name] } : VpiHost).registry =
          { (host.note (.registerTask Vpi.systemTask 0 name)).registry with
            tasks := (host.note (.registerTask Vpi.systemTask 0 name)).registry.tasks ++ [name] } :=
        rfl
      rw [answer]
      refine .accepts ?_
      rw [entered, noted]
      simp [Registry.of, Registration.code?, Registration.task?]
  · have answer : host.declareTask name = (false, host) := by simp [declareTask, passable]
    rw [answer]
    exact .withholds record

/-- **Asking for a lasting registration** enters the request in the record, if it can be handed over,
and what is accepted as well. -/
theorem schedules_schedule {registration : Registration} (lasting : registration.isLasting) :
    Schedules asked accepted registration (host.schedule registration) := by
  obtain ⟨trigger, entry⟩ := registration
  simp only [Registration.isLasting, Bool.and_eq_true, Bool.not_eq_true', decide_eq_true_eq] at lasting
  obtain ⟨stays, calls⟩ := lasting
  cases trigger with
  | startOfSimulation => exact schedules_callBack record rfl rfl rfl (by decide) calls
  | endOfSimulation => exact schedules_callBack record rfl rfl rfl (by decide) calls
  | afterDelay ticks => cases stays
  | systemTask name => exact schedules_declareTask record name entry

end VpiHost

namespace Run

/-- An accepted registration is entered in the ledger. -/
theorem register_of_accepted {run : Run VpiSimulator} {trigger : Trigger} {entry : EntryPoint}
    {host : VpiHost} (schedules : run.host.host.schedule ⟨trigger, entry⟩ = (true, host)) :
    run.register trigger entry =
      (.ok (), ⟨{ run.bridge with ledger := run.bridge.ledger.enter ⟨trigger, entry⟩ },
        { run.host with host }⟩) := by
  have registers : Scheduler.register run.host ⟨trigger, entry⟩ = (.ok (), { run.host with host }) := by
    show run.host.register _ = _
    simp [VpiSimulator.register, VpiSimulator.call, schedules]
  simp [register, Ledger.register, registers]

/-- A refused registration leaves the ledger alone. -/
theorem register_of_refused {run : Run VpiSimulator} {trigger : Trigger} {entry : EntryPoint}
    {host : VpiHost} (schedules : run.host.host.schedule ⟨trigger, entry⟩ = (false, host)) :
    run.register trigger entry =
      (.error (.registrationRejected trigger.display), { run with host := { run.host with host } }) := by
  have registers : Scheduler.register run.host ⟨trigger, entry⟩ =
      (.error (.registrationRejected trigger.display), { run.host with host }) := by
    show run.host.register _ = _
    simp [VpiSimulator.register, VpiSimulator.call, schedules]
  simp [register, Ledger.register, registers]

/-- **Registering follows a plan** as far as the simulator accepts it. -/
theorem follows_registerAll {run : Run VpiSimulator} {plan : List Registration}
    (record : run.host.host.registry =
      .of run.bridge.ledger.registrations run.bridge.ledger.registrations)
    (lasting : ∀ registration ∈ plan, registration.isLasting) :
    let next := (run.registerAll (plan.map fun registration =>
      (registration.trigger, registration.entry))).2
    next.host.host.registry.Follows next.bridge.ledger (run.bridge.ledger.registrations ++ plan) := by
  induction plan generalizing run with
  | nil =>
    exact ⟨_, record, List.prefix_append _ _, List.prefix_rfl, Nat.le_add_right _ 1⟩
  | cons registration plan ih =>
    have schedules := VpiHost.schedules_schedule record (lasting registration List.mem_cons_self)
    have others : ∀ other ∈ plan, other.isLasting := fun other member =>
      lasting other (List.mem_cons_of_mem registration member)
    rw [List.map_cons]
    unfold registerAll
    generalize asked : run.host.host.schedule registration = answer at schedules
    cases schedules with
    | @accepts host entered =>
      have stays : registration.trigger.isDelay = false := by
        have lasts := lasting registration List.mem_cons_self
        simp only [Registration.isLasting, Bool.and_eq_true, Bool.not_eq_true'] at lasts
        exact lasts.1
      have ledger : (run.bridge.ledger.enter registration).registrations =
          run.bridge.ledger.registrations ++ [registration] := by
        simp [Ledger.enter, stays]
      rw [← ledger] at entered
      let next : Run VpiSimulator :=
        ⟨{ run.bridge with ledger := run.bridge.ledger.enter registration }, { run.host with host }⟩
      have record : next.host.host.registry =
        .of next.bridge.ledger.registrations next.bridge.ledger.registrations := entered
      have rest := ih record others
      rw [register_of_accepted asked]
      simpa [next, ledger] using rest
    | refuses entered =>
      rw [register_of_refused asked]
      exact ⟨_, entered, (List.prefix_append_right_inj _).2 ⟨plan, rfl⟩, List.prefix_append _ _,
        Nat.le_of_eq List.length_append⟩
    | withholds entered =>
      rw [register_of_refused asked]
      exact ⟨_, entered, List.prefix_append _ _, List.prefix_rfl, Nat.le_add_right _ 1⟩

end Run

/-! ## Installing -/

namespace Plugin

/-- How an attempt to install a bridge goes. -/
inductive Installs (plugin : Plugin) : Bool × Plugin → Prop where
  /-- The command line is invalid, which is reported. -/
  | invalid (message : String) :
      Installs plugin (false, (plugin.onHost (·.note .getVlogInfo)).print (line message))
  /-- A bridge is installed already. -/
  | occupied : plugin.installed ≠ none →
      Installs plugin (false, plugin.onHost (·.note .getVlogInfo))
  | installs (configuration : Configuration) (invocation : Invocation) : plugin.installed = none →
      Installs plugin (true,
        ofRun ⟨.load configuration invocation, ⟨[], plugin.host.note .getVlogInfo⟩⟩)

/-- **How an attempt to install a bridge goes.** -/
theorem installs_install (plugin : Plugin) : plugin.Installs plugin.install := by
  unfold install Run.load
  have asks : Simulator.invocation (VpiSimulator.mk [] plugin.host) =
      ((Simulator.invocation (VpiSimulator.mk [] plugin.host)).1,
        ⟨[], plugin.host.note .getVlogInfo⟩) := rfl
  rw [asks]
  dsimp only
  cases Configuration.ofInvocation (Simulator.invocation (VpiSimulator.mk [] plugin.host)).1 with
  | error error => exact .invalid _
  | ok configuration =>
    dsimp only
    split
    · rename_i found
      exact .occupied (by simp [found])
    · rename_i found
      exact .installs configuration _ found

/-- An attempt that fails lets the process go on. -/
theorem continues_install {plugin next : Plugin} (installs : plugin.Installs (false, next)) :
    Continues plugin next := by
  have asked : Continues plugin (plugin.onHost (·.note .getVlogInfo)) :=
    .onHost plugin fun host => host.registry_note rfl
  cases installs with
  | invalid message => exact asked.trans (continues_print _ _)
  | occupied => exact asked

/-- What a call leaves behind that has installed a bridge: what was registered for good follows the
plan of the call. -/
structure Registers (run : Run VpiSimulator) (call : Call) : Prop where
  coherent : run.bridge.Coherent
  follows : run.host.host.registry.Follows run.bridge.ledger (call.plan run.bridge.configuration)

namespace Registers

variable {run next : Run VpiSimulator} {call : Call}

/-- What leaves alone the record, the ledger and the configuration leaves alone what was registered
for good. -/
theorem of_same (registers : Registers run call) (coherent : next.bridge.Coherent)
    (registry : next.host.host.registry = run.host.host.registry)
    (setup : next.bridge.setup = run.bridge.setup) : Registers next call := by
  obtain ⟨configuration, _, ledger⟩ :
      next.bridge.configuration = run.bridge.configuration ∧
        next.bridge.invocation = run.bridge.invocation ∧ next.bridge.ledger = run.bridge.ledger := by
    simpa [Bridge.setup] using setup
  refine ⟨coherent, ?_⟩
  rw [registry, ledger, configuration]
  exact registers.follows

/-- A bridge that was just loaded into a process without registrations, when it has registered. -/
theorem of_registerAll (configuration : Configuration) (invocation : Invocation) {host : VpiHost}
    (blank : host.registry = .of [] []) (call : Call) :
    Registers ((Run.mk (.load configuration invocation) (VpiSimulator.mk [] host)).registerAll
      ((call.plan configuration).map fun registration =>
        (registration.trigger, registration.entry))).2 call := by
  let loaded : Run VpiSimulator := ⟨.load configuration invocation, ⟨[], host⟩⟩
  have record : loaded.host.host.registry =
    .of loaded.bridge.ledger.registrations loaded.bridge.ledger.registrations := blank
  have lasting : ∀ registration ∈ call.plan configuration, registration.isLasting := by
    cases call <;> simp [Call.plan, Registration.isLasting, Trigger.isDelay]
  have follows := Run.follows_registerAll record lasting
  obtain ⟨ledger, host, same⟩ := loaded.registerAll_eq ((call.plan configuration).map
    fun registration => (registration.trigger, registration.entry))
  show Registers (loaded.registerAll _).2 call
  rw [same] at follows ⊢
  exact ⟨.of_idle rfl, follows⟩

/-- Registering start, end and service. -/
theorem announce (configuration : Configuration) (invocation : Invocation) {host : VpiHost}
    (blank : host.registry = .of [] []) :
    Registers (Plugin.announce (Run.mk (.load configuration invocation) ⟨[], host⟩)).2 .load := by
  have registers := of_registerAll configuration invocation blank .load
  let loaded : Run VpiSimulator := ⟨.load configuration invocation, ⟨[], host⟩⟩
  change Registers loaded.registerCallbacks.2 .load at registers
  show Registers (Plugin.announce loaded).2 .load
  unfold Plugin.announce
  generalize loaded.registerCallbacks = done at registers
  obtain ⟨result, next⟩ := done
  cases result with
  | ok => exact registers
  | error error =>
    exact registers.of_same registers.coherent (VpiSimulator.confines_registry.print next.host _) rfl

/-- Registering the end alone and starting at once. -/
theorem bootstrap (configuration : Configuration) (invocation : Invocation) {host : VpiHost}
    (blank : host.registry = .of [] []) :
    Registers (Run.mk (.load configuration invocation) (VpiSimulator.mk [] host)).bootstrap.2
      .installInline := by
  have registers := of_registerAll configuration invocation blank .installInline
  let loaded : Run VpiSimulator := ⟨.load configuration invocation, ⟨[], host⟩⟩
  change Registers (loaded.registerAll [(.endOfSimulation, .shutdown)]).2 .installInline at registers
  show Registers loaded.bootstrap.2 .installInline
  unfold Run.registerAll at registers
  unfold Run.bootstrap
  generalize loaded.register .endOfSimulation .shutdown = done at registers
  obtain ⟨result, next⟩ := done
  cases result with
  | ok =>
    change Registers next .installInline at registers
    exact registers.of_same (Run.coherent_invoke registers.coherent .startup)
      (Run.registry_invoke registers.coherent .startup) (next.setup_invoke .startup)
  | error error =>
    exact registers.of_same registers.coherent
      (Run.reached_report VpiSimulator.confines_registry next _) rfl

end Registers

/-- How a call goes on: the process goes on as it was, or a bridge is installed in it. -/
inductive Proceeds (plugin : Plugin) (call : Call) : Plugin → Prop where
  | continues {next : Plugin} : Continues plugin next → Proceeds plugin call next
  | installs {run : Run VpiSimulator} : plugin.installed = none →
      (plugin.host.registry = .of [] [] → Registers run call) → Proceeds plugin call (ofRun run)

theorem proceeds_initialise (plugin : Plugin) : Proceeds plugin .load plugin.initialise := by
  have installs := plugin.installs_install
  unfold initialise
  generalize plugin.install = attempt at installs
  obtain ⟨done, next⟩ := attempt
  cases done with
  | false => exact .continues (continues_install installs)
  | true =>
    cases installs with
    | installs configuration invocation vacant =>
      refine .installs vacant fun blank => ?_
      have noted : (plugin.host.note .getVlogInfo).registry = .of [] [] :=
        (plugin.host.registry_note rfl).trans blank
      exact .announce configuration invocation noted

theorem proceeds_call (plugin : Plugin) (call : Call) : Proceeds plugin call (plugin.call call).2 := by
  cases call with
  | load => exact plugin.proceeds_initialise
  | bootstrap =>
    have printed := plugin.continues_print (line "initialized")
    have goes := (plugin.print (line "initialized")).proceeds_initialise
    show Proceeds plugin .bootstrap (plugin.print (line "initialized")).initialise
    generalize plugin.print (line "initialized") = middle at printed goes
    generalize middle.initialise = next at goes
    cases goes with
    | continues goesOn => exact .continues (printed.trans goesOn)
    | installs vacant registers =>
      by_cases free : plugin.installed = none
      · refine .installs free fun blank => ?_
        have loaded := registers ((printed.of_vacant free).2.trans blank)
        exact ⟨loaded.coherent, loaded.follows⟩
      · exact absurd vacant (printed.of_occupied free)
  | installInline =>
    have installs := plugin.installs_install
    show Proceeds plugin .installInline plugin.installInline.2
    unfold installInline
    generalize plugin.install = attempt at installs
    obtain ⟨done, next⟩ := attempt
    cases done with
    | false => exact .continues (continues_install installs)
    | true =>
      cases installs with
      | installs configuration invocation vacant =>
        refine .installs vacant fun blank => ?_
        have noted : (plugin.host.note .getVlogInfo).registry = .of [] [] :=
          (plugin.host.registry_note rfl).trans blank
        exact .bootstrap configuration invocation noted
  | service => exact .continues (.service plugin)
  | callback data => exact .continues (.onCallback plugin data)

/-! ## The process as a whole -/

/-- How a step goes on. -/
theorem after_cases (plugin : Plugin) (step : Step) :
    Continues plugin (plugin.after step) ∨
      ∃ call run, step = .call call ∧ plugin.after step = ofRun run ∧ plugin.installed = none ∧
        (plugin.host.registry = .of [] [] → Registers run call) := by
  cases step with
  | call call =>
    have proceeds := plugin.proceeds_call call
    show Continues plugin (plugin.call call).2 ∨ _
    generalize called : (plugin.call call).2 = next at proceeds
    cases proceeds with
    | continues goesOn => exact .inl goesOn
    | installs vacant registers => exact .inr ⟨call, _, rfl, called, vacant, registers⟩
  | rescript change => exact .inl (.onHost plugin fun host => host.registry_rescript change)
  | channel change => exact .inl (.channel plugin change)

/-- **Once a bridge is installed, the process goes on with it**, whatever is called. -/
theorem continues_follow {plugin : Plugin} (occupied : plugin.installed ≠ none) (steps : List Step) :
    Continues plugin (plugin.follow steps) := by
  induction steps generalizing plugin with
  | nil => exact .refl plugin
  | cons step steps ih =>
    rcases plugin.after_cases step with goesOn | ⟨_, _, _, _, vacant, _⟩
    · exact goesOn.trans (ih (goesOn.of_occupied occupied))
    · exact absurd vacant occupied

/-- The history of a process in which a bridge is installed: up to a call nothing was, that call has
installed the bridge, and since then ordinary things have happened to it. -/
structure History (first : Plugin) (steps : List Step) (call : Call) (run : Run VpiSimulator)
    (earlier later : List Step) : Prop where
  whole : steps = earlier ++ .call call :: later
  before : ∀ front, front <+: earlier → (first.follow front).installed = none
  installs : first.follow (earlier ++ [.call call]) = ofRun run
  since : ∀ front, front <+: later → ∃ happenings, (∀ happening ∈ happenings, happening.Ordinary) ∧
    first.follow (earlier ++ .call call :: front) = ofRun (run.follow happenings)

/-- **A process has no bridge, or the one that a call has installed.** -/
theorem vacant_or_history {first : Plugin} (vacant : first.installed = none)
    (blank : first.host.registry = .of [] []) (steps : List Step) :
    ((first.follow steps).installed = none ∧ (first.follow steps).host.registry = .of [] []) ∨
      ∃ call run earlier later, History first steps call run earlier later ∧ Registers run call := by
  induction steps generalizing first with
  | nil => exact .inl ⟨vacant, blank⟩
  | cons step steps ih =>
    rcases first.after_cases step with goesOn | ⟨call, run, rfl, installed, _, registers⟩
    · obtain ⟨still, same⟩ := goesOn.of_vacant vacant
      rcases ih still (same.trans blank) with idle | ⟨call, run, earlier, later, history, registers⟩
      · exact .inl idle
      · refine .inr ⟨call, run, step :: earlier, later, ⟨?_, ?_, history.installs, history.since⟩,
          registers⟩
        · rw [history.whole, List.cons_append]
        · intro front early
          rcases List.prefix_cons_iff.1 early with rfl | ⟨rest, rfl, inner⟩
          · exact vacant
          · exact history.before rest inner
    · refine .inr ⟨call, run, [], steps, ⟨rfl, ?_, installed, ?_⟩, registers blank⟩
      · intro front early
        rw [List.prefix_nil.1 early]
        exact vacant
      · intro front _
        have goesOn := continues_follow (occupied_ofRun run) front
        rw [← installed] at goesOn
        exact Continues.of_run (installed ▸ goesOn)

/-- Between its calls the bridge of a process is coherent. -/
theorem coherent_follow (script : VpiHost) (steps : List Step) (installation : Installation)
    (installed : ((Plugin.loaded (VpiHost.idle.rescript fun _ => script)).follow steps).installed =
      some installation) : installation.bridge.Coherent := by
  have vacant : (Plugin.loaded (VpiHost.idle.rescript fun _ => script)).installed = none := rfl
  have blank : (Plugin.loaded (VpiHost.idle.rescript fun _ => script)).host.registry = .of [] [] := rfl
  rcases vacant_or_history vacant blank steps with
    ⟨still, _⟩ | ⟨call, run, earlier, later, history, registers⟩
  · cases still.symm.trans installed
  · obtain ⟨happenings, _, last⟩ := history.since later List.prefix_rfl
    rw [history.whole, last] at installed
    cases installed
    exact Run.coherent_follow_of_coherent registers.coherent happenings

/-- With nothing installed the service task does nothing. -/
theorem service_of_vacant {plugin : Plugin} (vacant : plugin.installed = none) :
    plugin.service = (.success, plugin) := by
  obtain ⟨host, installed⟩ := plugin
  subst vacant
  rfl

/-- Nor does a callback, whatever number it comes with. -/
theorem onCallback_of_vacant {plugin : Plugin} (vacant : plugin.installed = none)
    (data : Option Nat) : plugin.onCallback data = (.success, plugin) := by
  obtain ⟨host, installed⟩ := plugin
  subst vacant
  cases data with
  | none => rfl
  | some code =>
    show Plugin.callback _ code = _
    unfold callback
    split <;> rfl

/-- A second attempt to install a bridge inline fails, and what it asks of the simulator is its
command line and at most to print a line. -/
theorem refuses_installInline {plugin : Plugin} (occupied : plugin.installed ≠ none) :
    ∃ next, plugin.installInline = (.fatal, next) ∧ Continues plugin next ∧
      (plugin.host.duringPrint = [] → next.host.calls = plugin.host.calls ++ [.getVlogInfo] ∨
        ∃ text, next.host.calls = plugin.host.calls ++ [.getVlogInfo, .printf "%s" text]) := by
  have installs := plugin.installs_install
  unfold installInline
  generalize plugin.install = attempt at installs
  obtain ⟨done, next⟩ := attempt
  cases done with
  | true =>
    cases installs with
    | installs _ _ vacant => exact absurd vacant occupied
  | false =>
    refine ⟨next, rfl, continues_install installs, fun silent => ?_⟩
    cases installs with
    | occupied => exact .inl rfl
    | invalid message =>
      refine .inr ⟨VpiHost.printed (line message), ?_⟩
      simp [print, onHost, VpiHost.printf, VpiHost.note, silent]

/-- **A process installs one bridge at most, and registers for it at most once.**  The simulator is
as it likes: which command line it tells, what it refuses and what it calls while it prints, and all
of it may change between two calls.

Either nothing is installed, nothing was ever asked to be called back for good, and callbacks and
service do nothing, not even a call of the simulator.  Or there was one call that has installed a
bridge, which is there ever since.  The record then shows the front of that call's plan, of which all
but perhaps the last was accepted, and installing a bridge inline is refused without registering
anything. -/
theorem installs_at_most_once (script : VpiHost) (steps : List Step) :
    let first := Plugin.loaded (VpiHost.idle.rescript fun _ => script)
    let plugin := first.follow steps
    (plugin.installed = none ∧ plugin.host.registry = .of [] [] ∧
      plugin.service = (.success, plugin) ∧ ∀ data, plugin.onCallback data = (.success, plugin)) ∨
    ∃ call run earlier later, History first steps call run earlier later ∧
      plugin.host.registry.Follows run.bridge.ledger (call.plan run.bridge.configuration) ∧
      ∃ next, plugin.installInline = (.fatal, next) ∧ next.host.registry = plugin.host.registry ∧
        (plugin.host.duringPrint = [] → next.host.calls = plugin.host.calls ++ [.getVlogInfo] ∨
          ∃ text, next.host.calls = plugin.host.calls ++ [.getVlogInfo, .printf "%s" text]) := by
  intro first plugin
  have vacant : first.installed = none := rfl
  have blank : first.host.registry = .of [] [] := rfl
  rcases vacant_or_history vacant blank steps with
    ⟨vacant, blank⟩ | ⟨call, run, earlier, later, history, registers⟩
  · refine .inl ⟨vacant, blank, service_of_vacant vacant, onCallback_of_vacant vacant⟩
  · obtain ⟨happenings, ordinary, last⟩ := history.since later List.prefix_rfl
    have ends : plugin = ofRun (run.follow happenings) := by
      rw [← last, ← history.whole]
    have occupied : plugin.installed ≠ none := by
      rw [ends]
      exact occupied_ofRun _
    obtain ⟨next, refused, goesOn, asks⟩ := refuses_installInline occupied
    refine .inr ⟨call, run, earlier, later, history, ?_, next, refused, ?_, asks⟩
    · rw [ends, show (ofRun _).host.registry = _ from
        (Run.ordinary_follow registers.coherent ordinary).1]
      exact registers.follows
    · rw [ends] at goesOn ⊢
      exact goesOn.registry (Run.coherent_follow_of_coherent registers.coherent happenings)

end Plugin

end Cosimulation
