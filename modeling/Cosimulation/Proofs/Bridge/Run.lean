import Cosimulation.Bridge.Peer
import Cosimulation.Proofs.Session.Effects
/-!
# Runs of a bridge

The host calls the bridge when it likes, and between two calls the host itself changes and things
happen on the channel.  A run of the bridge is the row of these happenings (`Run.follow`).

An entry point that serves does so by taking turns on some session: the one that is live, or at the
start the one that was just connected (`engaged`).  What comes of the turns is settled by letting the
session live or letting go of it (`link_settle`).  Hence between two happenings a live session is
open, the simulation is running, and a bridge that drains has left its session suspended
(`Coherent`, `coherent_follow`).
-/

namespace Cosimulation

set_option autoImplicit false

variable {σ : Type} [Host σ]

/-- What can happen to a bridge and its host. -/
inductive Happening (σ : Type) where
  | invoke (entry : EntryPoint)
  | bootstrap
  | register
  /-- Between two calls the host changes. -/
  | change (change : σ → σ)
  /-- Between two calls something happens on the channel of the live session. -/
  | channel (change : Channel → Channel)

namespace Run

/-- The run after something has happened. -/
def after (run : Run σ) : Happening σ → Run σ
  | .invoke entry => (run.invoke entry).2
  | .bootstrap => run.bootstrap.2
  | .register => run.registerCallbacks.2
  | .change change => { run with host := change run.host }
  | .channel change => { run with bridge.link := run.bridge.link.mapChannel change }

/-- The run after everything that has happened. -/
def follow (run : Run σ) (happenings : List (Happening σ)) : Run σ :=
  happenings.foldl after run

/-! ## Printing and registering leave the session alone -/

@[simp] theorem bridge_inform (run : Run σ) (line : String) :
    (run.inform line).bridge = run.bridge := by
  unfold inform
  split <;> rfl

@[simp] theorem bridge_report (run : Run σ) (message : String) :
    (run.report message).bridge = run.bridge :=
  rfl

/-- Registering changes the ledger and the host. -/
theorem register_eq (run : Run σ) (trigger : Trigger) (entry : EntryPoint) :
    ∃ ledger host, (run.register trigger entry).2 = ⟨{ run.bridge with ledger }, host⟩ :=
  ⟨_, _, rfl⟩

/-- The host is asked for the registration and for nothing else. -/
theorem host_register (run : Run σ) (trigger : Trigger) (entry : EntryPoint) :
    (run.register trigger entry).2.host = (Scheduler.register run.host ⟨trigger, entry⟩).2 := by
  unfold register Ledger.register
  cases Scheduler.register run.host ⟨trigger, entry⟩ with
  | mk result host => cases result <;> rfl

theorem registerAll_eq (run : Run σ) (bindings : List (Trigger × EntryPoint)) :
    ∃ ledger host, (run.registerAll bindings).2 = ⟨{ run.bridge with ledger }, host⟩ := by
  induction bindings generalizing run with
  | nil => exact ⟨run.bridge.ledger, run.host, rfl⟩
  | cons binding bindings ih =>
    obtain ⟨trigger, entry⟩ := binding
    obtain ⟨ledger, host, registered⟩ := run.register_eq trigger entry
    unfold registerAll
    split
    · rename_i found
      rw [found] at registered
      exact ⟨ledger, host, registered⟩
    · rename_i next found
      rw [found] at registered
      dsimp only at registered
      subst registered
      exact ih _

/-- Registering what a bridge registers when it is loaded. -/
theorem registerCallbacks_eq (run : Run σ) :
    ∃ ledger host, run.registerCallbacks.2 = ⟨{ run.bridge with ledger }, host⟩ :=
  run.registerAll_eq _

/-! ## Entry points that serve -/

omit [Host σ] in
/-- A link is live, with a session, or there is none. -/
theorem live_or_idle (run : Run σ) :
    (∃ dispatcher connection, run.bridge.link = .live dispatcher connection) ∨
      run.bridge.session? = none := by
  unfold Bridge.session?
  cases run.bridge.link with
  | unconnected => exact .inr rfl
  | live dispatcher connection => exact .inl ⟨dispatcher, connection, rfl⟩
  | released connection => exact .inr rfl

omit [Host σ] in
theorem session?_of_live {run : Run σ} {dispatcher : Dispatcher} {connection : Connection}
    (live : run.bridge.link = .live dispatcher connection) :
    run.bridge.session? = some dispatcher := by
  unfold Bridge.session?
  rw [live]
  rfl

/-- The run that has failed to connect. -/
def refused (run : Run σ) (error : ConnectError) (host : σ) : Run σ :=
  ((Run.mk { run.bridge with phase := .running } host).report error.toError.message).inform
    "couldn't connect to the controller"

/-- The run that has just connected. -/
def greeted (run : Run σ) (connection : Connection) (host : σ) : Run σ :=
  let told := (Run.mk { run.bridge with phase := .running } host).inform
    s!"connected to controller at {connection.peer}"
  { told with bridge.link := .live (.start run.bridge.configuration.frameLimit) connection }

/-- Failing to connect starts the simulation and leaves everything else of the bridge alone. -/
@[simp] theorem bridge_refused (run : Run σ) (error : ConnectError) (host : σ) :
    (run.refused error host).bridge = { run.bridge with phase := .running } := by
  simp [refused]

/-- Connecting starts the simulation with a session that has just begun. -/
@[simp] theorem bridge_greeted (run : Run σ) (connection : Connection) (host : σ) :
    (run.greeted connection host).bridge =
      { run.bridge with
        phase := .running
        link := .live (.start run.bridge.configuration.frameLimit) connection } := by
  simp [greeted]

/-- Connecting to the controller, as it is done at the start. -/
def dialled (run : Run σ) : Except ConnectError Connection × σ :=
  Connection.establish run.host (run.bridge.configuration.socketPath run.bridge.invocation)
    run.bridge.configuration.socketOption run.bridge.configuration.frameLimit

/-- How connecting goes: there is no path, or the host dials it and is refused or gets a channel. -/
theorem dialled_cases (run : Run σ) :
    (∃ option, run.dialled = (.error (.missingPath option), run.host)) ∨
    (∃ path fault host, Network.dial run.host path = (.error fault, host) ∧
      run.dialled = (.error (.ofFault path fault), host)) ∨
    (∃ path channel host, Network.dial run.host path = (.ok channel, host) ∧
      run.dialled = (.ok (.ofChannel channel path run.bridge.configuration.frameLimit), host)) := by
  unfold dialled Connection.establish
  split
  · exact .inl ⟨_, rfl⟩
  · rename_i path _
    split
    · exact .inl ⟨_, rfl⟩
    · cases dials : Network.dial run.host path with
      | mk result host =>
        cases result with
        | error fault => exact .inr (.inl ⟨path, fault, host, dials, rfl⟩)
        | ok channel => exact .inr (.inr ⟨path, channel, host, dials, rfl⟩)

/-- The run on which an entry point takes turns, if it takes any, and whether the first of them
resumes the session. -/
def engaged (run : Run σ) : EntryPoint → Option (Bool × Run σ)
  | .startup =>
    if run.bridge.phase = .loaded then
      match run.dialled with
      | (.ok connection, host) => some (false, run.greeted connection host)
      | (.error _, _) => none
    else none
  | .shutdown => none
  | .service => if run.bridge.session? = none then none else some (false, run)
  | .resume => if run.bridge.session? = none then none else some (true, run)

/-- With a live session, service and delays take turns on it. -/
theorem engaged_of_live {run : Run σ} {dispatcher : Dispatcher}
    (live : run.bridge.session? = some dispatcher) (resuming : Bool) :
    run.engaged (if resuming then .resume else .service) = some (resuming, run) := by
  have lives : run.bridge.session? ≠ none := by
    rw [live]
    exact Option.some_ne_none dispatcher
  cases resuming <;> exact if_neg lives

/-- Starting again does nothing. -/
theorem start_of_started {run : Run σ} (started : run.bridge.phase ≠ .loaded) :
    run.start = (.success, run) :=
  if_neg started

/-- Failing to connect is reported. -/
theorem start_of_refused {run : Run σ} (loaded : run.bridge.phase = .loaded) {error : ConnectError}
    {host : σ} (dialled : run.dialled = (.error error, host)) :
    run.start = (.fatal, run.refused error host) := by
  unfold Run.dialled at dialled
  unfold start
  simp only [loaded, if_true, dialled]
  rfl

/-- Having connected, the bridge takes turns. -/
theorem start_of_dialled {run : Run σ} (loaded : run.bridge.phase = .loaded)
    {connection : Connection} {host : σ} (dialled : run.dialled = (.ok connection, host)) :
    run.start = (run.greeted connection host).pump false := by
  unfold Run.dialled at dialled
  unfold start
  simp only [loaded, if_true, dialled]
  rfl

/-- **The start**: nothing when it is repeated, failing to connect, or connecting and taking turns. -/
theorem start_cases (run : Run σ) :
    (run.bridge.phase ≠ .loaded ∧ run.engaged .startup = none ∧ run.start = (.success, run)) ∨
    (run.bridge.phase = .loaded ∧ ∃ error host, run.dialled = (.error error, host) ∧
      run.engaged .startup = none ∧ run.start = (.fatal, run.refused error host)) ∨
    (run.bridge.phase = .loaded ∧ ∃ connection host, run.dialled = (.ok connection, host) ∧
      run.engaged .startup = some (false, run.greeted connection host) ∧
      run.start = (run.greeted connection host).pump false) := by
  by_cases loaded : run.bridge.phase = .loaded
  · cases dialling : run.dialled with
    | mk result host =>
      cases result with
      | error error =>
        exact .inr (.inl ⟨loaded, error, host, rfl, by simp only [engaged, loaded, if_true, dialling],
          start_of_refused loaded dialling⟩)
      | ok connection =>
        exact .inr (.inr ⟨loaded, connection, host, rfl,
          by simp only [engaged, loaded, if_true, dialling], start_of_dialled loaded dialling⟩)
  · exact .inl ⟨loaded, if_neg loaded, start_of_started loaded⟩

/-- Turns are taken on the session that is live, or on the one that the start has established. -/
theorem engaged_cases {run serving : Run σ} {entry : EntryPoint} {resuming : Bool}
    (engaged : run.engaged entry = some (resuming, serving)) :
    (entry = .startup ∧ resuming = false ∧ run.bridge.phase = .loaded ∧ ∃ connection host,
      run.dialled = (.ok connection, host) ∧ serving = run.greeted connection host) ∨
    (entry = (if resuming then .resume else .service) ∧ run.bridge.session? ≠ none ∧
      serving = run) := by
  cases entry with
  | startup =>
    rcases run.start_cases with ⟨_, unengaged, _⟩ | ⟨_, _, _, _, unengaged, _⟩ |
      ⟨loaded, connection, host, dialled, engages, _⟩
    · cases unengaged.symm.trans engaged
    · cases unengaged.symm.trans engaged
    · cases engages.symm.trans engaged
      exact .inl ⟨rfl, rfl, loaded, connection, host, dialled, rfl⟩
  | shutdown => cases engaged
  | service =>
    by_cases idle : run.bridge.session? = none
    · cases (if_pos idle).symm.trans engaged
    · cases (if_neg idle).symm.trans engaged
      exact .inr ⟨rfl, idle, rfl⟩
  | resume =>
    by_cases idle : run.bridge.session? = none
    · cases (if_pos idle).symm.trans engaged
    · cases (if_neg idle).symm.trans engaged
      exact .inr ⟨rfl, idle, rfl⟩

/-- The run of a simulation that has ended, with the session as shutting it down has left it. -/
def concluded (run : Run σ) (last : Exchange σ) : Run σ :=
  ⟨{ run.bridge with
      phase := .ended
      link := .released last.connection.close
      lastClose := last.dispatcher.closeReason }, last.simulator⟩

/-- **The end**: nothing when it is repeated, and otherwise a live session is shut down. -/
theorem conclude_cases (run : Run σ) :
    (run.bridge.phase = .ended ∧ run.conclude = (.success, run)) ∨
    (run.bridge.phase ≠ .ended ∧ run.bridge.session? = none ∧
      run.conclude = (.success, { run with bridge.phase := .ended })) ∨
    (run.bridge.phase ≠ .ended ∧ ∃ dispatcher connection,
      run.bridge.link = .live dispatcher connection ∧
      run.conclude =
        (.success, run.concluded (Exchange.mk dispatcher connection run.host).shutdown)) := by
  by_cases ended : run.bridge.phase = .ended
  · exact .inl ⟨ended, if_pos ended⟩
  · refine .inr ?_
    unfold conclude
    rw [if_neg ended]
    rcases run.live_or_idle with ⟨dispatcher, connection, live⟩ | idle
    · refine .inr ⟨ended, dispatcher, connection, live, ?_⟩
      simp only [live]
      rfl
    · refine .inl ⟨ended, idle, ?_⟩
      dsimp only
      split
      · rename_i found
        simp only [Bridge.session?, found, Link.session?] at idle
        cases idle
      · rfl

/-- Starting at once: the registration is rejected, or the start follows it. -/
theorem bootstrap_cases (run : Run σ) :
    (∃ error host, Scheduler.register run.host ⟨.endOfSimulation, .shutdown⟩ = (.error error, host) ∧
      run.bootstrap = (.fatal, report { run with host } (Error.configuration error).message)) ∨
    (∃ ledger host, Scheduler.register run.host ⟨.endOfSimulation, .shutdown⟩ = (.ok (), host) ∧
      run.bootstrap = (Run.mk { run.bridge with ledger } host).start) := by
  unfold bootstrap register Ledger.register
  cases registering : Scheduler.register run.host ⟨.endOfSimulation, .shutdown⟩ with
  | mk result host =>
    cases result with
    | ok => exact .inr ⟨_, host, rfl, rfl⟩
    | error error => exact .inl ⟨error, host, rfl, rfl⟩

/-! ## Taking turns -/

section Turns

variable {run : Run σ} {dispatcher : Dispatcher} {connection : Connection}

/-- Turns are taken on the live session and then settled. -/
theorem pump_of_live (live : run.bridge.link = .live dispatcher connection) (resuming : Bool) :
    let turn := turns run.bridge.configuration.mode resuming ⟨dispatcher, connection, run.host⟩
    run.pump resuming = (run.restore turn.2).settle turn.1 := by
  unfold pump
  rw [live]

/-- Without a session no turn is taken. -/
theorem pump_of_idle (idle : run.bridge.session? = none) (resuming : Bool) :
    run.pump resuming = (.success, run) := by
  unfold pump
  split
  · rename_i found
    simp only [Bridge.session?, found, Link.session?] at idle
    cases idle
  · rfl

/-- How a call of an entry point goes. -/
inductive Goes (run : Run σ) (entry : EntryPoint) : HostStatus × Run σ → Prop where
  /-- Turns are taken on a live session. -/
  | serves {resuming : Bool} {serving : Run σ} {dispatcher : Dispatcher} {connection : Connection} :
      run.engaged entry = some (resuming, serving) →
      serving.bridge.link = .live dispatcher connection → Goes run entry (serving.pump resuming)
  /-- Connecting fails. -/
  | refused {error : ConnectError} {host : σ} :
      run.engaged entry = none → entry = .startup → run.bridge.phase = .loaded →
      run.dialled = (.error error, host) → Goes run entry (.fatal, run.refused error host)
  /-- The start or the end is repeated, or no session is live. -/
  | nothing : run.engaged entry = none →
      (entry = .startup → run.bridge.phase ≠ .loaded) → (entry = .shutdown → run.bridge.phase = .ended) →
      (entry ≠ .startup → entry ≠ .shutdown → run.bridge.session? = none) →
      Goes run entry (.success, run)
  /-- The simulation ends without a session. -/
  | ended : run.engaged entry = none → entry = .shutdown → run.bridge.session? = none →
      Goes run entry (.success, { run with bridge.phase := .ended })
  /-- The simulation ends and the session is shut down. -/
  | shut {dispatcher : Dispatcher} {connection : Connection} :
      run.engaged entry = none → entry = .shutdown → run.bridge.link = .live dispatcher connection →
      Goes run entry (.success, run.concluded (Exchange.mk dispatcher connection run.host).shutdown)

/-- An entry point that takes turns on the session that is live, if one is. -/
theorem goes_of_calling (run : Run σ) (entry : EntryPoint) (start : entry ≠ .startup)
    (stop : entry ≠ .shutdown) {resuming : Bool}
    (engaged : run.engaged entry = if run.bridge.session? = none then none else some (resuming, run)) :
    run.Goes entry (run.pump resuming) := by
  rcases run.live_or_idle with ⟨dispatcher, connection, live⟩ | idle
  · have lives : run.bridge.session? ≠ none := by
      rw [session?_of_live live]
      nofun
    exact .serves (engaged.trans (if_neg lives)) live
  · rw [run.pump_of_idle idle]
    exact .nothing (engaged.trans (if_pos idle)) (fun same => absurd same start)
      (fun same => absurd same stop) fun _ _ => idle

/-- **How a call goes**, for every entry point. -/
theorem goes_invoke (run : Run σ) (entry : EntryPoint) : run.Goes entry (run.invoke entry) := by
  cases entry with
  | startup =>
    rcases run.start_cases with ⟨started, unengaged, same⟩ |
      ⟨loaded, error, host, dialled, unengaged, same⟩ | ⟨_, connection, host, _, engaged, same⟩
    · rw [show run.invoke .startup = _ from same]
      exact .nothing unengaged (fun _ => started) nofun fun other => absurd rfl other
    · rw [show run.invoke .startup = _ from same]
      exact .refused unengaged rfl loaded dialled
    · rw [show run.invoke .startup = _ from same]
      exact .serves engaged rfl
  | shutdown =>
    rcases run.conclude_cases with
      ⟨ended, same⟩ | ⟨_, idle, same⟩ | ⟨_, dispatcher, connection, live, same⟩
    · rw [show run.invoke .shutdown = _ from same]
      exact .nothing rfl nofun (fun _ => ended) fun _ other => absurd rfl other
    · rw [show run.invoke .shutdown = _ from same]
      exact .ended rfl rfl idle
    · rw [show run.invoke .shutdown = _ from same]
      exact .shut rfl rfl live
  | service => exact run.goes_of_calling .service nofun nofun rfl
  | resume => exact run.goes_of_calling .resume nofun nofun rfl

/-- Turns are taken on a live session. -/
theorem live_of_engaged {run serving : Run σ} {entry : EntryPoint} {resuming : Bool}
    (engaged : run.engaged entry = some (resuming, serving)) :
    ∃ dispatcher connection, serving.bridge.link = .live dispatcher connection := by
  rcases engaged_cases engaged with ⟨_, _, _, _, _, _, rfl⟩ | ⟨_, lives, rfl⟩
  · exact ⟨_, _, rfl⟩
  · exact serving.live_or_idle.resolve_right lives

/-- An entry point that takes turns does nothing else. -/
theorem invoke_of_engaged {run serving : Run σ} {entry : EntryPoint} {resuming : Bool}
    (engaged : run.engaged entry = some (resuming, serving)) :
    run.invoke entry = serving.pump resuming := by
  have goes := run.goes_invoke entry
  generalize run.invoke entry = call at goes
  cases goes with
  | serves also =>
    cases also.symm.trans engaged
    rfl
  | refused unengaged => cases unengaged.symm.trans engaged
  | nothing unengaged => cases unengaged.symm.trans engaged
  | ended unengaged => cases unengaged.symm.trans engaged
  | shut unengaged => cases unengaged.symm.trans engaged

/-- The first turn of a callback. -/
def firstTurn (resuming : Bool) (exchange : Exchange σ) : Outcome × Exchange σ :=
  if resuming then exchange.resume else exchange.cycle

theorem firstTurn_false (exchange : Exchange σ) : firstTurn false exchange = exchange.cycle :=
  rfl

theorem turns_single (resuming : Bool) (exchange : Exchange σ) :
    turns .single resuming exchange = firstTurn resuming exchange :=
  rfl

/-- A first turn that serves no command is the only one. -/
theorem turns_of_stopped (mode : DispatchMode) {resuming : Bool} {exchange : Exchange σ}
    (stopped : (firstTurn resuming exchange).1 ≠ .served) :
    turns mode resuming exchange = firstTurn resuming exchange := by
  cases mode with
  | single => rfl
  | drain =>
    have first : (if resuming then exchange.resume else exchange.cycle) = firstTurn resuming exchange :=
      rfl
    unfold turns
    simp only [first]
    split
    · rename_i found
      exact absurd (congrArg Prod.fst found) stopped
    · rfl

/-- In drain mode a first turn that serves a command is followed by others. -/
theorem turns_drain_of_served {resuming : Bool} {exchange after : Exchange σ}
    (served : firstTurn resuming exchange = (.served, after)) :
    turns .drain resuming exchange = after.drain := by
  have first : (if resuming then exchange.resume else exchange.cycle) = (.served, after) := served
  unfold turns
  simp only [first]

/-- A first turn that serves a command takes a frame. -/
theorem frames_of_firstTurn {resuming : Bool} {exchange after : Exchange σ}
    (served : firstTurn resuming exchange = (.served, after)) :
    exchange.connection.channel.frames.length = after.connection.channel.frames.length + 1 := by
  unfold firstTurn at served
  split at served
  · exact Exchange.frames_of_resumed served
  · exact Exchange.frames_of_served served

/-- What the first turn leaves behind. -/
theorem leaves_firstTurn (resuming : Bool) (exchange : Exchange σ) :
    (firstTurn resuming exchange).1.Leaves (firstTurn resuming exchange).2.dispatcher := by
  unfold firstTurn
  split
  · exact exchange.leaves_resume
  · exact exchange.leaves_cycle

/-- **What the turns of a callback leave behind.** -/
theorem leaves_turns (mode : DispatchMode) (resuming : Bool) (exchange : Exchange σ) :
    (turns mode resuming exchange).1.Leaves (turns mode resuming exchange).2.dispatcher := by
  by_cases stopped : (firstTurn resuming exchange).1 = .served
  · cases mode with
    | single => exact leaves_firstTurn resuming exchange
    | drain =>
      rw [turns_drain_of_served (Prod.ext stopped rfl)]
      exact Exchange.leaves_drain _
  · rw [turns_of_stopped mode stopped]
    exact leaves_firstTurn resuming exchange

/-- In drain mode the last turn of a callback serves no command. -/
theorem stopped_turns_drain (resuming : Bool) (exchange : Exchange σ) :
    (turns .drain resuming exchange).1 ≠ .served := by
  by_cases stopped : (firstTurn resuming exchange).1 = .served
  · rw [turns_drain_of_served (Prod.ext stopped rfl)]
    exact Exchange.stopped_drain _
  · rwa [turns_of_stopped .drain stopped]

/-- **What the turns of a callback do to the simulator.** -/
theorem confined_turns {reaches : σ → σ → Prop} (confines : Simulator.Confines reaches)
    (mode : DispatchMode) (resuming : Bool) {exchange : Exchange σ}
    (opened : exchange.dispatcher.closeReason = none) :
    exchange.Confined reaches (turns mode resuming exchange) := by
  have first : exchange.Confined reaches (firstTurn resuming exchange) := by
    unfold firstTurn
    split
    · exact Exchange.confined_resume confines opened
    · exact Exchange.confined_cycle confines opened
  by_cases stopped : (firstTurn resuming exchange).1 = .served
  · cases mode with
    | single => exact first
    | drain =>
      have leaves := leaves_firstTurn resuming exchange
      rw [turns_drain_of_served (Prod.ext stopped rfl)]
      rw [stopped] at leaves
      exact .trans confines (first.reached (by rw [stopped]; nofun))
        (Exchange.confined_drain confines _ leaves.1)
  · rwa [turns_of_stopped mode stopped]

end Turns

/-! ## Settling -/

omit [Host σ] in
@[simp] theorem session?_dropSession (run : Run σ) : run.dropSession.bridge.session? = none := by
  rcases run.live_or_idle with ⟨dispatcher, connection, live⟩ | idle
  · unfold dropSession
    rw [live]
    rfl
  · unfold dropSession
    split
    · rfl
    · exact idle

omit [Host σ] in
@[simp] theorem host_dropSession (run : Run σ) : run.dropSession.host = run.host := by
  unfold dropSession
  split <;> rfl

/-- Shutting the session down leaves none. -/
@[simp] theorem session?_shutdownSession (run : Run σ) :
    run.shutdownSession.bridge.session? = none := by
  rcases run.live_or_idle with ⟨dispatcher, connection, live⟩ | idle
  · unfold shutdownSession
    rw [live]
    exact session?_dropSession _
  · unfold shutdownSession
    split
    · exact session?_dropSession _
    · exact idle

/-- How asking for a delay ends: it is accepted, or it is rejected and the session is let go. -/
theorem scheduleResume_cases (run : Run σ) (ticks : UInt64) :
    (∃ host, Scheduler.register run.host ⟨.afterDelay ticks, .resume⟩ = (.ok (), host) ∧
      run.scheduleResume ticks = (.success, { run with host })) ∨
    (∃ error host, Scheduler.register run.host ⟨.afterDelay ticks, .resume⟩ = (.error error, host) ∧
      let told := (report { run with host } (Error.configuration error).message).shutdownSession
      run.scheduleResume ticks = (.fatal, { told with host := Simulator.finish told.host })) := by
  unfold scheduleResume register Ledger.register
  cases registering : Scheduler.register run.host ⟨.afterDelay ticks, .resume⟩ with
  | mk result host =>
    cases result with
    | ok => exact .inl ⟨host, rfl, rfl⟩
    | error error => exact .inr ⟨error, host, rfl, rfl⟩

/-- Letting go of a session that was closed drops it and keeps the reason. -/
theorem bridge_endSession (run : Run σ) (reason : CloseReason) :
    (run.endSession reason).2.bridge = { run.dropSession.bridge with lastClose := some reason } := by
  have told : (run.dropSession.announce reason).2.bridge = run.dropSession.bridge := by
    unfold announce
    split <;> simp
  unfold endSession endUnlessFinished
  dsimp only
  split <;> rw [told]

/-- So it leaves none. -/
theorem session?_endSession (run : Run σ) (reason : CloseReason) :
    (run.endSession reason).2.bridge.session? = none := by
  rw [bridge_endSession]
  exact session?_dropSession run

/-- **Settling** lets the session live as the turns left it, or lets go of it. -/
theorem bridge_settle (run : Run σ) (outcome : Outcome) :
    ((∀ reason, outcome ≠ .closed reason) ∧ (run.settle outcome).2.bridge = run.bridge) ∨
      (run.settle outcome).2.bridge.session? = none := by
  cases outcome with
  | served => exact .inl ⟨nofun, rfl⟩
  | suspended => exact .inl ⟨nofun, rfl⟩
  | yielded ticks =>
    rcases run.scheduleResume_cases ticks with ⟨host, _, accepted⟩ | ⟨error, host, _, rejected⟩
    · exact .inl ⟨nofun, congrArg (·.2.bridge) accepted⟩
    · refine .inr ?_
      rw [show run.settle (.yielded ticks) = _ from rejected]
      exact session?_shutdownSession _
  | closed reason => exact .inr (run.session?_endSession reason)

omit [Host σ] in
theorem phase_dropSession (run : Run σ) : run.dropSession.bridge.phase = run.bridge.phase := by
  unfold dropSession
  split <;> rfl

theorem phase_shutdownSession (run : Run σ) :
    run.shutdownSession.bridge.phase = run.bridge.phase := by
  unfold shutdownSession
  split
  · exact phase_dropSession _
  · rfl

/-- Settling is no matter of how far the simulation has come. -/
theorem phase_settle (run : Run σ) (outcome : Outcome) :
    (run.settle outcome).2.bridge.phase = run.bridge.phase := by
  cases outcome with
  | served => rfl
  | suspended => rfl
  | yielded ticks =>
    rcases run.scheduleResume_cases ticks with ⟨host, _, accepted⟩ | ⟨error, host, _, rejected⟩
    · rw [show run.settle (.yielded ticks) = _ from accepted]
    · rw [show run.settle (.yielded ticks) = _ from rejected]
      exact phase_shutdownSession _
  | closed reason =>
    show (run.endSession reason).2.bridge.phase = _
    rw [bridge_endSession]
    exact phase_dropSession run

end Run

/-! ## What holds between two happenings -/

/-- What holds of a bridge between two happenings: a live session is open, the simulation is running,
and a bridge that drains has left its session suspended. -/
structure Bridge.Coherent (bridge : Bridge) : Prop where
  opened : ∀ dispatcher, bridge.session? = some dispatcher → dispatcher.closeReason = none
  running : ∀ dispatcher, bridge.session? = some dispatcher → bridge.phase = .running
  drained : bridge.configuration.mode = .drain →
    ∀ dispatcher, bridge.session? = some dispatcher → dispatcher.pending ≠ none

namespace Bridge.Coherent

/-- A bridge without a session is coherent. -/
theorem of_idle {bridge : Bridge} (idle : bridge.session? = none) : bridge.Coherent where
  opened _ live := by cases idle.symm.trans live
  running _ live := by cases idle.symm.trans live
  drained _ _ live := by cases idle.symm.trans live

/-- A simulation that does not run has no session. -/
theorem idle {bridge : Bridge} (coherent : bridge.Coherent) (still : bridge.phase ≠ .running) :
    bridge.session? = none :=
  Option.eq_none_iff_forall_ne_some.2 fun dispatcher live =>
    still (coherent.running dispatcher live)

/-- Whether a bridge is coherent depends on its mode, its phase and its session. -/
theorem of_same {bridge other : Bridge} (coherent : bridge.Coherent)
    (mode : other.configuration.mode = bridge.configuration.mode) (phase : other.phase = bridge.phase)
    (session : other.session? = bridge.session?) : other.Coherent where
  opened dispatcher live := coherent.opened dispatcher (session ▸ live)
  running dispatcher live := phase ▸ coherent.running dispatcher (session ▸ live)
  drained drains dispatcher live :=
    coherent.drained (mode ▸ drains) dispatcher (session ▸ live)

end Bridge.Coherent

/-- Changing the channel of a link keeps its session. -/
@[simp] theorem Link.session?_mapChannel (link : Link) (change : Channel → Channel) :
    (link.mapChannel change).session? = link.session? := by
  cases link <;> rfl

namespace Run

/-- **Taking turns on a live session leaves the bridge coherent.** -/
theorem coherent_pump_of_live {run : Run σ} {dispatcher : Dispatcher} {connection : Connection}
    (live : run.bridge.link = .live dispatcher connection) (running : run.bridge.phase = .running)
    (resuming : Bool) : (run.pump resuming).2.bridge.Coherent := by
  rw [run.pump_of_live live]
  have leaves := leaves_turns run.bridge.configuration.mode resuming
    ⟨dispatcher, connection, run.host⟩
  have stopped : run.bridge.configuration.mode = .drain →
      (turns run.bridge.configuration.mode resuming ⟨dispatcher, connection, run.host⟩).1 ≠ .served := by
    intro drains
    rw [drains]
    exact stopped_turns_drain _ _
  generalize turns run.bridge.configuration.mode resuming ⟨dispatcher, connection, run.host⟩ = turn
    at leaves stopped
  rcases (run.restore turn.2).bridge_settle turn.1 with ⟨goes, same⟩ | idle
  · rw [same]
    refine ⟨?_, fun _ _ => running, fun drains => ?_⟩
    · rintro _ ⟨⟩
      exact leaves.opened goes
    · rintro _ ⟨⟩
      exact leaves.suspended goes (stopped drains)
  · exact .of_idle idle

/-- A session on which turns are taken is open, and the simulation is running. -/
theorem opened_of_engaged {run serving : Run σ} (coherent : run.bridge.Coherent) {entry : EntryPoint}
    {resuming : Bool} (engaged : run.engaged entry = some (resuming, serving))
    {dispatcher : Dispatcher} {connection : Connection}
    (live : serving.bridge.link = .live dispatcher connection) :
    dispatcher.closeReason = none ∧ serving.bridge.phase = .running := by
  have session := session?_of_live live
  rcases engaged_cases engaged with ⟨_, _, _, connection, host, _, rfl⟩ | ⟨_, _, rfl⟩
  · cases session
    exact ⟨rfl, by simp⟩
  · exact ⟨coherent.opened dispatcher session, coherent.running dispatcher session⟩

/-- **Every entry point leaves the bridge coherent.** -/
theorem coherent_invoke {run : Run σ} (coherent : run.bridge.Coherent) (entry : EntryPoint) :
    (run.invoke entry).2.bridge.Coherent := by
  have goes := run.goes_invoke entry
  generalize run.invoke entry = call at goes
  cases goes with
  | serves engaged live =>
    exact coherent_pump_of_live live (opened_of_engaged coherent engaged live).2 _
  | refused _ _ loaded _ =>
    -- a bridge that is only loaded has no session that a failure to connect could spoil
    have idle : run.bridge.session? = none := coherent.idle (by rw [loaded]; nofun)
    exact .of_idle (by simpa [Bridge.session?] using idle)
  | nothing => exact coherent
  | ended _ _ idle => exact .of_idle idle
  | shut => exact .of_idle rfl

/-- As long as the simulation has not started, a call does nothing. -/
theorem unchanged_of_loaded {run : Run σ} (coherent : run.bridge.Coherent) {entry : EntryPoint}
    (loaded : (run.invoke entry).2.bridge.phase = .loaded) :
    run.engaged entry = none ∧ (run.invoke entry).2 = run := by
  have goes := run.goes_invoke entry
  generalize run.invoke entry = call at goes loaded
  cases goes with
  | serves engaged live =>
    rw [pump_of_live live, phase_settle] at loaded
    cases (opened_of_engaged coherent engaged live).2.symm.trans loaded
  | refused => simp at loaded
  | nothing unengaged => exact ⟨unengaged, rfl⟩
  | ended => cases loaded
  | shut => cases loaded

/-- **Whatever happens, the bridge stays coherent.** -/
theorem coherent_after {run : Run σ} (coherent : run.bridge.Coherent) (happening : Happening σ) :
    (run.after happening).bridge.Coherent := by
  cases happening with
  | invoke entry => exact coherent_invoke coherent entry
  | bootstrap =>
    rcases run.bootstrap_cases with ⟨error, host, _, same⟩ | ⟨ledger, host, _, same⟩
    · rw [show run.after .bootstrap = _ from congrArg Prod.snd same]
      exact coherent.of_same rfl rfl rfl
    · rw [show run.after .bootstrap = _ from congrArg Prod.snd same]
      have still : Bridge.Coherent { run.bridge with ledger } := coherent.of_same rfl rfl rfl
      exact coherent_invoke still .startup
  | register =>
    obtain ⟨ledger, host, registered⟩ := run.registerCallbacks_eq
    rw [show run.after .register = _ from registered]
    exact coherent.of_same rfl rfl rfl
  | change change => exact coherent.of_same rfl rfl rfl
  | channel change => exact coherent.of_same rfl rfl (Link.session?_mapChannel _ change)

theorem coherent_follow_of_coherent {run : Run σ} (coherent : run.bridge.Coherent)
    (happenings : List (Happening σ)) : (run.follow happenings).bridge.Coherent := by
  induction happenings generalizing run with
  | nil => exact coherent
  | cons happening happenings ih => exact ih (coherent_after coherent happening)

/-- **A bridge that has been loaded is coherent, whatever has happened since.** -/
theorem coherent_follow (configuration : Configuration) (invocation : Invocation) (host : σ)
    (happenings : List (Happening σ)) :
    ((Run.mk (.load configuration invocation) host).follow happenings).bridge.Coherent :=
  coherent_follow_of_coherent (.of_idle rfl) happenings

end Run

end Cosimulation
