import Cosimulation.Bridge.Playback
import Cosimulation.Proofs.Bridge.Calls
import Cosimulation.Proofs.Bridge.Recording
/-!
# A played simulation comes to its end

A host that plays a simulation fires the delays that it has recorded, and otherwise calls for service,
for as many rounds as things can still arrive, and one.  That these are enough is not a matter of the
number alone: a call for service does nothing while an advance waits, and a delay that the bridge
did not wait for would be fired in vain.

So the record of the host has to agree with the session: what is recorded is the delay that the live
session waits for, and nothing if it waits for none (`Punctual`).  Then every round finds a session
that is ready, or is resumed, and the turns taken on it use up something of the connection unless
they close the session (`uses_turns`).  Hence every round leaves less outstanding and the record in
agreement (`Punctual.round`), and after as many rounds as there were things outstanding no session is
left (`Punctual.playsOut`).
-/

namespace Cosimulation

set_option autoImplicit false

/-! ## Turns use the connection up -/

namespace Exchange

variable {σ : Type}

/-- Whoever answers takes nothing from the connection. -/
theorem Responds.remaining {before after : Exchange σ} {due : Response} {operation : Operation}
    {result : Except CloseReason Unit} (responds : before.Responds due operation result after) :
    after.connection.remaining = before.connection.remaining := by
  cases responds with
  | sent _ wrote => exact congrArg Arrival.total wrote.arrivals
  | broke _ _ wrote => exact congrArg Arrival.total wrote.arrivals

/-- Reading a command takes something from the connection. -/
theorem remaining_of_upcoming {exchange : Exchange σ} {command : Command}
    (upcoming : exchange.upcoming? = some command) :
    exchange.connection.readFrame.2.remaining < exchange.connection.remaining := by
  unfold upcoming? at upcoming
  split at upcoming
  · split at upcoming
    · rename_i payload found
      exact Connection.remaining_readFrame_lt (Prod.ext found rfl)
    · cases upcoming
  · cases upcoming

/-- A turn uses the connection up: something is taken from it, unless the session is closed or was
waiting. -/
def Uses (before : Exchange σ) (turn : Outcome × Exchange σ) : Prop :=
  (∀ reason, turn.1 ≠ .closed reason) → turn.1 ≠ .suspended →
    turn.2.connection.remaining < before.connection.remaining

variable [Simulator σ]

theorem Turn.uses {before after : Exchange σ} {outcome : Outcome}
    (turn : before.Turn outcome after) : before.Uses (outcome, after) := by
  intro goes acts
  cases turn with
  | idle => exact absurd rfl (goes _)
  | suspended upcoming => exact remaining_of_upcoming upcoming
  | served upcoming _ _ responds =>
    exact Nat.lt_of_le_of_lt (Nat.le_of_eq responds.remaining) (remaining_of_upcoming upcoming)
  | broke => exact absurd rfl (goes _)
  | finished => exact absurd rfl (goes _)

theorem uses_cycle (exchange : Exchange σ) : exchange.Uses exchange.cycle := by
  cases closing : exchange.dispatcher.closeReason with
  | some reason =>
    rw [cycle_of_closed closing]
    exact fun goes _ => absurd rfl (goes reason)
  | none =>
    by_cases ready : exchange.dispatcher.pending = none
    · exact (cycle_turn closing ready).uses
    · rw [cycle_of_suspended closing ready]
      exact fun _ acts => absurd rfl acts

theorem uses_resume (exchange : Exchange σ) : exchange.Uses exchange.resume := by
  cases closing : exchange.dispatcher.closeReason with
  | some reason =>
    rw [resume_of_closed closing]
    exact fun goes _ => absurd rfl (goes reason)
  | none =>
    rcases resume_cases closing with ⟨_, same⟩ | ⟨_, _, ⟨after, responds, same⟩ | ⟨_, _, _, same⟩⟩
    · rw [same]
      exact exchange.uses_cycle
    · rw [same]
      intro goes acts
      exact Nat.lt_of_lt_of_le (after.uses_cycle goes acts) (Nat.le_of_eq responds.remaining)
    · rw [same]
      exact fun goes _ => absurd rfl (goes _)

theorem uses_drain (exchange : Exchange σ) : exchange.Uses exchange.drain := by
  induction exchange using drain_induction with
  | stopped exchange stopped =>
    rw [drain_of_stopped stopped]
    exact exchange.uses_cycle
  | served exchange after served ih =>
    rw [drain_of_served served]
    intro goes acts
    exact Nat.lt_trans (ih goes acts) (remaining_cycle_lt served)

end Exchange

namespace Run

/-- **The turns of a call use the connection up.** -/
theorem uses_turns {σ : Type} [Host σ] (mode : DispatchMode) (resuming : Bool)
    (exchange : Exchange σ) : exchange.Uses (turns mode resuming exchange) := by
  have first : exchange.Uses (firstTurn resuming exchange) := by
    cases resuming with
    | false => exact exchange.uses_cycle
    | true => exact exchange.uses_resume
  by_cases served : (firstTurn resuming exchange).1 = .served
  · cases mode with
    | single => exact first
    | drain =>
      rw [turns_drain_of_served (Prod.ext served rfl)]
      intro goes acts
      exact Nat.lt_trans (Exchange.uses_drain _ goes acts)
        (first (by rw [served]; nofun) (by rw [served]; nofun))
  · rwa [turns_of_stopped mode served]

/-! ## The record of the host -/

/-- The delays that the host has recorded and not yet taken out of its record. -/
def recorded (run : Run MemoryHost) : List (UInt64 × EntryPoint) :=
  Registration.delays run.host.recorder.log

/-- The delay that the live session waits for, if it waits for one. -/
def awaited (run : Run MemoryHost) : List (UInt64 × EntryPoint) :=
  ((run.bridge.session?.bind Dispatcher.pending).map fun advance =>
    (advance.ticks, EntryPoint.resume)).toList

/-- How much is outstanding: what can still arrive and one, as long as a session is live. -/
def outstanding (run : Run MemoryHost) : Nat :=
  match run.bridge.link with
  | .live _ connection => connection.remaining + 1
  | _ => 0

/-- What holds of a played run between two calls: the host has recorded the delay that the session
waits for, and no other. -/
structure Punctual (run : Run MemoryHost) : Prop where
  coherent : run.bridge.Coherent
  agrees : run.recorded = run.awaited

variable {run : Run MemoryHost}

theorem awaited_of_idle (idle : run.bridge.session? = none) : run.awaited = [] := by
  rw [awaited, idle]
  rfl

theorem awaited_of_live {dispatcher : Dispatcher} {connection : Connection}
    (live : run.bridge.link = .live dispatcher connection) :
    run.awaited =
      (dispatcher.pending.map fun advance => (advance.ticks, EntryPoint.resume)).toList := by
  rw [awaited, session?_of_live live]
  rfl

theorem outstanding_of_idle (idle : run.bridge.session? = none) : run.outstanding = 0 := by
  unfold outstanding
  split
  · rename_i live
    cases (session?_of_live live).symm.trans idle
  · rfl

theorem outstanding_of_live {dispatcher : Dispatcher} {connection : Connection}
    (live : run.bridge.link = .live dispatcher connection) :
    run.outstanding = connection.remaining + 1 := by
  rw [outstanding, live]

/-- The rounds that are played are as many as there are things outstanding, or more. -/
theorem outstanding_le (run : Run MemoryHost) : run.outstanding ≤ run.remaining + 1 := by
  unfold outstanding remaining
  cases run.bridge.link with
  | live dispatcher connection => exact Nat.le_refl _
  | unconnected => exact Nat.zero_le _
  | released connection => exact Nat.zero_le _

/-- What the host has accepted is recorded. -/
theorem recorded_of_accepts {after : Run MemoryHost} {delays : List UInt64}
    (accepts : run.host.Accepts delays after.host) :
    after.recorded = run.recorded ++ delays.map (·, .resume) := by
  have recorded : Registration.delays (delays.map fun ticks => ⟨.afterDelay ticks, .resume⟩) =
      delays.map (·, EntryPoint.resume) := by
    rw [Registration.delays, List.filterMap_map]
    exact congrFun (List.filterMap_eq_map (f := (·, EntryPoint.resume))) delays
  rw [Run.recorded, accepts.log, Registration.delays_append, recorded]
  rfl

/-- A host that has recorded nothing more than before agrees with a bridge that has no session. -/
theorem agrees_of_idle {after : Run MemoryHost} (idle : after.bridge.session? = none)
    (accepts : run.host.Accepts [] after.host) (unrecorded : run.recorded = []) :
    after.recorded = after.awaited := by
  rw [recorded_of_accepts accepts, unrecorded, awaited_of_idle idle]
  rfl

/-! ## Taking turns -/

/-- **Settling records the delay that the session is left waiting for.** -/
theorem agrees_settle {outcome : Outcome} {dispatcher : Dispatcher} {connection : Connection}
    (live : run.bridge.link = .live dispatcher connection) (leaves : outcome.Leaves dispatcher)
    (acts : outcome ≠ .suspended) (unrecorded : run.recorded = []) :
    (run.settle outcome).2.recorded = (run.settle outcome).2.awaited := by
  cases outcome with
  | served =>
    show run.recorded = run.awaited
    rw [unrecorded, awaited_of_live live, leaves.2]
    rfl
  | suspended => exact absurd rfl acts
  | closed reason =>
    exact agrees_of_idle (run.session?_endSession reason)
      (reached_endSession MemoryHost.confines_accepts run reason) unrecorded
  | yielded ticks =>
    obtain ⟨_, id, waiting⟩ := leaves
    rcases run.scheduleResume_cases ticks with
      ⟨host, registered, same⟩ | ⟨error, host, registered, same⟩
    · have accepts : run.host.Accepts [ticks] host := MemoryHost.register_delay registered
      have link : ({ run with host } : Run MemoryHost).bridge.link = .live dispatcher connection :=
        live
      rw [show run.settle (.yielded ticks) = _ from same, awaited_of_live link, waiting,
        @recorded_of_accepts run { run with host } [ticks] accepts, unrecorded]
      rfl
    · obtain ⟨_, rfl⟩ := MemoryHost.register_delay registered
      let told := report run (Error.configuration error).message
      let ended : Run MemoryHost :=
        { told.shutdownSession with host := Simulator.finish told.shutdownSession.host }
      have accepts : run.host.Accepts [] ended.host :=
        ((reached_report MemoryHost.confines_accepts run _).trans
          (reached_shutdownSession MemoryHost.confines_accepts told)).trans
            (MemoryHost.confines_accepts.finish _)
      rw [show run.settle (.yielded ticks) = (.fatal, ended) from same]
      exact agrees_of_idle (session?_shutdownSession told) accepts unrecorded

/-- **Taking turns on a session that is ready or is resumed** leaves the record in agreement with the
session, and less outstanding. -/
theorem punctual_pump {dispatcher : Dispatcher} {connection : Connection}
    (live : run.bridge.link = .live dispatcher connection) (running : run.bridge.phase = .running)
    (opened : dispatcher.closeReason = none) {resuming : Bool}
    (ready : resuming = false → dispatcher.pending = none) (unrecorded : run.recorded = []) :
    (run.pump resuming).2.Punctual ∧ (run.pump resuming).2.outstanding < run.outstanding := by
  let exchange := Exchange.mk dispatcher connection run.host
  let mode := run.bridge.configuration.mode
  have coherent := coherent_pump_of_live live running resuming
  have acts : (turns mode resuming exchange).1 ≠ .suspended := ne_suspended_turns mode opened ready
  have leaves := leaves_turns mode resuming exchange
  have uses := uses_turns mode resuming exchange
  have accepts : exchange.simulator.Accepts [] (turns mode resuming exchange).2.simulator :=
    accepts_turns mode resuming opened
  rw [run.pump_of_live live] at coherent ⊢
  generalize turns mode resuming exchange = turn at *
  have still : (run.restore turn.2).recorded = [] := by
    rw [@recorded_of_accepts run (run.restore turn.2) [] accepts, unrecorded]
    rfl
  refine ⟨⟨coherent, agrees_settle rfl leaves acts still⟩, ?_⟩
  rw [outstanding_of_live live]
  rcases (run.restore turn.2).bridge_settle turn.1 with ⟨goes, same⟩ | idle
  · rw [outstanding_of_live (congrArg Bridge.link same)]
    exact Nat.succ_lt_succ (uses goes acts)
  · rw [outstanding_of_idle idle]
    exact Nat.succ_pos _

/-! ## The calls that are made -/

/-- The run in which the time of a delay has passed and the recorded delays have been taken out. -/
def elapsed (run : Run MemoryHost) (ticks : UInt64) : Run MemoryHost :=
  { run with
    host.simulator := run.host.simulator.advance ticks
    host.recorder := run.host.recorder.takeDelays.2 }

/-- What is left of a run when some calls have been made in it, each with the status that it
answered. -/
inductive Plays : Run MemoryHost → Calls → Run MemoryHost → Prop where
  | nothing (run : Run MemoryHost) : Plays run [] run
  | call {run last : Run MemoryHost} {calls : Calls} {entry : EntryPoint} : entry ≠ .resume →
      Plays (run.invoke entry).2 calls last →
      Plays run ((entry, (run.invoke entry).1) :: calls) last
  /-- The one delay that is recorded fires when its time has passed. -/
  | fire {run last : Run MemoryHost} {calls : Calls} {ticks : UInt64} :
      run.recorded = [(ticks, .resume)] →
      Plays ((run.elapsed ticks).invoke .resume).2 calls last →
      Plays run ((.resume, ((run.elapsed ticks).invoke .resume).1) :: calls) last

namespace Plays

variable {first second third : Run MemoryHost} {front back : Calls}

theorem trans (earlier : first.Plays front second) (later : second.Plays back third) :
    first.Plays (front ++ back) third := by
  induction earlier with
  | nothing => exact later
  | call other _ ih => exact .call other (ih later)
  | fire recorded _ ih => exact .fire recorded (ih later)

/-- What is played is a run of the bridge, in which the entry points are called and the host changes. -/
theorem follow (plays : first.Plays front second) :
    ∃ happenings : List (Happening MemoryHost), second = first.follow happenings := by
  induction plays with
  | nothing => exact ⟨[], rfl⟩
  | @call _ _ _ entry _ _ ih =>
    obtain ⟨happenings, same⟩ := ih
    exact ⟨.invoke entry :: happenings, same⟩
  | @fire run _ _ ticks _ _ ih =>
    obtain ⟨happenings, same⟩ := ih
    exact ⟨.change (fun _ => (run.elapsed ticks).host) :: .invoke .resume :: happenings, same⟩

end Plays

/-! ## Rounds -/

/-- One round: the delays that are recorded are fired, or else a live session is called for service. -/
def round (run : Run MemoryHost) : Calls × Run MemoryHost :=
  match run.host.recorder.takeDelays with
  | ([], _) => if run.bridge.session?.isSome then run.noted .service else ([], run)
  | (delays, recorder) => fire delays { run with host.recorder := recorder }

/-- When no session is live and no delay is recorded, no round is played. -/
theorem rounds_of_over (idle : run.bridge.session? = none) (unrecorded : run.recorded = [])
    (count : Nat) : run.rounds count = ([], run) := by
  cases count with
  | zero => rfl
  | succ count =>
    have taken : run.host.recorder.takeDelays = ([], run.host.recorder.takeDelays.2) :=
      Prod.ext unrecorded rfl
    unfold rounds
    rw [taken, idle]
    rfl

/-- Rounds are played one after the other. -/
theorem rounds_succ (run : Run MemoryHost) (count : Nat) :
    run.rounds (count + 1) =
      (run.round.1 ++ (run.round.2.rounds count).1, (run.round.2.rounds count).2) := by
  rw [rounds]
  unfold round
  cases taken : run.host.recorder.takeDelays with
  | mk delays recorder =>
    cases delays with
    | nil =>
      cases live : run.bridge.session? with
      | some dispatcher => rfl
      | none =>
        show ([], run) = ([] ++ (run.rounds count).1, (run.rounds count).2)
        rw [rounds_of_over live (congrArg Prod.fst taken)]
        rfl
    | cons delay delays => rfl

namespace Punctual

/-- Without a session no delay is recorded. -/
theorem unrecorded (punctual : run.Punctual) (idle : run.bridge.session? = none) :
    run.recorded = [] :=
  punctual.agrees.trans (awaited_of_idle idle)

/-- **A round of a live session is one call**: a session that is ready is called for service, and one
that waits has its delay fired. -/
theorem round_cases (punctual : run.Punctual) {dispatcher : Dispatcher} {connection : Connection}
    (live : run.bridge.link = .live dispatcher connection) :
    (dispatcher.pending = none ∧ run.recorded = [] ∧ run.round = run.noted .service) ∨
    ∃ ticks, run.recorded = [(ticks, .resume)] ∧
      run.round = (run.elapsed ticks).noted .resume := by
  have agrees : run.recorded = _ := punctual.agrees.trans (awaited_of_live live)
  cases waiting : dispatcher.pending with
  | none =>
    rw [waiting] at agrees
    have taken : run.host.recorder.takeDelays = ([], run.host.recorder.takeDelays.2) :=
      Prod.ext agrees rfl
    refine .inl ⟨rfl, agrees, ?_⟩
    unfold round
    rw [taken, session?_of_live live]
    rfl
  | some advance =>
    rw [waiting] at agrees
    have taken : run.host.recorder.takeDelays =
        ([(advance.ticks, .resume)], run.host.recorder.takeDelays.2) := Prod.ext agrees rfl
    refine .inr ⟨advance.ticks, agrees, ?_⟩
    unfold round
    rw [taken]
    rfl

/-- **A round leaves less outstanding**, and the record in agreement with the session. -/
theorem round (punctual : run.Punctual) {dispatcher : Dispatcher} {connection : Connection}
    (live : run.bridge.link = .live dispatcher connection) :
    run.round.2.Punctual ∧ run.round.2.outstanding < run.outstanding ∧
      run.Plays run.round.1 run.round.2 ∧
      ∀ call ∈ run.round.1, call.1 = .service ∨ call.1 = .resume := by
  have session := session?_of_live live
  have running := punctual.coherent.running dispatcher session
  have opened := punctual.coherent.opened dispatcher session
  rcases punctual.round_cases live with ⟨ready, unrecorded, same⟩ | ⟨ticks, recorded, same⟩
  · obtain ⟨still, less⟩ := punctual_pump live running opened (fun _ => ready) unrecorded
    rw [same]
    refine ⟨still, less, .call nofun (.nothing _), fun call member => .inl ?_⟩
    obtain rfl := List.mem_singleton.1 member
    rfl
  · have unrecorded : (run.elapsed ticks).recorded = [] :=
      Registration.delays_permanent run.host.recorder.log
    obtain ⟨still, less⟩ := @punctual_pump (run.elapsed ticks) dispatcher connection live running
      opened true nofun unrecorded
    rw [same]
    refine ⟨still, less, .fire recorded (.nothing _), fun call member => .inr ?_⟩
    obtain rfl := List.mem_singleton.1 member
    rfl

end Punctual

/-- How a run is played out: with these calls, of which only so many are made as there are things
outstanding, and then no session is left and no delay recorded. -/
structure PlaysOut (run : Run MemoryHost) (calls : Calls) (last : Run MemoryHost) : Prop where
  enough : ∀ count, run.outstanding ≤ count → run.rounds count = (calls, last)
  idle : last.bridge.session? = none
  unrecorded : last.recorded = []
  serving : ∀ call ∈ calls, call.1 = .service ∨ call.1 = .resume
  plays : run.Plays calls last

/-- **A run whose host records what the session waits for is played out**, in no more rounds than
there are things outstanding. -/
theorem Punctual.playsOut (punctual : run.Punctual) :
    ∃ calls last, run.PlaysOut calls last := by
  induction size : run.outstanding using Nat.strong_induction_on generalizing run with
  | _ size ih =>
    subst size
    rcases run.live_or_idle with ⟨dispatcher, connection, live⟩ | idle
    · obtain ⟨still, less, plays, serving⟩ := punctual.round live
      obtain ⟨calls, last, out⟩ := ih _ less still rfl
      refine ⟨run.round.1 ++ calls, last, ?_, out.idle, out.unrecorded, ?_, plays.trans out.plays⟩
      · intro count enough
        obtain ⟨count, rfl⟩ := Nat.exists_eq_add_of_le' (show 1 ≤ count by omega)
        rw [rounds_succ, out.enough count (by omega)]
      · intro call member
        exact (List.mem_append.1 member).elim (serving call) (out.serving call)
    · have unrecorded := punctual.unrecorded idle
      exact ⟨[], run, fun count _ => rounds_of_over idle unrecorded count, idle, unrecorded, nofun,
        .nothing run⟩

/-! ## The whole simulation -/

/-- Registering what is not a delay leaves the recorded delays alone. -/
theorem recorded_register (run : Run MemoryHost) {trigger : Trigger} (lasting : ¬trigger.isDelay)
    (entry : EntryPoint) : (run.register trigger entry).2.recorded = run.recorded := by
  have undelayed : Registration.delays [⟨trigger, entry⟩] = [] := by
    cases trigger with
    | afterDelay ticks => exact absurd rfl lasting
    | _ => rfl
  rw [recorded, host_register]
  show Registration.delays (run.host.recorder.register ⟨trigger, entry⟩).2.log = run.recorded
  unfold Recorder.register
  split
  · rfl
  · rw [Registration.delays_append, undelayed]
    exact List.append_nil _

theorem recorded_registerAll (run : Run MemoryHost) {bindings : List (Trigger × EntryPoint)}
    (lasting : ∀ binding ∈ bindings, ¬binding.1.isDelay) :
    (run.registerAll bindings).2.recorded = run.recorded := by
  induction bindings generalizing run with
  | nil => rfl
  | cons binding bindings ih =>
    obtain ⟨trigger, entry⟩ := binding
    have kept := run.recorded_register (lasting _ List.mem_cons_self) entry
    unfold registerAll
    generalize run.register trigger entry = registered at kept
    obtain ⟨_ | _, next⟩ := registered
    · exact kept
    · exact (ih next fun other member => lasting other (List.mem_cons_of_mem _ member)).trans kept

/-- A bridge that has just been loaded, in a host that has recorded no delay, is ready to be played
when its entry points have been registered. -/
theorem punctual_load (configuration : Configuration) (invocation : Invocation) {host : MemoryHost}
    (unrecorded : Registration.delays host.recorder.log = []) :
    (Run.mk (.load configuration invocation) host).registerCallbacks.2.Punctual := by
  let loaded := Run.mk (.load configuration invocation) host
  have recorded : loaded.registerCallbacks.2.recorded = loaded.recorded :=
    loaded.recorded_registerAll (by simp [Trigger.isDelay])
  obtain ⟨ledger, last, registered⟩ := loaded.registerCallbacks_eq
  have idle : loaded.registerCallbacks.2.bridge.session? = none := by
    rw [registered]
    rfl
  refine ⟨.of_idle idle, ?_⟩
  rw [recorded, awaited_of_idle idle]
  exact unrecorded

/-- **The start leaves the record in agreement with the session.** -/
theorem Punctual.startup (punctual : run.Punctual) : (run.invoke .startup).2.Punctual := by
  have coherent := coherent_invoke punctual.coherent .startup
  refine ⟨coherent, ?_⟩
  have idle (loaded : run.bridge.phase = .loaded) : run.bridge.session? = none :=
    punctual.coherent.idle (by rw [loaded]; nofun)
  show run.start.2.recorded = run.start.2.awaited
  rcases run.start_cases with ⟨_, _, same⟩ | ⟨loaded, error, host, dialled, _, same⟩ |
    ⟨loaded, connection, host, dialled, _, same⟩
  · rw [same]
    exact punctual.agrees
  · obtain rfl := host_of_dialled dialled
    have still : (run.refused error run.host).bridge.session? = none := by
      rw [bridge_refused]
      exact idle loaded
    have accepts := reached_refused MemoryHost.confines_accepts run error run.host
    rw [same]
    exact agrees_of_idle still accepts (punctual.unrecorded (idle loaded))
  · obtain rfl := host_of_dialled dialled
    have accepts := reached_greeted MemoryHost.confines_accepts run connection run.host
    have running : (run.greeted connection run.host).bridge.phase = .running := by
      rw [bridge_greeted]
    have unrecorded : (run.greeted connection run.host).recorded = [] := by
      rw [recorded_of_accepts accepts, punctual.unrecorded (idle loaded)]
      rfl
    rw [same]
    exact (punctual_pump rfl running rfl (fun _ => rfl) unrecorded).1.agrees

/-- The end of a simulation without a session only marks it as ended. -/
theorem conclude_of_idle (idle : run.bridge.session? = none) :
    run.conclude = (.success, { run with bridge.phase := .ended }) := by
  rcases run.conclude_cases with ⟨ended, same⟩ | ⟨_, _, same⟩ | ⟨_, _, _, live, _⟩
  · rw [same, ← ended]
  · exact same
  · cases (session?_of_live live).symm.trans idle

/-- **A played simulation comes to its end**, whatever the bridge is configured to do and whatever
arrives from the controller, in a host that has recorded no delay before.  Between the start and the
end the host calls for service and fires delays, until no session is live and no delay is recorded: so
the end has nothing left to shut down, and more rounds would change nothing.  What is noted are the
calls that were made, each with its status, and a delay is fired only when it is recorded and its time
has passed.  So what is left is one of the runs of the bridge. -/
theorem play_ends (configuration : Configuration) (invocation : Invocation) {host : MemoryHost}
    (unrecorded : Registration.delays host.recorder.log = []) :
    let run := (Run.mk (.load configuration invocation) host).registerCallbacks.2
    let started := (run.invoke .startup).2
    ∃ between last, started.PlaysOut between last ∧
      run.play = ((.startup, (run.invoke .startup).1) :: between ++ [(.shutdown, .success)],
        { last with bridge.phase := .ended }) ∧
      run.Plays run.play.1 run.play.2 ∧
      ∃ happenings : List (Happening MemoryHost), run.play.2 = run.follow happenings := by
  intro run started
  have punctual : run.Punctual := punctual_load configuration invocation unrecorded
  obtain ⟨between, last, out⟩ := punctual.startup.playsOut
  have concluded : last.noted .shutdown =
      ([(.shutdown, .success)], { last with bridge.phase := .ended }) := by
    unfold noted
    rw [show last.invoke .shutdown = _ from conclude_of_idle out.idle]
  have played : run.play = ((.startup, (run.invoke .startup).1) :: between ++
      [(.shutdown, .success)], { last with bridge.phase := .ended }) := by
    have rounds : started.rounds (started.remaining + 1) = (between, last) :=
      out.enough _ started.outstanding_le
    unfold play
    rw [show run.noted .startup = ([(.startup, (run.invoke .startup).1)], started) from rfl]
    dsimp only
    rw [rounds, concluded]
    rfl
  have plays : run.Plays run.play.1 run.play.2 := by
    have ending : last.Plays (last.noted .shutdown).1 (last.noted .shutdown).2 :=
      .call nofun (.nothing _)
    rw [concluded] at ending
    rw [played]
    exact .call nofun (out.plays.trans ending)
  exact ⟨between, last, out, played, plays, plays.follow⟩

end Run

end Cosimulation
