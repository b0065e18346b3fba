import Cosimulation.Proofs.Bridge.Draining
import Cosimulation.Proofs.Bridge.Effects
import Cosimulation.Proofs.Bridge.Timeline
/-!
# What a call comes to

A call of a bridge makes progress in the conversation with the controller, and it may ask the host
for a delay.  The delays that are accepted in a call and the advance that the session is left waiting
with belong together (`Waits`): the host is asked for a delay in the very turn that leaves the session
suspended, and if it rejects the delay, the advance is answered and the session is let go
(`comes_settle`).

So there is one statement about every call (`Comes`): what it hears and answers, which delays the host
has accepted in it, and what the session waits for afterwards.  A call that takes turns on a session
has to find the earlier delay spent (`comes_of_engaged`); any other call leaves what waits as it is
or ends the conversation (`comes_of_unengaged`, `comes_of_suspended`).
-/

namespace Cosimulation

set_option autoImplicit false

/-! ## A host that accepts delays -/

/-- The host has accepted delays, in this order, and otherwise neither its clock nor its scheduler
has changed. -/
structure MemoryHost.Accepts (delays : List UInt64) (before after : MemoryHost) : Prop where
  time : after.simulator.time = before.simulator.time
  rejected : after.recorder.rejected = before.recorder.rejected
  log : after.recorder.log =
    before.recorder.log ++ delays.map fun ticks => ⟨.afterDelay ticks, .resume⟩

namespace MemoryHost.Accepts

theorem refl (host : MemoryHost) : Accepts [] host host :=
  ⟨rfl, rfl, (List.append_nil _).symm⟩

theorem trans {first second third : MemoryHost} {front back : List UInt64}
    (earlier : Accepts front first second) (later : Accepts back second third) :
    Accepts (front ++ back) first third where
  time := later.time.trans earlier.time
  rejected := later.rejected.trans earlier.rejected
  log := by rw [later.log, earlier.log, List.map_append, List.append_assoc]

/-- A host whose clock and scheduler are the same has accepted nothing. -/
theorem of_same {before after : MemoryHost} (time : after.simulator.time = before.simulator.time)
    (recorder : after.recorder = before.recorder) : Accepts [] before after :=
  ⟨time, congrArg Recorder.rejected recorder,
    (congrArg Recorder.log recorder).trans (List.append_nil _).symm⟩

/-- The delays are those that are found in the log. -/
theorem accepted_eq {before after : Run MemoryHost} {delays : List UInt64}
    (accepts : Accepts delays before.host after.host) : Timeline.accepted before after = delays := by
  unfold Timeline.accepted
  rw [accepts.log, List.drop_left, List.filterMap_map, List.map_filterMap]
  exact List.filterMap_some

end MemoryHost.Accepts

/-- No call but registering lets time pass or accepts a delay. -/
theorem MemoryHost.confines_accepts : Host.Confines (MemoryHost.Accepts []) where
  refl := Accepts.refl
  trans := Accepts.trans
  lookup host path := by
    refine .of_same ?_ rfl
    show (host.simulator.lookup path).2.time = _
    unfold MemorySimulator.lookup
    split <;> rfl
  read _ _ _ := .of_same rfl rfl
  write host reference path value mode := by
    refine .of_same ?_ rfl
    show (host.simulator.write reference path value mode).2.time = _
    unfold MemorySimulator.write
    split <;> rfl
  release host reference path := by
    refine .of_same ?_ rfl
    show (host.simulator.release reference path).2.time = _
    unfold MemorySimulator.release
    split <;> rfl
  time _ := .of_same rfl rfl
  print _ _ := .of_same rfl rfl
  finish _ := .of_same rfl rfl
  alert _ _ := .of_same rfl rfl

/-- A delay is accepted, unless it is among the triggers that the host rejects. -/
theorem MemoryHost.register_delay {host after : MemoryHost} {ticks : UInt64}
    {result : Except ConfigurationError Unit}
    (registered : Scheduler.register host ⟨.afterDelay ticks, .resume⟩ = (result, after)) :
    match result with
    | .ok () => Accepts [ticks] host after
    | .error _ => .afterDelay ticks ∈ host.recorder.rejected ∧ after = host := by
  have recorded : host.onRecorder (·.register ⟨.afterDelay ticks, .resume⟩) = (result, after) :=
    registered
  unfold onRecorder Recorder.register at recorded
  by_cases rejects : .afterDelay ticks ∈ host.recorder.rejected
  · simp only [rejects, if_true] at recorded
    cases recorded
    exact ⟨rejects, rfl⟩
  · simp only [rejects, if_false] at recorded
    cases recorded
    exact ⟨rfl, rfl, rfl⟩

namespace Run

/-! ## The conversation of a bridge -/

section Speech

variable {σ : Type}

/-- The conversation of a bridge: that of its live session, or one that is over. -/
def speech (run : Run σ) : Speech :=
  match run.bridge.link with
  | .live dispatcher connection => (Exchange.mk dispatcher connection run.host).speech
  | link => ⟨link.written, [], False⟩

theorem written_speech (run : Run σ) : run.speech.written = run.bridge.link.written := by
  unfold speech
  split
  · rename_i live
    rw [live]
    rfl
  · rfl

/-- Without a session the conversation is over. -/
theorem over_of_idle {run : Run σ} (idle : run.bridge.session? = none) : ¬run.speech.GoesOn := by
  unfold speech
  split
  · rename_i live
    cases (session?_of_live live).symm.trans idle
  · exact id

/-- A live session owes the advance that waits. -/
theorem owed_speech {run : Run σ} {dispatcher : Dispatcher}
    (live : run.bridge.session? = some dispatcher) : run.speech.owed = dispatcher.owed := by
  rcases run.live_or_idle with ⟨found, connection, link⟩ | idle
  · cases (session?_of_live link).symm.trans live
    unfold speech
    rw [link]
    rfl
  · cases idle.symm.trans live

/-- A conversation that goes on is that of a live session. -/
theorem live_of_goesOn {run : Run σ} (goesOn : run.speech.GoesOn) :
    ∃ dispatcher, run.bridge.session? = some dispatcher :=
  Option.ne_none_iff_exists'.1 fun idle => over_of_idle idle goesOn

/-- Letting go of the session says nothing. -/
theorem written_dropSession (run : Run σ) :
    run.dropSession.bridge.link.written = run.bridge.link.written := by
  unfold dropSession
  split
  · rename_i dispatcher connection live
    rw [live]
    exact Connection.written_close connection
  · rfl

end Speech

/-! ## Turns -/

section Turns

variable {σ : Type} [Host σ] {exchange : Exchange σ}

/-- Turns are not taken in vain: on a session that is ready, or is resumed, they do not end with the
session as it was. -/
theorem ne_suspended_turns (mode : DispatchMode) {resuming : Bool}
    (opened : exchange.dispatcher.closeReason = none)
    (ready : resuming = false → exchange.dispatcher.pending = none) :
    (turns mode resuming exchange).1 ≠ .suspended := by
  have first : (firstTurn resuming exchange).1 ≠ .suspended := by
    cases resuming with
    | false => exact Exchange.ne_suspended_cycle opened (ready rfl)
    | true => exact Exchange.ne_suspended_resume opened
  by_cases served : (firstTurn resuming exchange).1 = .served
  · cases mode with
    | single => exact first
    | drain =>
      have leaves := leaves_firstTurn resuming exchange
      rw [turns_drain_of_served (Prod.ext served rfl)]
      rw [served] at leaves
      exact Exchange.ne_suspended_drain leaves.1 leaves.2
  · rwa [turns_of_stopped mode served]

omit [Host σ] in
/-- The turns of a call are one turn and then cycles. -/
theorem turnEvents_eq (mode : DispatchMode) (resuming : Bool) (exchange : Exchange σ) :
    ∃ count, turnEvents mode resuming exchange =
      (if resuming then .resume else .cycle) :: List.replicate count .cycle := by
  cases mode with
  | single => exact ⟨0, rfl⟩
  | drain => exact ⟨_, rfl⟩

/-- **The turns of a call make progress**, and what is owed afterwards was heard in the call. -/
theorem progress_turns {call : Call} (mode : DispatchMode) {resuming : Bool}
    (opened : exchange.dispatcher.closeReason = none)
    (clock : (Simulator.time exchange.simulator).1 = call.clock)
    (ready : resuming = false → exchange.dispatcher.pending = none) {owed : List (During Command)}
    (owes : owed.map During.content = exchange.dispatcher.owed)
    (timely : ∀ asked ∈ owed, Timely asked (dueIn call asked)) :
    ∃ answered rest fragment, Progress call exchange.connection.channel.written owed
        (exchange.heard (turnEvents mode resuming exchange)) answered rest fragment
        (turns mode resuming exchange).2.speech ∧
      ((turns mode resuming exchange).2.speech.GoesOn → ∀ asked ∈ rest, asked.call = call) := by
  obtain ⟨count, events⟩ := turnEvents_eq mode resuming exchange
  rw [← run_turnEvents, events]
  cases resuming with
  | false =>
    have unowed : owed = [] :=
      List.map_eq_nil_iff.1 (owes.trans (Dispatcher.owed_of_ready (ready rfl)))
    obtain ⟨answered, rest, fragment, progress⟩ :=
      Exchange.progress_cycles opened (ready rfl) call (count + 1)
    exact ⟨answered, rest, fragment, unowed ▸ progress, fun _ => progress.call_of_rest⟩
  | true => exact Exchange.progress_resumed opened clock owes timely count

/-- The turns of a call let no time pass and ask for no delay. -/
theorem accepts_turns (mode : DispatchMode) (resuming : Bool) {exchange : Exchange MemoryHost}
    (opened : exchange.dispatcher.closeReason = none) :
    exchange.simulator.Accepts [] (turns mode resuming exchange).2.simulator := by
  obtain ⟨last, reached, same⟩ : exchange.Confined _ (turns mode resuming exchange) :=
    confined_turns MemoryHost.confines_accepts.toConfines mode resuming opened
  rw [same]
  split
  · exact reached.trans (MemoryHost.confines_accepts.finish last)
  · exact reached

end Turns

end Run

/-! ## Settling -/

/-- What a session waits for: nothing, or for the time of an advance to pass, which is the time of the
one delay that has not fired. -/
inductive Waits : Option PendingAdvance → List (During Command) → List Delay → Prop where
  | ready : Waits none [] []
  | suspended (advance : PendingAdvance) (call : Call) :
      Waits (some advance) [⟨call, advance.command⟩] [⟨advance.ticks, call.clock⟩]

namespace Waits

variable {dispatcher : Dispatcher} {owed : List (During Command)} {unfired : List Delay}

/-- What waits is what the session owes. -/
theorem owes (waits : Waits dispatcher.pending owed unfired) :
    owed.map During.content = dispatcher.owed := by
  unfold Dispatcher.owed
  generalize dispatcher.pending = pending at waits
  cases waits <;> rfl

/-- A session is suspended exactly if one delay has not fired. -/
theorem suspended_iff (waits : Waits dispatcher.pending owed unfired) :
    dispatcher.isSuspended = true ↔ unfired.length = 1 := by
  unfold Dispatcher.isSuspended
  generalize dispatcher.pending = pending at waits
  cases waits <;> simp

/-- That delay is the one of the advance that waits. -/
theorem ticks {pending : Option PendingAdvance} (waits : Waits pending owed unfired) :
    unfired.map Delay.ticks = (pending.map PendingAdvance.ticks).toList := by
  cases waits <;> rfl

/-- As many answers are owed as there are delays that have not fired. -/
theorem length {pending : Option PendingAdvance} (waits : Waits pending owed unfired) :
    owed.length = unfired.length := by
  cases waits <;> rfl

/-- For nothing, if no advance waits. -/
theorem nothing (waits : Waits dispatcher.pending owed unfired) (ready : dispatcher.pending = none) :
    owed = [] ∧ unfired = [] := by
  rw [ready] at waits
  cases waits
  exact ⟨rfl, rfl⟩

/-- A delay that has not fired is that of the advance that waits, and it is the only one. -/
theorem fires {pending : Option PendingAdvance} (waits : Waits pending owed unfired) {place : Nat}
    {delay : Delay} (found : unfired[place]? = some delay) :
    ∃ (advance : PendingAdvance) (call : Call), owed = [⟨call, advance.command⟩] ∧
      delay = ⟨advance.ticks, call.clock⟩ ∧ unfired.eraseIdx place = [] := by
  cases waits with
  | ready => cases found
  | suspended advance call =>
    cases place with
    | zero =>
      cases found
      exact ⟨advance, call, rfl, rfl, rfl⟩
    | succ place => cases found

/-- A session that is ready waits for nothing. -/
theorem of_ready (ready : dispatcher.pending = none)
    (owes : owed.map During.content = dispatcher.owed) : Waits dispatcher.pending owed [] := by
  have unowed : owed = [] := List.map_eq_nil_iff.1 (owes.trans (Dispatcher.owed_of_ready ready))
  rw [ready, unowed]
  exact .ready

/-- A session waits for the advance that it heard in a call. -/
theorem of_suspended {id : RequestId} {ticks : UInt64} {call : Call}
    (waiting : dispatcher.pending = some ⟨id, ticks⟩)
    (owes : owed.map During.content = dispatcher.owed) (fresh : ∀ asked ∈ owed, asked.call = call) :
    owed = [⟨call, id, .advance ticks⟩] ∧
      Waits dispatcher.pending owed [⟨ticks, call.clock⟩] := by
  rw [Dispatcher.owed, waiting] at owes
  obtain ⟨⟨_, command⟩, rfl, rfl⟩ := List.map_eq_singleton_iff.1 owes
  obtain rfl := fresh _ List.mem_cons_self
  rw [waiting]
  exact ⟨rfl, .suspended ⟨id, ticks⟩ _⟩

end Waits

/-- What a call comes to, when the bytes `begun` were written before, answers to `owed` were owed and
the delays `unfired` had not fired. -/
structure Comes (call : Call) (begun : List UInt8) (owed : List (During Command))
    (heard : List Command) (host : MemoryHost) (unfired : List Delay) (after : Run MemoryHost)
    (answered : List Response) (rest : List (During Command)) (delays : List UInt64) : Prop where
  progress : ∃ fragment, Progress call begun owed heard answered rest fragment after.speech
  accepts : host.Accepts delays after.host
  waits : ∀ dispatcher, after.bridge.session? = some dispatcher →
    Waits dispatcher.pending rest (unfired ++ delays.map (⟨·, call.clock⟩))

/-- A call may follow other things that the host does. -/
theorem Comes.behind {call : Call} {begun : List UInt8} {owed rest : List (During Command)}
    {heard : List Command} {host middle : MemoryHost} {unfired : List Delay}
    {after : Run MemoryHost} {answered : List Response} {delays : List UInt64}
    (comes : Comes call begun owed heard middle unfired after answered rest delays)
    (accepts : host.Accepts [] middle) :
    Comes call begun owed heard host unfired after answered rest delays :=
  ⟨comes.progress, accepts.trans comes.accepts, comes.waits⟩

namespace Run

variable {call : Call} {begun : List UInt8} {owed : List (During Command)} {heard : List Command}

/-! ### Registering -/

/-- Registering leaves the simulator of a host in memory alone. -/
theorem simulator_register (run : Run MemoryHost) (trigger : Trigger) (entry : EntryPoint) :
    (run.register trigger entry).2.host.simulator = run.host.simulator := by
  have kept : (Scheduler.register run.host ⟨trigger, entry⟩).2.simulator = run.host.simulator := rfl
  unfold register Ledger.register
  generalize Scheduler.register run.host ⟨trigger, entry⟩ = registered at kept
  obtain ⟨_ | _, host⟩ := registered <;> exact kept

theorem simulator_registerAll (run : Run MemoryHost) (bindings : List (Trigger × EntryPoint)) :
    (run.registerAll bindings).2.host.simulator = run.host.simulator := by
  induction bindings generalizing run with
  | nil => rfl
  | cons binding bindings ih =>
    obtain ⟨trigger, entry⟩ := binding
    have kept := run.simulator_register trigger entry
    unfold registerAll
    generalize run.register trigger entry = registered at kept
    obtain ⟨_ | _, next⟩ := registered
    · exact kept
    · exact (ih next).trans kept

/-! ### Ways to settle -/

/-- A session that goes on, with what it waits for. -/
theorem comes_live {exchange : Exchange MemoryHost} {answered : List Response}
    {rest : List (During Command)} {fragment : List UInt8} {run : Run MemoryHost}
    {delays : List UInt64}
    (progress : Progress call begun owed heard answered rest fragment exchange.speech)
    (link : run.bridge.link = .live exchange.dispatcher exchange.connection)
    (accepts : exchange.simulator.Accepts delays run.host)
    (waits : Waits exchange.dispatcher.pending rest (delays.map (⟨·, call.clock⟩))) :
    Comes call begun owed heard exchange.simulator [] run answered rest delays where
  progress := by
    refine ⟨fragment, ?_⟩
    unfold speech
    rw [link]
    exact progress
  accepts := accepts
  waits dispatcher live := by
    cases (session?_of_live link).symm.trans live
    exact waits

/-- A session that the bridge lets go of has said all that it says. -/
theorem comes_over {speech : Speech} {host : MemoryHost} {answered : List Response}
    {rest : List (During Command)} {fragment : List UInt8} (run : Run MemoryHost)
    (progress : Progress call begun owed heard answered rest fragment speech)
    (idle : run.bridge.session? = none) (written : run.bridge.link.written = speech.written)
    (accepts : host.Accepts [] run.host) (unfired : List Delay) :
    Comes call begun owed heard host unfired run answered rest [] where
  progress := ⟨fragment, progress.ended ((written_speech run).trans written) (over_of_idle idle)⟩
  accepts := accepts
  waits dispatcher live := by cases idle.symm.trans live

/-- A live session that the bridge shuts down answers the advance that waits. -/
theorem progress_shutdownSession {run : Run MemoryHost} {dispatcher : Dispatcher}
    {connection : Connection} (live : run.bridge.link = .live dispatcher connection)
    (opened : dispatcher.closeReason = none) (clock : run.host.simulator.time = call.clock)
    (owes : owed.map During.content = dispatcher.owed)
    (timely : ∀ asked ∈ owed, Timely asked (dueIn call asked)) :
    MemoryHost.Accepts [] run.host run.shutdownSession.host ∧
      ∃ answered rest fragment, Progress call connection.channel.written owed [] answered rest
        fragment run.shutdownSession.speech := by
  let exchange := Exchange.mk dispatcher connection run.host
  have shuts : run.shutdownSession = (run.restore exchange.shutdown).dropSession := by
    unfold shutdownSession
    rw [live]
  obtain ⟨answered, rest, fragment, progress⟩ :=
    exchange.progress_shutdown opened clock owes timely
  rw [shuts]
  refine ⟨shuts ▸ reached_shutdownSession MemoryHost.confines_accepts run, answered, rest, fragment,
    progress.ended ?_ (over_of_idle (session?_dropSession _))⟩
  rw [written_speech, written_dropSession]
  rfl

/-- **What settling comes to.**  A session that has just been suspended waits for the delay that the
host accepts; if the host rejects it, the advance is answered at once. -/
theorem comes_settle (run : Run MemoryHost) {exchange : Exchange MemoryHost} {outcome : Outcome}
    (leaves : outcome.Leaves exchange.dispatcher) (acts : outcome ≠ .suspended)
    (clock : exchange.simulator.simulator.time = call.clock)
    (rejected : exchange.simulator.recorder.rejected = call.rejected) {answered : List Response}
    {rest : List (During Command)} {fragment : List UInt8}
    (progress : Progress call begun owed heard answered rest fragment exchange.speech)
    (fresh : exchange.speech.GoesOn → ∀ asked ∈ rest, asked.call = call) :
    ∃ answered rest delays, Comes call begun owed heard exchange.simulator []
      ((run.restore exchange).settle outcome).2 answered rest delays := by
  cases outcome with
  | served =>
    obtain ⟨opened, ready⟩ := leaves
    exact ⟨_, _, [], comes_live progress rfl (.refl _)
      (.of_ready ready (progress.goesOn opened).1)⟩
  | suspended => exact absurd rfl acts
  | closed reason =>
    refine ⟨_, _, _, comes_over _ progress (session?_endSession _ reason) ?_
      (reached_endSession MemoryHost.confines_accepts (run.restore exchange) reason) []⟩
    show (((run.restore exchange).endSession reason).2.bridge).link.written = _
    rw [bridge_endSession]
    exact written_dropSession (run.restore exchange)
  | yielded ticks =>
    obtain ⟨opened, id, waiting⟩ := leaves
    obtain ⟨one, waits⟩ := Waits.of_suspended waiting (progress.goesOn opened).1 (fresh opened)
    rcases (run.restore exchange).scheduleResume_cases ticks with
      ⟨host, registered, settled⟩ | ⟨error, host, registered, settled⟩
    · have accepts : exchange.simulator.Accepts [ticks] host := MemoryHost.register_delay registered
      rw [show (run.restore exchange).settle (.yielded ticks) = _ from settled]
      exact ⟨answered, rest, [ticks], comes_live progress rfl accepts waits⟩
    · obtain ⟨rejects, rfl⟩ := MemoryHost.register_delay registered
      let told := report (run.restore exchange) (Error.configuration error).message
      have timely : ∀ asked ∈ rest, Timely asked (dueIn call asked) := by
        rw [one]
        rintro asked member
        obtain rfl := List.mem_singleton.1 member
        refine timely_dueIn fun also same => .inr (.inr ⟨rfl, ?_⟩)
        cases same
        exact rejected ▸ rejects
      obtain ⟨accepts, others, last, back, more⟩ :=
        @progress_shutdownSession call rest told exchange.dispatcher exchange.connection rfl opened
          clock (progress.goesOn opened).1 timely
      have whole := progress.trans opened more
      rw [List.append_nil] at whole
      let ended : Run MemoryHost :=
        { told.shutdownSession with host := Simulator.finish told.shutdownSession.host }
      have comes : Comes call begun owed heard exchange.simulator [] ended (answered ++ others) last
          [] :=
        comes_over ended whole (session?_shutdownSession told) (written_speech _).symm
          ((reached_report MemoryHost.confines_accepts (run.restore exchange) _).trans
            (accepts.trans (MemoryHost.confines_accepts.finish _))) []
      rw [show (run.restore exchange).settle (.yielded ticks) = _ from settled]
      exact ⟨_, _, _, comes⟩

/-! ## Calls -/

/-- **What taking turns comes to.** -/
theorem comes_pump {run : Run MemoryHost} {dispatcher : Dispatcher} {connection : Connection}
    (live : run.bridge.link = .live dispatcher connection) {resuming : Bool}
    (opened : dispatcher.closeReason = none) (ready : resuming = false → dispatcher.pending = none)
    (clock : run.host.simulator.time = call.clock)
    (rejected : run.host.recorder.rejected = call.rejected)
    (owes : owed.map During.content = dispatcher.owed)
    (timely : ∀ asked ∈ owed, Timely asked (dueIn call asked)) :
    let exchange := Exchange.mk dispatcher connection run.host
    ∃ answered rest delays, Comes call connection.channel.written owed
      (exchange.heard (turnEvents run.bridge.configuration.mode resuming exchange)) run.host []
      (run.pump resuming).2 answered rest delays := by
  intro exchange
  let mode := run.bridge.configuration.mode
  obtain ⟨answered, rest, fragment, progress, fresh⟩ :=
    @progress_turns _ _ exchange call mode resuming opened clock ready owed owes timely
  have reached : exchange.simulator.Accepts [] (turns mode resuming exchange).2.simulator :=
    accepts_turns mode resuming opened
  obtain ⟨others, last, delays, comes⟩ :=
    comes_settle run (leaves_turns mode resuming exchange)
      (ne_suspended_turns mode opened ready) (reached.time.trans clock)
      (reached.rejected.trans rejected) progress fresh
  rw [run.pump_of_live live]
  exact ⟨others, last, delays, comes.behind reached⟩

/-- Connecting changes nothing in a host in memory. -/
theorem host_of_dialled {run : Run MemoryHost} {result : Except ConnectError Connection}
    {host : MemoryHost} (dialled : run.dialled = (result, host)) : host = run.host := by
  rcases run.dialled_cases with ⟨_, same⟩ | ⟨_, _, _, dials, same⟩ | ⟨_, _, _, dials, same⟩ <;>
    cases same.symm.trans dialled
  · rfl
  · exact (congrArg Prod.snd dials).symm
  · exact (congrArg Prod.snd dials).symm

section Engaged

variable {σ : Type} [Host σ] {run serving : Run σ} {entry : EntryPoint} {resuming : Bool}

theorem writtenBefore_of_engaged (engaged : run.engaged entry = some (resuming, serving)) :
    run.writtenBefore entry = serving.bridge.link.written := by
  unfold writtenBefore
  rw [engaged]

theorem writtenBefore_of_unengaged (unengaged : run.engaged entry = none) :
    run.writtenBefore entry = run.bridge.link.written := by
  unfold writtenBefore
  rw [unengaged]

theorem decoded_of_engaged (engaged : run.engaged entry = some (resuming, serving))
    {dispatcher : Dispatcher} {connection : Connection}
    (live : serving.bridge.link = .live dispatcher connection) :
    let exchange := Exchange.mk dispatcher connection serving.host
    run.decoded entry =
      exchange.heard (turnEvents serving.bridge.configuration.mode resuming exchange) := by
  unfold decoded
  rw [engaged]
  simp only [live]

theorem decoded_of_unengaged (unengaged : run.engaged entry = none) : run.decoded entry = [] := by
  unfold decoded
  rw [unengaged]

end Engaged

/-- **What a call that takes turns comes to.** -/
theorem comes_of_engaged (call : Call) {run serving : Run MemoryHost} (coherent : run.bridge.Coherent)
    {resuming : Bool} (engaged : run.engaged call.entry = some (resuming, serving))
    (clock : run.host.simulator.time = call.clock)
    (rejected : run.host.recorder.rejected = call.rejected)
    (owes : ∀ dispatcher, serving.bridge.session? = some dispatcher →
      owed.map During.content = dispatcher.owed ∧ (resuming = false → dispatcher.pending = none))
    (timely : ∀ asked ∈ owed, Timely asked (dueIn call asked)) :
    ∃ answered rest delays, Comes call (run.writtenBefore call.entry) owed (run.decoded call.entry)
      run.host [] (run.invoke call.entry).2 answered rest delays := by
  obtain ⟨dispatcher, connection, live⟩ := live_of_engaged engaged
  obtain ⟨opened, _⟩ := opened_of_engaged coherent engaged live
  obtain ⟨owes, ready⟩ := owes dispatcher (session?_of_live live)
  have accepts : MemoryHost.Accepts [] run.host serving.host := by
    rcases engaged_cases engaged with ⟨_, _, _, connection, host, dialled, rfl⟩ | ⟨_, _, rfl⟩
    · obtain rfl := host_of_dialled dialled
      exact reached_greeted MemoryHost.confines_accepts run connection run.host
    · exact .refl _
  obtain ⟨answered, rest, delays, comes⟩ := comes_pump live opened ready
    (accepts.time.trans clock) (accepts.rejected.trans rejected) owes timely
  have begun : run.writtenBefore call.entry = connection.channel.written := by
    rw [writtenBefore_of_engaged engaged, live]
    rfl
  rw [begun, decoded_of_engaged engaged live, invoke_of_engaged engaged]
  exact ⟨answered, rest, delays, comes.behind accepts⟩

/-- A call that leaves the session as it is leaves what waits as it is. -/
theorem comes_of_same {host : MemoryHost} {unfired : List Delay} {run after : Run MemoryHost}
    (same : after.bridge.link = run.bridge.link) (accepts : host.Accepts [] after.host)
    (waits : ∀ dispatcher, run.bridge.session? = some dispatcher →
      Waits dispatcher.pending owed unfired) :
    Comes call run.bridge.link.written owed [] host unfired after [] owed [] := by
  have session : after.bridge.session? = run.bridge.session? := congrArg Link.session? same
  have silent : Progress call after.speech.written owed [] [] owed [] after.speech := by
    refine .refl fun goesOn => ?_
    obtain ⟨dispatcher, live⟩ := live_of_goesOn goesOn
    rw [owed_speech live]
    exact (waits dispatcher (session ▸ live)).owes
  rw [written_speech, same] at silent
  refine ⟨⟨[], silent⟩, accepts, fun dispatcher live => ?_⟩
  rw [List.map_nil, List.append_nil]
  exact waits dispatcher (session ▸ live)

/-- **What a call that takes no turns comes to**: nothing, or the end of the session, whose advance
is answered. -/
theorem comes_of_unengaged (call : Call) {run : Run MemoryHost} (coherent : run.bridge.Coherent)
    (unengaged : run.engaged call.entry = none) (clock : run.host.simulator.time = call.clock)
    {unfired : List Delay}
    (waits : ∀ dispatcher, run.bridge.session? = some dispatcher →
      Waits dispatcher.pending owed unfired) :
    ∃ answered rest delays, Comes call (run.writtenBefore call.entry) owed (run.decoded call.entry)
      run.host unfired (run.invoke call.entry).2 answered rest delays := by
  rw [writtenBefore_of_unengaged unengaged, decoded_of_unengaged unengaged]
  have goes := run.goes_invoke call.entry
  generalize run.invoke call.entry = after at goes
  cases goes with
  | serves engaged => cases unengaged.symm.trans engaged
  | @refused error host _ _ _ dialled =>
    obtain rfl := host_of_dialled dialled
    have same : (run.refused error run.host).bridge.link = run.bridge.link := by
      rw [bridge_refused]
    exact ⟨_, _, _, comes_of_same same
      (reached_refused MemoryHost.confines_accepts run error run.host) waits⟩
  | nothing => exact ⟨_, _, _, comes_of_same rfl (.refl _) waits⟩
  | ended => exact ⟨_, _, _, comes_of_same rfl (.refl _) waits⟩
  | @shut dispatcher connection _ ends live =>
    have session := session?_of_live live
    have timely : ∀ asked ∈ owed, Timely asked (dueIn call asked) :=
      fun asked _ => timely_dueIn fun _ _ => .inr (.inl ends)
    obtain ⟨answered, rest, fragment, progress⟩ :=
      (Exchange.mk dispatcher connection run.host).progress_shutdown
        (coherent.opened dispatcher session) clock (waits dispatcher session).owes timely
    have written : run.bridge.link.written = connection.channel.written := by
      rw [live]
      rfl
    rw [written]
    exact ⟨_, _, _, comes_over (run.concluded (Exchange.mk dispatcher connection run.host).shutdown)
      progress rfl (Connection.written_close _)
      (Exchange.reached_shutdown MemoryHost.confines_accepts.toConfines _) unfired⟩

/-- **What a call for service comes to while the session is suspended**: nothing. -/
theorem comes_of_suspended (call : Call) {run : Run MemoryHost} {dispatcher : Dispatcher}
    (coherent : run.bridge.Coherent) (live : run.bridge.session? = some dispatcher)
    (waiting : dispatcher.pending ≠ none) (serves : call.entry = .service) {unfired : List Delay}
    (waits : Waits dispatcher.pending owed unfired) :
    Comes call (run.writtenBefore call.entry) owed (run.decoded call.entry)
      run.host unfired (run.invoke call.entry).2 [] owed [] := by
  have only (other : Dispatcher) (also : run.bridge.session? = some other) : other = dispatcher :=
    Option.some.inj (also.symm.trans live)
  have engaged : run.engaged call.entry = some (false, run) := by
    rw [serves]
    exact engaged_of_live live false
  obtain ⟨found, connection, link⟩ := live_of_engaged engaged
  obtain rfl := only found (session?_of_live link)
  have heard : run.decoded call.entry = [] := by
    obtain ⟨count, events⟩ :=
      turnEvents_eq run.bridge.configuration.mode false ⟨found, connection, run.host⟩
    rw [decoded_of_engaged engaged link, events]
    exact (Exchange.run_cycles_of_resting (.inr waiting) (count + 1)).2
  have still : (run.invoke call.entry).2 = run := by
    rw [serves]
    exact congrArg Prod.snd (service_of_atRest (atRest_of_suspended coherent live waiting))
  rw [writtenBefore_of_engaged engaged, heard, still]
  exact comes_of_same rfl (.refl _) fun other also => only other also ▸ waits

/-! ## What is answered -/

/-- **The answers of a call are found in the bytes that it writes.** -/
theorem answered_of_comes (call : Call) {run : Run MemoryHost} {host : MemoryHost}
    {unfired : List Delay} {answered : List Response} {rest : List (During Command)}
    {delays : List UInt64}
    (comes : Comes call (run.writtenBefore call.entry) owed heard host unfired
      (run.invoke call.entry).2 answered rest delays) : run.answered call.entry = answered := by
  obtain ⟨fragment, progress⟩ := comes.progress
  have written := progress.written
  have frames : Response.frames answered = (answered.map Message.payload).flatMap Frame.enclose := by
    rw [List.flatMap_map]
    rfl
  have split : Frame.split (Response.frames answered ++ fragment) =
      (answered.map Message.payload, fragment) := by
    rw [frames, Frame.split_flatMap, Frame.split_of_none progress.cut, List.append_nil]
    intro payload member
    obtain ⟨response, also, rfl⟩ := List.mem_map.1 member
    exact progress.expressible response also
  rw [written_speech, List.append_assoc] at written
  unfold Run.answered
  rw [written, List.drop_left]
  dsimp only
  rw [split, List.filterMap_map]
  have reads : ((fun payload => (Message.decode payload : Except ProtocolError Response).toOption) ∘
      Message.payload) = some := by
    funext response
    exact congrArg Except.toOption response.decode_payload
  rw [reads]
  exact List.filterMap_some

end Run

end Cosimulation
