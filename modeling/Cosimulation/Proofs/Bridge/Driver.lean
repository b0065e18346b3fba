import Cosimulation.Proofs.Bridge.Run
/-!
# Nobody is left without a driver

When its session is gone, nobody drives a simulation any more, so the bridge then has the run ended:
at the controller's wish, because the session was closed, or because a delay was rejected.  To say
that it does so just then, and once, a host is watched (`Watched`): besides being the host that it
is, it takes notice of every line printed to it, every error brought to its attention, and every
request to end the run.

The notices of a call are printed lines and, among them, one of four endings (`Ending`).  The ending
tells everything else: the status, whether the run was ended, and whether a session is left.
-/

namespace Cosimulation

set_option autoImplicit false

/-! ## A host that is watched -/

/-- What a host takes notice of. -/
inductive Notice where
  | printed (line : String)
  | alerted (message : String)
  | finished
  deriving DecidableEq, Repr

/-- The error that a notice brings to attention. -/
def Notice.alert? : Notice → Option String
  | .alerted message => some message
  | _ => none

/-- An error is among those brought to attention. -/
theorem Notice.alerted_mem_iff {message : String} {notices : List Notice} :
    .alerted message ∈ notices ↔ message ∈ notices.filterMap Notice.alert? := by
  rw [List.mem_filterMap]
  constructor
  · exact fun member => ⟨_, member, rfl⟩
  · rintro ⟨notice, member, brings⟩
    cases notice <;> cases brings
    exact member

/-- A host that takes notice of what is asked of it. -/
structure Watched (σ : Type) where
  host : σ
  notices : List Notice

namespace Watched

variable {σ : Type}

/-- A call that answers, as a call of the watched host. -/
def ask {α : Type} (watched : Watched σ) (call : σ → α × σ) : α × Watched σ :=
  ((call watched.host).1, { watched with host := (call watched.host).2 })

/-- A call of which notice is taken. -/
def note (watched : Watched σ) (call : σ → σ) (notice : Notice) : Watched σ :=
  ⟨call watched.host, watched.notices ++ [notice]⟩

instance [Simulator σ] : Simulator (Watched σ) where
  invocation watched := watched.ask Simulator.invocation
  lookup watched path := watched.ask (Simulator.lookup · path)
  read watched reference path := watched.ask (Simulator.read · reference path)
  write watched reference path value mode := watched.ask (Simulator.write · reference path value mode)
  release watched reference path := watched.ask (Simulator.release · reference path)
  time watched := watched.ask Simulator.time
  print watched line := watched.note (Simulator.print · line) (.printed line)
  finish watched := watched.note Simulator.finish .finished

instance [Scheduler σ] : Scheduler (Watched σ) where
  register watched registration := watched.ask (Scheduler.register · registration)

instance [Network σ] : Network (Watched σ) where
  dial watched path := watched.ask (Network.dial · path)

instance [Host σ] : Host (Watched σ) where
  alert watched message := watched.note (Host.alert · message) (.alerted message)

/-- Lines have been printed, and nothing else was taken notice of. -/
def Printed (before after : Watched σ) : Prop :=
  ∃ lines : List String, after.notices = before.notices ++ lines.map .printed

/-- All that a simulator is asked for but the end of the run at most prints. -/
theorem confines_printed [Simulator σ] : Simulator.Confines (Printed (σ := σ)) where
  refl _ := ⟨[], by simp⟩
  trans := by
    rintro first second third ⟨front, printed⟩ ⟨back, more⟩
    exact ⟨front ++ back, by simp [more, printed]⟩
  lookup _ _ := ⟨[], by simp [Simulator.lookup, ask]⟩
  read _ _ _ := ⟨[], by simp [Simulator.read, ask]⟩
  write _ _ _ _ _ := ⟨[], by simp [Simulator.write, ask]⟩
  release _ _ _ := ⟨[], by simp [Simulator.release, ask]⟩
  time _ := ⟨[], by simp [Simulator.time, ask]⟩
  print _ line := ⟨[line], rfl⟩

end Watched

/-! ## How a call ends -/

/-- How a call ends. -/
inductive Ending where
  /-- With the session as it is, or without one. -/
  | unchanged
  /-- With the run, without an error. -/
  | finished
  /-- Without a session, because connecting failed. -/
  | refused (message : String)
  /-- With the run, because of an error. -/
  | broke (message : String)

namespace Ending

/-- The line that is printed for an error. -/
def errorLine (logPrefix message : String) : String := s!"{logPrefix} ERROR: {message}"

/-- What is taken notice of, besides the lines that are printed anyway. -/
def notices (logPrefix : String) : Ending → List Notice
  | .unchanged => []
  | .finished => [.finished]
  | .refused message => [.alerted message, .printed (errorLine logPrefix message)]
  | .broke message => [.alerted message, .printed (errorLine logPrefix message), .finished]

/-- The status that the call answers. -/
def status : Ending → HostStatus
  | .unchanged | .finished => .success
  | .refused _ | .broke _ => .fatal

/-- Whether the run is ended. -/
def EndsRun : Ending → Prop
  | .unchanged | .refused _ => False
  | .finished | .broke _ => True

/-- The ending of a call that found or established a session, of which it left this: the run is ended
exactly if none is left, and it is ended by every error. -/
structure Drives (ending : Ending) (session : Option Dispatcher) : Prop where
  lost : session = none ↔ ending.EndsRun
  fatal : ending.status = .fatal → ending.EndsRun

theorem drives_unchanged {session : Option Dispatcher} (live : session ≠ none) :
    unchanged.Drives session where
  lost := iff_of_false live id
  fatal := nofun

theorem drives_finished : finished.Drives none :=
  ⟨iff_of_true rfl trivial, fun _ => trivial⟩

theorem drives_broke (message : String) : (broke message).Drives none :=
  ⟨iff_of_true rfl trivial, fun _ => trivial⟩

/-- The notices tell of an ending, with nothing but printed lines around it. -/
def ToldBy (ending : Ending) (logPrefix : String) (fresh : List Notice) : Prop :=
  ∃ before after : List String,
    fresh = before.map .printed ++ ending.notices logPrefix ++ after.map .printed

namespace ToldBy

variable {ending : Ending} {logPrefix : String} {fresh : List Notice}

/-- Lines may be printed before everything else. -/
theorem behind (told : ending.ToldBy logPrefix fresh) (lines : List String) :
    ending.ToldBy logPrefix (lines.map .printed ++ fresh) := by
  obtain ⟨before, after, rfl⟩ := told
  exact ⟨lines ++ before, after, by simp⟩

/-- The run is ended exactly if notice is taken of it. -/
theorem finished_mem_iff (told : ending.ToldBy logPrefix fresh) :
    .finished ∈ fresh ↔ ending.EndsRun := by
  obtain ⟨before, after, rfl⟩ := told
  cases ending <;> simp [notices, EndsRun]

/-- The run is ended once at most. -/
theorem count_finished_le (told : ending.ToldBy logPrefix fresh) :
    fresh.count .finished ≤ 1 := by
  have unfinished (lines : List String) : (lines.map Notice.printed).count .finished = 0 := by
    simp [List.count_eq_zero]
  obtain ⟨before, after, rfl⟩ := told
  rw [List.count_append, List.count_append, unfinished, unfinished]
  cases ending <;> simp [notices]

/-- The errors brought to attention: one if the status is fatal. -/
theorem alerts_eq (told : ending.ToldBy logPrefix fresh) :
    (ending.status = .success ∧ fresh.filterMap Notice.alert? = []) ∨
      ∃ message, ending.status = .fatal ∧ fresh.filterMap Notice.alert? = [message] ∧
        [.alerted message, .printed (errorLine logPrefix message)] <:+: fresh := by
  have unalerted (lines : List String) : (lines.map Notice.printed).filterMap Notice.alert? = [] := by
    simp [Notice.alert?]
  obtain ⟨before, after, rfl⟩ := told
  rw [List.filterMap_append, List.filterMap_append, unalerted, unalerted]
  cases ending with
  | unchanged => exact .inl ⟨rfl, rfl⟩
  | finished => exact .inl ⟨rfl, rfl⟩
  | refused message => exact .inr ⟨message, rfl, rfl, before.map .printed, after.map .printed, rfl⟩
  | broke message =>
    exact .inr ⟨message, rfl, rfl, before.map .printed, .finished :: after.map .printed, by
      simp [notices]⟩

end ToldBy

end Ending

/-! ## What the bridge does between the turns and the end of a call -/

namespace Run

variable {σ : Type} [Host σ]

/-- An informational line is printed, or kept back. -/
theorem notices_inform (run : Run (Watched σ)) (line : String) :
    ∃ lines : List String, (run.inform line).host.notices =
      run.host.notices ++ lines.map .printed := by
  unfold inform
  split
  · exact ⟨[], (List.append_nil _).symm⟩
  · exact ⟨[_], rfl⟩

/-- An error is brought to attention and printed. -/
theorem notices_report (run : Run (Watched σ)) (message : String) :
    (run.report message).host.notices = run.host.notices ++
      [.alerted message, .printed (Ending.errorLine run.bridge.configuration.logPrefix message)] := by
  let told := s!"ERROR: {message}"
  have line : Ending.errorLine run.bridge.configuration.logPrefix message =
      s!"{run.bridge.configuration.logPrefix} {told}" := by
    simp only [Ending.errorLine, told, toString, String.append_assoc]
    rfl
  rw [line]
  exact List.append_assoc _ [_] [_]

/-- Shutting the session down is not taken notice of. -/
@[simp] theorem notices_shutdownSession (run : Run (Watched σ)) :
    run.shutdownSession.host.notices = run.host.notices := by
  unfold shutdownSession
  split
  · rename_i dispatcher connection _
    rw [host_dropSession]
    rcases (Exchange.mk dispatcher connection run.host).simulator_shutdown with same | same
    · exact congrArg Watched.notices same
    · exact (congrArg Watched.notices same).trans rfl
  · rfl

/-- What is taken notice of during a call, behind what was before it, tells how the call ends. -/
structure Accounts (logPrefix : String) (before : List Notice) (call : HostStatus × Run (Watched σ))
    (ending : Ending) : Prop where
  told : ∃ fresh, call.2.host.notices = before ++ fresh ∧ ending.ToldBy logPrefix fresh
  status : call.1 = ending.status

omit [Host σ] in
/-- Lines may have been printed before everything else. -/
theorem Accounts.behind {logPrefix : String} {before middle : List Notice}
    {call : HostStatus × Run (Watched σ)} {ending : Ending}
    (accounts : Accounts logPrefix middle call ending) {lines : List String}
    (printed : middle = before ++ lines.map .printed) : Accounts logPrefix before call ending := by
  obtain ⟨⟨fresh, noted, told⟩, status⟩ := accounts
  exact ⟨⟨_, by rw [noted, printed, List.append_assoc], told.behind lines⟩, status⟩

/-- **Asking for a delay**: the session lives on, or the run is ended because of an error. -/
theorem accounts_scheduleResume {run : Run (Watched σ)} (live : run.bridge.session? ≠ none)
    (ticks : UInt64) :
    ∃ ending, Accounts run.bridge.configuration.logPrefix run.host.notices (run.scheduleResume ticks)
        ending ∧ ending.Drives (run.scheduleResume ticks).2.bridge.session? := by
  rcases run.scheduleResume_cases ticks with ⟨host, registered, same⟩ | ⟨error, host, registered, same⟩
  · have unnoted : host.notices = run.host.notices :=
      (congrArg (fun registering => registering.2.notices) registered).symm
    rw [same]
    refine ⟨.unchanged, ⟨⟨[], ?_, [], [], rfl⟩, rfl⟩, Ending.drives_unchanged live⟩
    rw [unnoted, List.append_nil]
  · have unnoted : host.notices = run.host.notices :=
      (congrArg (fun registering => registering.2.notices) registered).symm
    rw [same]
    refine ⟨.broke (Error.configuration error).message, ⟨⟨_, ?_, [], [], rfl⟩, rfl⟩, ?_⟩
    · have told := (report { run with host } (Error.configuration error).message).notices_shutdownSession
      rw [notices_report, unnoted] at told
      refine (congrArg (· ++ [.finished]) told).trans ?_
      simp [Ending.notices]
    · rw [show Bridge.session? _ = none from session?_shutdownSession _]
      exact Ending.drives_broke _

/-- The run is ended unless that has been done at the controller's wish. -/
theorem notices_endUnlessFinished (run : Run (Watched σ)) (reason : CloseReason) :
    (run.endUnlessFinished reason).host.notices =
      run.host.notices ++ if reason = .finished then [] else [.finished] := by
  unfold endUnlessFinished
  split
  · exact (List.append_nil _).symm
  · rfl

/-- **Letting go of a session that was closed.**  A session that was closed as finished has ended the
run already. -/
theorem accounts_endSession (run : Run (Watched σ)) (reason : CloseReason) {before : List Notice}
    (turned : run.host.notices = before ++ if reason = .finished then [.finished] else []) :
    ∃ ending, Accounts run.bridge.configuration.logPrefix before (run.endSession reason) ending ∧
      ending.Drives (run.endSession reason).2.bridge.session? := by
  rw [run.session?_endSession reason]
  have noted : (run.endSession reason).2.host.notices =
      (run.dropSession.announce reason).2.host.notices ++
        if reason = .finished then [] else [.finished] :=
    (run.dropSession.announce reason).2.notices_endUnlessFinished reason
  have same : run.dropSession.bridge.configuration = run.bridge.configuration := by
    unfold dropSession
    split <;> rfl
  by_cases error : reason.isError = true
  · have other : reason ≠ .finished := by
      rintro rfl
      cases error
    have told := run.dropSession.notices_report reason.display
    rw [host_dropSession, turned, if_neg other, List.append_nil, same] at told
    have announced : run.dropSession.announce reason =
        (.fatal, run.dropSession.report reason.display) := if_pos error
    have status : (run.endSession reason).1 = .fatal := congrArg Prod.fst announced
    rw [announced, told, if_neg other, List.append_assoc] at noted
    exact ⟨.broke reason.display, ⟨⟨_, noted, [], [], by simp [Ending.notices]⟩, status⟩,
      Ending.drives_broke _⟩
  · have announced : run.dropSession.announce reason =
        (.success, run.dropSession.inform s!"session ended: {reason.display}") := if_neg error
    obtain ⟨lines, told⟩ := run.dropSession.notices_inform s!"session ended: {reason.display}"
    rw [host_dropSession, turned] at told
    have status : (run.endSession reason).1 = .success := congrArg Prod.fst announced
    rw [announced, told] at noted
    simp only [List.append_assoc] at noted
    refine ⟨.finished, ⟨⟨_, noted, ?_⟩, status⟩, Ending.drives_finished⟩
    -- a session that was closed as finished ended the run before the line, any other behind it
    by_cases finished : reason = .finished
    · exact ⟨[], lines, by simp [finished, Ending.notices]⟩
    · exact ⟨lines, [], by simp [finished, Ending.notices]⟩

/-- **Settling the turns of a live session.** -/
theorem accounts_settle {run : Run (Watched σ)} (live : run.bridge.session? ≠ none)
    (outcome : Outcome) {before : List Notice}
    (turned : run.host.notices = before ++ if outcome = .closed .finished then [.finished] else []) :
    ∃ ending, Accounts run.bridge.configuration.logPrefix before (run.settle outcome) ending ∧
      ending.Drives (run.settle outcome).2.bridge.session? := by
  cases outcome with
  | served =>
    exact ⟨.unchanged, ⟨⟨[], turned, [], [], rfl⟩, rfl⟩, Ending.drives_unchanged live⟩
  | suspended =>
    exact ⟨.unchanged, ⟨⟨[], turned, [], [], rfl⟩, rfl⟩, Ending.drives_unchanged live⟩
  | yielded ticks =>
    rw [if_neg nofun, List.append_nil] at turned
    exact turned ▸ accounts_scheduleResume live ticks
  | closed reason =>
    simp only [Outcome.closed.injEq] at turned
    exact run.accounts_endSession reason turned

/-- **The turns of a call on a live session.** -/
theorem accounts_pump {run : Run (Watched σ)} {dispatcher : Dispatcher} {connection : Connection}
    (live : run.bridge.link = .live dispatcher connection)
    (opened : dispatcher.closeReason = none) (resuming : Bool) :
    ∃ ending, Accounts run.bridge.configuration.logPrefix run.host.notices (run.pump resuming)
        ending ∧ ending.Drives (run.pump resuming).2.bridge.session? := by
  rw [run.pump_of_live live]
  have confined : (Exchange.mk dispatcher connection run.host).Confined Watched.Printed _ :=
    confined_turns Watched.confines_printed run.bridge.configuration.mode resuming opened
  generalize turns run.bridge.configuration.mode resuming ⟨dispatcher, connection, run.host⟩ = turn
    at confined
  obtain ⟨outcome, after⟩ := turn
  obtain ⟨last, ⟨lines, printed⟩, same⟩ := confined
  have turned : (run.restore after).host.notices = (run.host.notices ++ lines.map .printed) ++
      if outcome = .closed .finished then [.finished] else [] := by
    rw [← printed]
    refine (congrArg Watched.notices same).trans ?_
    split
    · rfl
    · exact (List.append_nil _).symm
  have live : (run.restore after).bridge.session? ≠ none := nofun
  obtain ⟨ending, accounts, drives⟩ := accounts_settle live outcome turned
  exact ⟨ending, accounts.behind rfl, drives⟩

/-! ## The entry points -/

/-- A session is live, or the call of an entry point establishes one. -/
def Connected (run : Run σ) (entry : EntryPoint) : Prop :=
  run.bridge.session? ≠ none ∨
    entry = .startup ∧ run.bridge.phase = .loaded ∧
      ∃ connection host, run.dialled = (.ok connection, host)

/-- Turns are taken on a session that is live or was established. -/
theorem connected_of_engaged {run serving : Run σ} {entry : EntryPoint} {resuming : Bool}
    (engaged : run.engaged entry = some (resuming, serving)) : run.Connected entry := by
  rcases engaged_cases engaged with
    ⟨starts, _, loaded, connection, host, dialled, _⟩ | ⟨_, lives, _⟩
  · exact .inr ⟨starts, loaded, connection, host, dialled⟩
  · exact .inl lives

/-! ## The account of a call -/

/-- Dialling is not taken notice of. -/
theorem notices_dialled {run : Run (Watched σ)} {result : Except ConnectError Connection}
    {host : Watched σ} (dialled : run.dialled = (result, host)) :
    host.notices = run.host.notices := by
  rcases run.dialled_cases with ⟨_, same⟩ | ⟨_, _, _, dials, same⟩ | ⟨_, _, _, dials, same⟩ <;>
    cases same.symm.trans dialled
  · rfl
  · exact (congrArg (·.2.notices) dials).symm
  · exact (congrArg (·.2.notices) dials).symm

/-- A run that takes turns has printed lines at most before them. -/
theorem notices_engaged {run serving : Run (Watched σ)} {entry : EntryPoint} {resuming : Bool}
    (engaged : run.engaged entry = some (resuming, serving)) :
    serving.bridge.configuration = run.bridge.configuration ∧
      ∃ lines : List String, serving.host.notices = run.host.notices ++ lines.map .printed := by
  rcases engaged_cases engaged with ⟨_, _, _, connection, host, dialled, rfl⟩ | ⟨_, _, rfl⟩
  · obtain ⟨lines, told⟩ := notices_inform (Run.mk { run.bridge with phase := .running } host)
      s!"connected to controller at {connection.peer}"
    refine ⟨by simp, lines, told.trans ?_⟩
    rw [notices_dialled dialled]
  · exact ⟨rfl, [], (List.append_nil _).symm⟩

/-- What is said of a session by the ending of the call of an entry point other than the end. -/
structure Concerns (run : Run (Watched σ)) (entry : EntryPoint) (ending : Ending) : Prop where
  lost : run.Connected entry → ((run.invoke entry).2.bridge.session? = none ↔ ending.EndsRun)
  idle : ¬run.Connected entry → ¬ending.EndsRun
  fatal : ending.status = .fatal → (run.invoke entry).2.bridge.session? = none

/-- **The account of a call** that is not the end of the simulation. -/
theorem accounts_invoke {run : Run (Watched σ)} (coherent : run.bridge.Coherent) {entry : EntryPoint}
    (serves : entry ≠ .shutdown) :
    ∃ ending, Accounts run.bridge.configuration.logPrefix run.host.notices (run.invoke entry) ending ∧
      run.Concerns entry ending := by
  have goes := run.goes_invoke entry
  generalize called : run.invoke entry = call at goes
  cases goes with
  | serves engaged live =>
    obtain ⟨same, lines, told⟩ := notices_engaged engaged
    obtain ⟨ending, accounts, drives⟩ :=
      accounts_pump live (opened_of_engaged coherent engaged live).1 _
    have connected := connected_of_engaged engaged
    rw [same] at accounts
    refine ⟨ending, accounts.behind told, fun _ => ?_, fun idle => absurd connected idle, fun fatal => ?_⟩
    · rw [called]
      exact drives.lost
    · rw [called]
      exact drives.lost.2 (drives.fatal fatal)
  | @refused error host _ _ loaded dialled =>
    have idle : run.bridge.session? = none := coherent.idle (by rw [loaded]; nofun)
    have unconnected : ¬run.Connected entry := by simp [Connected, idle, dialled]
    obtain ⟨lines, told⟩ := notices_inform
      (report (Run.mk { run.bridge with phase := .running } host) error.toError.message)
      "couldn't connect to the controller"
    rw [notices_report, notices_dialled dialled] at told
    refine ⟨.refused error.toError.message, ⟨⟨_, told.trans (List.append_assoc ..), [], lines, rfl⟩, rfl⟩,
      fun connected => absurd connected unconnected, fun _ => id, fun _ => ?_⟩
    rw [called]
    simpa [Bridge.session?] using idle
  | nothing _ started _ idle =>
    refine ⟨.unchanged, ⟨⟨[], (List.append_nil _).symm, [], [], rfl⟩, rfl⟩, fun connected => ?_,
      fun _ => id, fun fatal => by cases fatal⟩
    have lives : run.bridge.session? ≠ none := by
      rcases connected with lives | ⟨starts, loaded, _⟩
      · exact lives
      · exact absurd loaded (started starts)
    rw [called]
    exact iff_of_false lives id
  | ended _ shuts => exact absurd shuts serves
  | shut _ shuts => exact absurd shuts serves

/-- The end of the simulation is not taken notice of, and leaves no session. -/
theorem accounts_conclude {run : Run (Watched σ)} (coherent : run.bridge.Coherent) :
    (run.invoke .shutdown).1 = .success ∧
      (run.invoke .shutdown).2.host.notices = run.host.notices ∧
      (run.invoke .shutdown).2.bridge.session? = none := by
  rcases run.conclude_cases with
    ⟨ended, same⟩ | ⟨_, idle, same⟩ | ⟨_, dispatcher, connection, _, same⟩
  · rw [show run.invoke .shutdown = _ from same]
    exact ⟨rfl, rfl, coherent.idle (by rw [ended]; nofun)⟩
  · rw [show run.invoke .shutdown = _ from same]
    exact ⟨rfl, rfl, idle⟩
  · rw [show run.invoke .shutdown = _ from same]
    refine ⟨rfl, ?_, rfl⟩
    rcases (Exchange.mk dispatcher connection run.host).simulator_shutdown with same | same
    · exact congrArg Watched.notices same
    · exact (congrArg Watched.notices same).trans rfl

/-- **A run that was connected is never left without a driver, and the status tells the truth.**
After whatever has happened to a bridge since it was loaded, every call of the start, of service or
of a delay requests the end of the run once at most.  If a session was live before the call or was
established by it, the end is requested exactly if no session is live afterwards; otherwise it is not
requested.  The status is fatal exactly if an error was reported, in the log and as a line behind it;
there is one such error at most, and it leaves no session.  The end of the simulation answers success,
requests nothing and leaves no session. -/
theorem session_lost_iff_finish_requested (configuration : Configuration) (invocation : Invocation)
    (host : Watched σ) (happenings : List (Happening (Watched σ))) (entry : EntryPoint) :
    let run := (Run.mk (.load configuration invocation) host).follow happenings
    let status := (run.invoke entry).1
    let after := (run.invoke entry).2
    ∃ fresh, after.host.notices = run.host.notices ++ fresh ∧
      fresh.count .finished ≤ 1 ∧
      (entry ≠ .shutdown → run.Connected entry →
        (after.bridge.session? = none ↔ .finished ∈ fresh)) ∧
      (entry ≠ .shutdown → ¬run.Connected entry → .finished ∉ fresh) ∧
      (status = .fatal ↔ ∃ message, .alerted message ∈ fresh) ∧
      (fresh.filterMap Notice.alert?).length ≤ 1 ∧
      (∀ message, .alerted message ∈ fresh →
        [.alerted message,
          .printed s!"{run.bridge.configuration.logPrefix} ERROR: {message}"] <:+: fresh) ∧
      (status = .fatal → after.bridge.session? = none) ∧
      (entry = .shutdown →
        status = .success ∧ .finished ∉ fresh ∧ after.bridge.session? = none) := by
  intro run status after
  have coherent : run.bridge.Coherent := coherent_follow configuration invocation host happenings
  by_cases concludes : entry = .shutdown
  · obtain ⟨success, unnoted, gone⟩ := accounts_conclude coherent
    subst concludes
    have peaceful : status ≠ .fatal := by
      rw [show status = _ from success]
      nofun
    exact ⟨[], unnoted.trans (List.append_nil _).symm, Nat.zero_le _, fun other => absurd rfl other,
      fun _ _ => nofun, by simp [peaceful], Nat.zero_le _, nofun, fun fatal => absurd fatal peaceful,
      fun _ => ⟨success, nofun, gone⟩⟩
  · obtain ⟨ending, ⟨⟨fresh, noted, told⟩, answered⟩, lost, idle, fatal⟩ :=
      accounts_invoke coherent concludes
    have reported : (status = .fatal ↔ ∃ message, .alerted message ∈ fresh) ∧
        (fresh.filterMap Notice.alert?).length ≤ 1 ∧
        ∀ message, .alerted message ∈ fresh →
          [.alerted message,
            .printed s!"{run.bridge.configuration.logPrefix} ERROR: {message}"] <:+: fresh := by
      simp only [Notice.alerted_mem_iff, show status = ending.status from answered]
      rcases told.alerts_eq with ⟨success, quiet⟩ | ⟨message, failed, one, behind⟩
      · rw [quiet]
        exact ⟨by simp [success], Nat.zero_le _, nofun⟩
      · rw [one]
        refine ⟨by simp [failed], Nat.le_refl _, fun other member => ?_⟩
        rw [List.mem_singleton.1 member]
        exact behind
    exact ⟨fresh, noted, told.count_finished_le,
      fun _ connected => (lost connected).trans told.finished_mem_iff.symm,
      fun _ unconnected requested => idle unconnected (told.finished_mem_iff.1 requested),
      reported.1, reported.2.1, reported.2.2, fun failed => fatal (answered ▸ failed),
      fun other => absurd other concludes⟩

end Run

end Cosimulation
