import Cosimulation.Proofs.Bridge.Effects
import Cosimulation.Proofs.Session.Closing
/-!
# One connection in a run, and silence after the end

How far a simulation has come only ever goes forward: it is loaded, then it runs, then it has ended
(`phase_after`).  The bridge connects only while the simulation is loaded, and the call that tries it
moves the simulation on, whether it succeeds or not.  Hence a run dials the controller once at most,
a live session belongs to a simulation that was started and has not ended, and once the simulation
has ended no call does anything.

To say how often the controller is dialled and that nothing else is asked of a host, the calls of a
host are counted (`Tallied`).  Between two calls of the bridge a live session awaits a message over
an open connection (`Link.Awaits`, `awaits_after`).
-/

namespace Cosimulation

set_option autoImplicit false

/-! ## A host whose calls are counted -/

/-- A host, with the number of times that it was asked to dial and that it was asked for anything
else. -/
structure Tallied (σ : Type) where
  host : σ
  dials : Nat
  others : Nat

namespace Tallied

variable {σ : Type}

/-- A host of which nothing has been asked yet. -/
def fresh (host : σ) : Tallied σ := ⟨host, 0, 0⟩

/-- A call other than dialling that answers. -/
def ask {α : Type} (tallied : Tallied σ) (call : σ → α × σ) : α × Tallied σ :=
  ((call tallied.host).1, { tallied with host := (call tallied.host).2, others := tallied.others + 1 })

/-- A call other than dialling that does not answer. -/
def tell (tallied : Tallied σ) (call : σ → σ) : Tallied σ :=
  { tallied with host := call tallied.host, others := tallied.others + 1 }

instance [Simulator σ] : Simulator (Tallied σ) where
  invocation tallied := tallied.ask Simulator.invocation
  lookup tallied path := tallied.ask (Simulator.lookup · path)
  read tallied reference path := tallied.ask (Simulator.read · reference path)
  write tallied reference path value mode :=
    tallied.ask (Simulator.write · reference path value mode)
  release tallied reference path := tallied.ask (Simulator.release · reference path)
  time tallied := tallied.ask Simulator.time
  print tallied line := tallied.tell (Simulator.print · line)
  finish tallied := tallied.tell Simulator.finish

instance [Scheduler σ] : Scheduler (Tallied σ) where
  register tallied registration := tallied.ask (Scheduler.register · registration)

instance [Network σ] : Network (Tallied σ) where
  dial tallied path :=
    ((Network.dial tallied.host path).1,
      { tallied with host := (Network.dial tallied.host path).2, dials := tallied.dials + 1 })

instance [Host σ] : Host (Tallied σ) where
  alert tallied message := tallied.tell (Host.alert · message)

/-- No call but dialling is counted as dialling. -/
theorem confines_dials [Host σ] :
    Host.Confines fun before after : Tallied σ => after.dials = before.dials where
  refl _ := rfl
  trans first second := second.trans first
  lookup _ _ := rfl
  read _ _ _ := rfl
  write _ _ _ _ _ := rfl
  release _ _ _ := rfl
  time _ := rfl
  print _ _ := rfl
  finish _ := rfl
  alert _ _ := rfl

end Tallied

/-- What happens to a bridge, as it happens to a bridge in a host whose calls are counted: the host
changes apart from what was counted. -/
def Happening.tallied {σ : Type} : Happening σ → Happening (Tallied σ)
  | .invoke entry => .invoke entry
  | .bootstrap => .bootstrap
  | .register => .register
  | .change alter => .change fun tallied => { tallied with host := alter tallied.host }
  | .channel alter => .channel alter

/-- Whether the simulation is started, by its host or because the bridge is loaded into a host that
has no routine of its own for that. -/
def Happening.Starts {σ : Type} : Happening σ → Prop
  | .invoke entry => entry = .startup
  | .bootstrap => True
  | _ => False

theorem Happening.starts_tallied {σ : Type} (happening : Happening σ) :
    happening.tallied.Starts ↔ happening.Starts := by
  cases happening <;> rfl

/-! ## How far the simulation has come -/

/-- How far a simulation has come when an entry point has been called. -/
def Phase.next (phase : Phase) : EntryPoint → Phase
  | .startup => if phase = .loaded then .running else phase
  | .shutdown => .ended
  | _ => phase

/-- What a bridge is set up with: its configuration, its command line, and the lasting registrations
that were accepted. -/
def Bridge.setup (bridge : Bridge) : Configuration × Invocation × Ledger :=
  (bridge.configuration, bridge.invocation, bridge.ledger)

namespace Run

variable {σ : Type} [Host σ] {run : Run σ}

omit [Host σ] in
theorem setup_dropSession (run : Run σ) : run.dropSession.bridge.setup = run.bridge.setup := by
  unfold dropSession
  split <;> rfl

/-- Settling leaves alone what the bridge is set up with: a delay that is accepted leaves no trace. -/
theorem setup_settle (run : Run σ) (outcome : Outcome) :
    (run.settle outcome).2.bridge.setup = run.bridge.setup := by
  cases outcome with
  | served => rfl
  | suspended => rfl
  | yielded ticks =>
    rcases run.scheduleResume_cases ticks with ⟨host, _, accepted⟩ | ⟨error, host, _, rejected⟩
    · rw [show run.settle (.yielded ticks) = _ from accepted]
    · rw [show run.settle (.yielded ticks) = _ from rejected]
      show (shutdownSession _).bridge.setup = _
      unfold shutdownSession
      split
      · exact setup_dropSession _
      · rfl
  | closed reason =>
    show Bridge.setup (run.endSession reason).2.bridge = _
    rw [bridge_endSession]
    exact setup_dropSession run

/-- **No call changes what the bridge is set up with.** -/
theorem setup_invoke (run : Run σ) (entry : EntryPoint) :
    (run.invoke entry).2.bridge.setup = run.bridge.setup := by
  have goes := run.goes_invoke entry
  generalize run.invoke entry = call at goes
  cases goes with
  | serves engaged live =>
    rw [pump_of_live live, setup_settle]
    rcases engaged_cases engaged with ⟨_, _, _, _, _, _, rfl⟩ | ⟨_, _, rfl⟩
    · simp [restore, Bridge.setup]
    · rfl
  | refused => simp [Bridge.setup]
  | nothing => rfl
  | ended => rfl
  | shut => rfl

/-- **How far the simulation has come after a call** is a matter of the entry points called. -/
theorem phase_invoke (run : Run σ) (entry : EntryPoint) :
    (run.invoke entry).2.bridge.phase = run.bridge.phase.next entry := by
  have goes := run.goes_invoke entry
  generalize run.invoke entry = call at goes
  cases goes with
  | serves engaged live =>
    rw [pump_of_live live, phase_settle]
    rcases engaged_cases engaged with ⟨rfl, _, loaded, _, _, _, rfl⟩ | ⟨rfl, _, rfl⟩
    · simp [Phase.next, loaded, restore]
    · split <;> rfl
  | refused _ starts loaded =>
    subst starts
    simp [Phase.next, loaded]
  | nothing _ started ended =>
    cases entry with
    | startup => exact (if_neg (started rfl)).symm
    | shutdown => exact ended rfl
    | service => rfl
    | resume => rfl
  | ended _ ends =>
    subst ends
    rfl
  | shut _ ends =>
    subst ends
    rfl

/-- How far the simulation has come after something has happened: at the end if it ends, at most
where it was if nobody starts it, and never back. -/
theorem phase_after (run : Run σ) (happening : Happening σ) :
    (happening = .invoke .shutdown → (run.after happening).bridge.phase = .ended) ∧
      (happening = .invoke .startup → (run.after happening).bridge.phase ≠ .loaded) ∧
      (run.bridge.phase ≠ .loaded → (run.after happening).bridge.phase ≠ .loaded) ∧
      (run.bridge.phase = .ended → (run.after happening).bridge.phase = .ended) ∧
      ((run.after happening).bridge.phase = .running →
        run.bridge.phase = .running ∨ happening.Starts) := by
  have called (run : Run σ) (entry : EntryPoint) := run.phase_invoke entry
  cases happening with
  | invoke entry =>
    have same : (run.after (.invoke entry)).bridge.phase = _ := called run entry
    rw [same]
    cases entry <;> cases run.bridge.phase <;> simp [Phase.next, Happening.Starts]
  | bootstrap =>
    rcases run.bootstrap_cases with ⟨error, host, _, same⟩ | ⟨ledger, host, _, same⟩
    · have still : (run.after .bootstrap).bridge.phase = run.bridge.phase := by
        rw [show run.after .bootstrap = _ from congrArg Prod.snd same]
        rfl
      rw [still]
      simp [Happening.Starts]
    · have next : (run.after .bootstrap).bridge.phase = run.bridge.phase.next .startup := by
        rw [show run.after .bootstrap = _ from congrArg Prod.snd same]
        exact called ⟨{ run.bridge with ledger }, host⟩ .startup
      rw [next]
      cases run.bridge.phase <;> simp [Phase.next, Happening.Starts]
  | register =>
    obtain ⟨ledger, host, registered⟩ := run.registerCallbacks_eq
    rw [show run.after .register = _ from registered]
    simp [Happening.Starts]
  | change alter => simp [after, Happening.Starts]
  | channel alter => simp [after, Happening.Starts]

/-- A simulation that has ended does not run again. -/
theorem phase_follow_of_ended (ended : run.bridge.phase = .ended)
    (happenings : List (Happening σ)) : (run.follow happenings).bridge.phase = .ended := by
  induction happenings generalizing run with
  | nil => exact ended
  | cons happening _ ih => exact ih ((run.phase_after happening).2.2.2.1 ended)

/-- A simulation that was started is not loaded again. -/
theorem phase_follow_of_started (started : run.bridge.phase ≠ .loaded)
    (happenings : List (Happening σ)) : (run.follow happenings).bridge.phase ≠ .loaded := by
  induction happenings generalizing run with
  | nil => exact started
  | cons happening _ ih => exact ih ((run.phase_after happening).2.2.1 started)

/-- **A simulation whose end was called has ended.** -/
theorem ended_of_mem {happenings : List (Happening σ)}
    (ends : .invoke .shutdown ∈ happenings) : (run.follow happenings).bridge.phase = .ended := by
  induction happenings generalizing run with
  | nil => cases ends
  | cons happening happenings ih =>
    cases ends with
    | head => exact phase_follow_of_ended ((run.phase_after _).1 rfl) happenings
    | tail _ ends => exact ih ends

/-- **A simulation whose start was called is not loaded any more.** -/
theorem started_of_mem {happenings : List (Happening σ)}
    (starts : .invoke .startup ∈ happenings) : (run.follow happenings).bridge.phase ≠ .loaded := by
  induction happenings generalizing run with
  | nil => cases starts
  | cons happening happenings ih =>
    cases starts with
    | head => exact phase_follow_of_started ((run.phase_after _).2.1 rfl) happenings
    | tail _ starts => exact ih starts

/-- **A simulation that runs was started.** -/
theorem starts_of_running {happenings : List (Happening σ)}
    (running : (run.follow happenings).bridge.phase = .running) :
    run.bridge.phase = .running ∨ ∃ happening ∈ happenings, happening.Starts := by
  induction happenings generalizing run with
  | nil => exact .inl running
  | cons happening happenings ih =>
    rcases ih running with already | ⟨other, member, starts⟩
    · rcases (run.phase_after happening).2.2.2.2 already with before | starts
      · exact .inl before
      · exact .inr ⟨happening, List.mem_cons_self, starts⟩
    · exact .inr ⟨other, List.mem_cons_of_mem _ member, starts⟩

end Run

/-! ## A live session awaits a message -/

/-- The session that is live, if one is, awaits a message over an open connection. -/
def Link.Awaits (link : Link) : Prop :=
  ∀ dispatcher connection, link = .live dispatcher connection →
    dispatcher.state = .awaitingMessage ∧ dispatcher.closeReason = none ∧ connection.isOpen = true

namespace Link.Awaits

variable {link : Link}

theorem of_idle (idle : link.session? = none) : link.Awaits := by
  rintro dispatcher connection rfl
  cases idle

theorem mapChannel (awaits : link.Awaits) (alter : Channel → Channel) :
    (link.mapChannel alter).Awaits := by
  cases link with
  | live dispatcher connection =>
    rintro _ _ ⟨⟩
    exact awaits dispatcher connection rfl
  | unconnected => exact of_idle rfl
  | released connection => exact of_idle rfl

end Link.Awaits

namespace Run

variable {σ : Type} [Host σ] {run : Run σ}

/-- **The turns of a call leave the session as their outcome says.** -/
theorem reaches_turns (mode : DispatchMode) (resuming : Bool) {exchange : Exchange σ}
    {shutdowns : Nat} (coherent : exchange.Coherent shutdowns) :
    (turns mode resuming exchange).1.Reaches shutdowns (turns mode resuming exchange).2 := by
  have first : (firstTurn resuming exchange).1.Reaches shutdowns (firstTurn resuming exchange).2 := by
    unfold firstTurn
    split
    · exact Exchange.reaches_resume coherent
    · exact Exchange.reaches_cycle coherent
  by_cases served : (firstTurn resuming exchange).1 = .served
  · cases mode with
    | single => exact first
    | drain =>
      rw [turns_drain_of_served (Prod.ext served rfl)]
      exact Exchange.reaches_drain _ first.coherent
  · rwa [turns_of_stopped mode served]

/-- Taking turns on a live session leaves one that awaits a message, or none. -/
theorem awaits_pump (awaits : run.bridge.link.Awaits) (resuming : Bool) :
    (run.pump resuming).2.bridge.link.Awaits := by
  rcases run.live_or_idle with ⟨dispatcher, connection, live⟩ | idle
  · obtain ⟨state, opened, connected⟩ := awaits dispatcher connection live
    have coherent : (Exchange.mk dispatcher connection run.host).Coherent
        connection.channel.shutdowns := .inl ⟨state, opened, connected, rfl⟩
    have reached := reaches_turns run.bridge.configuration.mode resuming coherent
    rw [run.pump_of_live live]
    generalize turns run.bridge.configuration.mode resuming ⟨dispatcher, connection, run.host⟩ = turn
      at reached
    rcases (run.restore turn.2).bridge_settle turn.1 with ⟨goes, same⟩ | idle
    · rw [same]
      rcases reached.coherent with still | ⟨reason, ended⟩
      · rintro _ _ ⟨⟩
        exact ⟨still.state, still.opened, still.connected⟩
      · -- a session that has ended would have been let go of
        obtain ⟨outcome, after⟩ := turn
        cases outcome with
        | closed reason => exact absurd rfl (goes reason)
        | served => cases reached.opened.symm.trans ended.closed
        | yielded ticks => cases reached.opened.symm.trans ended.closed
        | suspended => cases reached.opened.symm.trans ended.closed
    · exact .of_idle idle
  · rw [run.pump_of_idle idle]
    exact awaits

theorem awaits_invoke (awaits : run.bridge.link.Awaits) (entry : EntryPoint) :
    (run.invoke entry).2.bridge.link.Awaits := by
  have goes := run.goes_invoke entry
  generalize run.invoke entry = call at goes
  cases goes with
  | @serves resuming serving _ _ engaged live =>
    refine awaits_pump ?_ resuming
    rcases engaged_cases engaged with ⟨_, _, _, connection, host, dialled, rfl⟩ | ⟨_, _, rfl⟩
    · rintro _ _ ⟨⟩
      rcases run.dialled_cases with ⟨_, same⟩ | ⟨_, _, _, _, same⟩ | ⟨_, _, _, _, same⟩ <;>
        cases same.symm.trans dialled
      exact ⟨rfl, rfl, rfl⟩
    · exact awaits
  | refused =>
    rw [bridge_refused]
    exact awaits
  | nothing => exact awaits
  | ended => exact awaits
  | shut => exact .of_idle rfl

/-! ## How often the controller is dialled -/

/-- Connecting dials once at most. -/
theorem dials_dialled_le (run : Run (Tallied σ)) : run.dialled.2.dials ≤ run.host.dials + 1 := by
  rcases run.dialled_cases with ⟨_, same⟩ | ⟨_, _, host, dials, same⟩ | ⟨_, _, host, dials, same⟩
  · rw [same]
    exact Nat.le_add_right _ 1
  · rw [same, show host = _ from (congrArg Prod.snd dials).symm]
    exact Nat.le_refl _
  · rw [same, show host = _ from (congrArg Prod.snd dials).symm]
    exact Nat.le_refl _

/-- A call dials at the start of the simulation, and otherwise not. -/
theorem dials_invoke {run : Run (Tallied σ)} (coherent : run.bridge.Coherent) (entry : EntryPoint) :
    (run.invoke entry).2.host.dials =
      if entry = .startup ∧ run.bridge.phase = .loaded then run.dialled.2.dials
      else run.host.dials := by
  have reached := reached_invoke Tallied.confines_dials (fun _ _ => rfl) coherent entry
  rw [reached]
  split <;> rfl

/-- What holds of a run between two happenings: it is coherent, a live session awaits a message, and
the controller was dialled once at most, and not at all before the start. -/
structure Sparing (run : Run (Tallied σ)) : Prop where
  coherent : run.bridge.Coherent
  awaits : run.bridge.link.Awaits
  undialled : run.bridge.phase = .loaded → run.host.dials = 0
  once : run.host.dials ≤ 1

namespace Sparing

variable {run : Run (Tallied σ)}

/-- A call of an entry point is sparing. -/
theorem invoke (sparing : run.Sparing) (entry : EntryPoint) : (run.invoke entry).2.Sparing := by
  have dials := dials_invoke sparing.coherent entry
  have phase := run.phase_invoke entry
  refine ⟨coherent_invoke sparing.coherent entry, awaits_invoke sparing.awaits entry, ?_, ?_⟩
  · intro loaded
    rw [dials]
    rw [phase] at loaded
    by_cases before : run.bridge.phase = .loaded
    · rw [if_neg]
      · exact sparing.undialled before
      · rintro ⟨rfl, _⟩
        simp [Phase.next, before] at loaded
    · cases entry <;> simp_all [Phase.next]
  · rw [dials]
    split
    · rename_i starts
      have undialled := sparing.undialled starts.2
      exact Nat.le_trans run.dials_dialled_le (by omega)
    · exact sparing.once

omit [Host σ] in
/-- Whether a run is sparing is a matter of its link, its phase, its mode and the dials counted. -/
theorem of_same (sparing : run.Sparing) {bridge : Bridge} {host : Tallied σ}
    (mode : bridge.configuration.mode = run.bridge.configuration.mode)
    (phase : bridge.phase = run.bridge.phase) (link : bridge.link = run.bridge.link)
    (dials : host.dials = run.host.dials) : (Run.mk bridge host).Sparing where
  coherent := sparing.coherent.of_same mode phase (congrArg Link.session? link)
  awaits := link ▸ sparing.awaits
  undialled loaded := dials.trans (sparing.undialled (phase ▸ loaded))
  once := dials ▸ sparing.once

/-- **Whatever happens, the run stays sparing.** -/
theorem after (sparing : run.Sparing) (happening : Happening σ) :
    (run.after happening.tallied).Sparing := by
  cases happening with
  | invoke entry => exact sparing.invoke entry
  | bootstrap =>
    rcases run.bootstrap_cases with ⟨error, host, asked, same⟩ | ⟨ledger, host, asked, same⟩
    · rw [show run.after Happening.bootstrap.tallied = _ from congrArg Prod.snd same]
      have asked : host.dials = run.host.dials := (congrArg (·.2.dials) asked).symm
      exact sparing.of_same rfl rfl rfl asked
    · rw [show run.after Happening.bootstrap.tallied = _ from congrArg Prod.snd same]
      have asked : host.dials = run.host.dials := (congrArg (·.2.dials) asked).symm
      have registered : (Run.mk { run.bridge with ledger } host).Sparing :=
        sparing.of_same rfl rfl rfl asked
      exact registered.invoke .startup
  | register =>
    have asked : run.registerCallbacks.2.host.dials = run.host.dials :=
      reached_registerAll Tallied.confines_dials.toConfines (fun _ _ => rfl) run _
    obtain ⟨ledger, host, registered⟩ := run.registerCallbacks_eq
    rw [registered] at asked
    rw [show run.after Happening.register.tallied = _ from registered]
    exact sparing.of_same rfl rfl rfl asked
  | change alter => exact sparing.of_same rfl rfl rfl rfl
  | channel alter =>
    exact ⟨sparing.coherent.of_same rfl rfl (Link.session?_mapChannel _ alter),
      sparing.awaits.mapChannel alter, sparing.undialled, sparing.once⟩

theorem follow (sparing : run.Sparing) (happenings : List (Happening σ)) :
    (run.follow (happenings.map .tallied)).Sparing := by
  induction happenings generalizing run with
  | nil => exact sparing
  | cons happening happenings ih => exact ih (sparing.after happening)

end Sparing

/-- Once the simulation has ended, a coherent bridge does nothing more. -/
theorem invoke_of_ended (coherent : run.bridge.Coherent) (ended : run.bridge.phase = .ended)
    (entry : EntryPoint) : run.invoke entry = (.success, run) := by
  have idle : run.bridge.session? = none := coherent.idle (by rw [ended]; nofun)
  cases entry with
  | startup => exact start_of_started (by rw [ended]; nofun)
  | shutdown => exact if_pos ended
  | service => exact run.pump_of_idle idle false
  | resume => exact run.pump_of_idle idle true

/-- **One connection in a run, and silence after the end.**  Whatever entry points are called in
whatever order, and whatever the controller and the host do in between, the controller is dialled
once at most.  Starting does nothing any more once the start or the end was called, even if
connecting failed.  Whenever control is back with the host, a live session tells that the simulation
was started and was not ended, and it is open and awaits a message.  Once the end was called, every
call answers success and leaves the run as it is: it dials nothing, carries nothing over the channel
and asks nothing of the host. -/
theorem connects_once_and_falls_silent (configuration : Configuration) (invocation : Invocation)
    (host : σ) (happenings : List (Happening σ)) :
    let run := (Run.mk (.load configuration invocation) (Tallied.fresh host)).follow
      (happenings.map .tallied)
    run.host.dials ≤ 1 ∧
    (.invoke .startup ∈ happenings ∨ .invoke .shutdown ∈ happenings →
      run.invoke .startup = (.success, run)) ∧
    (∀ dispatcher connection, run.bridge.link = .live dispatcher connection →
      (∃ happening ∈ happenings, happening.Starts) ∧ .invoke .shutdown ∉ happenings ∧
      dispatcher.state = .awaitingMessage ∧ dispatcher.closeReason = none ∧
      connection.isOpen = true) ∧
    (.invoke .shutdown ∈ happenings → ∀ entry, run.invoke entry = (.success, run)) := by
  intro run
  have loaded : (Run.mk (.load configuration invocation) (Tallied.fresh host)).Sparing :=
    ⟨.of_idle rfl, .of_idle rfl, fun _ => rfl, Nat.zero_le 1⟩
  have sparing : run.Sparing := loaded.follow happenings
  have transfers {entry : EntryPoint} (called : .invoke entry ∈ happenings) :
      .invoke entry ∈ happenings.map Happening.tallied := List.mem_map_of_mem called
  have ended (ends : .invoke .shutdown ∈ happenings) : run.bridge.phase = .ended :=
    ended_of_mem (transfers ends)
  refine ⟨sparing.once, ?_, ?_, fun ends => invoke_of_ended sparing.coherent (ended ends)⟩
  · rintro (starts | ends)
    · exact start_of_started (started_of_mem (transfers starts))
    · exact invoke_of_ended sparing.coherent (ended ends) .startup
  · intro dispatcher connection live
    have running := sparing.coherent.running dispatcher (session?_of_live live)
    refine ⟨?_, fun ends => ?_, sparing.awaits dispatcher connection live⟩
    · rcases starts_of_running running with already | ⟨_, member, starts⟩
      · cases already
      · obtain ⟨happening, given, rfl⟩ := List.mem_map.1 member
        exact ⟨happening, given, happening.starts_tallied.1 starts⟩
    · cases running.symm.trans (ended ends)

end Run

end Cosimulation
