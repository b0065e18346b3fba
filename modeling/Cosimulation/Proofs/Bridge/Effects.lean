import Cosimulation.Proofs.Bridge.Run
/-!
# What a bridge does to its host

All that a bridge does to its host it does through the calls that the host offers.  So whatever these
calls do at most, the entry points do at most: a relation that every single call respects is respected
by every entry point (`Host.Confines`, `reached_invoke`).  Dialling is left out.  Only the start of a
simulation dials, and it does so before anything else.

The connection of a session stays with the bridge, also when the session is over.  What reading,
writing and closing keep of it is kept by the turns of a call and by settling them (`kept_pump`).
-/

namespace Cosimulation

set_option autoImplicit false

variable {σ : Type} [Host σ]

/-- Every call of the host but registering and dialling leads from a state to one that it reaches. -/
structure Host.Confines (reaches : σ → σ → Prop) : Prop extends Simulator.Confines reaches where
  finish : ∀ host, reaches host (Simulator.finish host)
  alert : ∀ host message, reaches host (Host.alert host message)

namespace Run

variable {reaches : σ → σ → Prop}

/-! ## Registering -/

/-- **What registering does to the host.** -/
theorem reached_registerAll (confines : Simulator.Confines reaches)
    (registers : ∀ host registration, reaches host (Scheduler.register host registration).2)
    (run : Run σ) (bindings : List (Trigger × EntryPoint)) :
    reaches run.host (run.registerAll bindings).2.host := by
  induction bindings generalizing run with
  | nil => exact confines.refl _
  | cons binding bindings ih =>
    obtain ⟨trigger, entry⟩ := binding
    have asked := registers run.host ⟨trigger, entry⟩
    rw [← host_register] at asked
    unfold registerAll
    split
    · rename_i found
      rwa [found] at asked
    · rename_i found
      rw [found] at asked
      exact confines.trans asked (ih _)

section Confined

variable (confines : Host.Confines reaches)
include confines

/-! ## Printing and letting go of the session -/

theorem reached_inform (run : Run σ) (line : String) : reaches run.host (run.inform line).host := by
  unfold inform
  split
  · exact confines.refl _
  · exact confines.print _ _

theorem reached_report (run : Run σ) (message : String) :
    reaches run.host (run.report message).host :=
  confines.trans (confines.alert _ message) (confines.print _ _)

/-- Failing to connect is reported and told. -/
theorem reached_refused (run : Run σ) (error : ConnectError) (host : σ) :
    reaches host (run.refused error host).host :=
  confines.trans (reached_report confines (Run.mk { run.bridge with phase := .running } host) _)
    (reached_inform confines _ _)

/-- Having connected is told. -/
theorem reached_greeted (run : Run σ) (connection : Connection) (host : σ) :
    reaches host (run.greeted connection host).host :=
  reached_inform confines (Run.mk { run.bridge with phase := .running } host) _

theorem reached_shutdownSession (run : Run σ) : reaches run.host run.shutdownSession.host := by
  unfold shutdownSession
  split
  · rename_i dispatcher connection _
    rw [host_dropSession]
    exact Exchange.reached_shutdown confines.toConfines ⟨dispatcher, connection, run.host⟩
  · exact confines.refl _

theorem reached_endSession (run : Run σ) (reason : CloseReason) :
    reaches run.host (run.endSession reason).2.host := by
  have told : reaches run.host (run.dropSession.announce reason).2.host := by
    rw [← host_dropSession run]
    unfold announce
    split
    · exact reached_report confines _ _
    · exact reached_inform confines _ _
  refine confines.trans told ?_
  show reaches _ ((run.dropSession.announce reason).2.endUnlessFinished reason).host
  unfold endUnlessFinished
  split
  · exact confines.refl _
  · exact confines.finish _

/-! ## Taking turns -/

section Delaying

variable (delays : ∀ host ticks, reaches host (Scheduler.register host ⟨.afterDelay ticks, .resume⟩).2)
include delays

theorem reached_scheduleResume (run : Run σ) (ticks : UInt64) :
    reaches run.host (run.scheduleResume ticks).2.host := by
  have asked := delays run.host ticks
  rcases run.scheduleResume_cases ticks with
    ⟨host, registered, same⟩ | ⟨error, host, registered, same⟩
  · rw [registered] at asked
    rw [same]
    exact asked
  · rw [registered] at asked
    rw [same]
    let told := report { run with host } (Error.configuration error).message
    have reported := confines.trans asked
      (reached_report confines { run with host } (Error.configuration error).message)
    exact confines.trans reported
      (confines.trans (reached_shutdownSession confines told) (confines.finish _))

theorem reached_settle (run : Run σ) (outcome : Outcome) :
    reaches run.host (run.settle outcome).2.host := by
  cases outcome with
  | served => exact confines.refl _
  | suspended => exact confines.refl _
  | yielded ticks => exact reached_scheduleResume confines delays run ticks
  | closed reason => exact reached_endSession confines run reason

/-- **What the turns of a call do to the host.** -/
theorem reached_pump {run : Run σ} {dispatcher : Dispatcher} {connection : Connection}
    (live : run.bridge.link = .live dispatcher connection)
    (opened : dispatcher.closeReason = none) (resuming : Bool) :
    reaches run.host (run.pump resuming).2.host := by
  have confined : (Exchange.mk dispatcher connection run.host).Confined reaches _ :=
    confined_turns confines.toConfines run.bridge.configuration.mode resuming opened
  rw [run.pump_of_live live]
  generalize turns run.bridge.configuration.mode resuming ⟨dispatcher, connection, run.host⟩ = turn
    at confined
  obtain ⟨last, reached, same⟩ := confined
  have turned : reaches run.host (run.restore turn.2).host := by
    rw [show (run.restore turn.2).host = _ from same]
    split
    · exact confines.trans reached (confines.finish last)
    · exact reached
  exact confines.trans turned (reached_settle confines delays _ turn.1)

/-- **What the call of an entry point does to the host**, once the start has dialled. -/
theorem reached_invoke {run : Run σ} (coherent : run.bridge.Coherent) (entry : EntryPoint) :
    reaches (if entry = .startup ∧ run.bridge.phase = .loaded then run.dialled.2 else run.host)
      (run.invoke entry).2.host := by
  have goes := run.goes_invoke entry
  generalize run.invoke entry = call at goes
  cases goes with
  | @serves resuming serving dispatcher connection engaged live =>
    have opened := (opened_of_engaged coherent engaged live).1
    refine confines.trans ?_ (reached_pump confines delays live opened resuming)
    rcases engaged_cases engaged with ⟨starts, _, loaded, connection, host, dialled, rfl⟩ | ⟨calls, _, rfl⟩
    · rw [if_pos ⟨starts, loaded⟩, dialled]
      exact reached_greeted confines run connection host
    · have other : entry ≠ .startup := by
        rw [calls]
        split <;> nofun
      rw [if_neg fun starts => other starts.1]
      exact confines.refl _
  | @refused error host _ starts loaded dialled =>
    rw [if_pos ⟨starts, loaded⟩, dialled]
    exact reached_refused confines run error host
  | nothing _ started =>
    rw [if_neg fun starts => started starts.1 starts.2]
    exact confines.refl _
  | ended _ ends =>
    rw [if_neg fun starts => by cases ends.symm.trans starts.1]
    exact confines.refl _
  | @shut dispatcher connection _ ends =>
    rw [if_neg fun starts => by cases ends.symm.trans starts.1]
    exact Exchange.reached_shutdown confines.toConfines ⟨dispatcher, connection, run.host⟩

end Delaying

end Confined

end Run

/-! ## The connection -/

namespace Run

variable {keeps : Connection → Prop} (kept : Connection.Kept keeps)
include kept

/-- What the turns of a callback keep of the connection. -/
theorem kept_turns (mode : DispatchMode) (resuming : Bool) {exchange : Exchange σ}
    (held : keeps exchange.connection) : keeps (turns mode resuming exchange).2.connection := by
  have first : keeps (firstTurn resuming exchange).2.connection := by
    cases resuming with
    | false => exact Exchange.kept_cycle kept held
    | true => exact Exchange.kept_resume kept held
  by_cases served : (firstTurn resuming exchange).1 = .served
  · cases mode with
    | single => exact first
    | drain =>
      rw [turns_drain_of_served (Prod.ext served rfl)]
      exact Exchange.kept_drain kept _ first
  · rwa [turns_of_stopped mode served]

/-- Settling keeps the connection, if only as a record. -/
theorem kept_settle {run : Run σ} {dispatcher : Dispatcher} {connection : Connection}
    (live : run.bridge.link = .live dispatcher connection) (held : keeps connection)
    (outcome : Outcome) :
    ∃ last, (run.settle outcome).2.bridge.link.connection? = some last ∧ keeps last := by
  have lives : run.bridge.link.connection? = some connection := congrArg Link.connection? live
  cases outcome with
  | served => exact ⟨connection, lives, held⟩
  | suspended => exact ⟨connection, lives, held⟩
  | yielded ticks =>
    rcases run.scheduleResume_cases ticks with ⟨host, _, same⟩ | ⟨error, host, _, same⟩
    · rw [show run.settle (.yielded ticks) = _ from same]
      exact ⟨connection, lives, held⟩
    · rw [show run.settle (.yielded ticks) = _ from same]
      let told := report { run with host } (Error.configuration error).message
      have shut : keeps (Exchange.mk dispatcher connection told.host).shutdown.connection :=
        Exchange.kept_shutdown kept held
      refine ⟨_, ?_, kept.close _ shut⟩
      show told.shutdownSession.bridge.link.connection? = _
      unfold shutdownSession
      rw [show told.bridge.link = _ from live]
      rfl
  | closed reason =>
    refine ⟨connection.close, ?_, kept.close connection held⟩
    show (run.endSession reason).2.bridge.link.connection? = _
    rw [bridge_endSession]
    unfold dropSession
    rw [live]
    rfl

/-- **What a call that takes turns keeps of the connection.** -/
theorem kept_pump {run : Run σ} {dispatcher : Dispatcher} {connection : Connection}
    (live : run.bridge.link = .live dispatcher connection) (held : keeps connection)
    (resuming : Bool) :
    ∃ last, (run.pump resuming).2.bridge.link.connection? = some last ∧ keeps last := by
  rw [run.pump_of_live live]
  exact kept_settle kept rfl (kept_turns kept _ resuming held) _

end Run

end Cosimulation
