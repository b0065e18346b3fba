import Cosimulation.Proofs.Bridge.Lifecycle
/-!
# Bridges that are spent

A bridge is spent when the simulation was started and there is no session, neither yet nor any more.
Then no call does anything but take note of the end of the simulation (`invoke_of_spent`), and the
bridge stays spent (`Bridge.Spent.next`).

A bridge ends the run of its simulator only when it has let go of its session, or lets go of it
before it returns.  So a call either leaves its bridge spent, or it has done to its host no more than
the calls do that do not end the run (`reached_or_spent_invoke`).
-/

namespace Cosimulation

set_option autoImplicit false

/-- A bridge without a session in a simulation that was started. -/
structure Bridge.Spent (bridge : Bridge) : Prop where
  idle : bridge.session? = none
  started : bridge.phase ≠ .loaded

namespace Bridge.Spent

variable {bridge : Bridge}

/-- Whether a bridge is spent is a matter of its session and of its phase. -/
theorem of_same (spent : bridge.Spent) {other : Bridge} (session : other.session? = bridge.session?)
    (phase : other.phase = bridge.phase) : other.Spent where
  idle := session.trans spent.idle
  started := phase ▸ spent.started

/-- A spent bridge stays spent when it takes note of how far the simulation has come. -/
theorem next (spent : bridge.Spent) (entry : EntryPoint) :
    Spent { bridge with phase := bridge.phase.next entry } where
  idle := spent.idle
  started := by
    cases entry with
    | startup =>
      show (if bridge.phase = .loaded then .running else bridge.phase) ≠ .loaded
      rw [if_neg spent.started]
      exact spent.started
    | shutdown => nofun
    | service => exact spent.started
    | resume => exact spent.started

end Bridge.Spent

namespace Run

variable {σ : Type} [Host σ] {run : Run σ}

/-- **A call of a spent bridge** returns success and leaves the host alone. -/
theorem invoke_of_spent (spent : run.bridge.Spent) (entry : EntryPoint) :
    run.invoke entry =
      (.success, { run with bridge.phase := run.bridge.phase.next entry }) := by
  cases entry with
  | startup =>
    have same : run.bridge.phase.next .startup = run.bridge.phase := if_neg spent.started
    rw [same]
    exact start_of_started spent.started
  | shutdown =>
    rcases run.conclude_cases with ⟨ended, same⟩ | ⟨_, _, same⟩ | ⟨_, _, _, live, _⟩
    · have stays : run = { run with bridge.phase := .ended } := by rw [← ended]
      exact same.trans (congrArg _ stays)
    · exact same
    · cases spent.idle.symm.trans (session?_of_live live)
  | service => exact run.pump_of_idle spent.idle false
  | resume => exact run.pump_of_idle spent.idle true

/-! ## Calls that end the run -/

variable {reaches : σ → σ → Prop} (confines : Simulator.Confines reaches)
  (alerts : ∀ host message, reaches host (Host.alert host message))
  (delays : ∀ host ticks, reaches host (Scheduler.register host ⟨.afterDelay ticks, .resume⟩).2)
include confines delays

/-- The turns of a call let go of the session, or they have not ended the run. -/
theorem reached_or_idle_pump {dispatcher : Dispatcher} {connection : Connection}
    (live : run.bridge.link = .live dispatcher connection)
    (opened : dispatcher.closeReason = none) (resuming : Bool) :
    reaches run.host (run.pump resuming).2.host ∨ (run.pump resuming).2.bridge.session? = none := by
  have confined : (Exchange.mk dispatcher connection run.host).Confined reaches _ :=
    confined_turns confines run.bridge.configuration.mode resuming opened
  rw [run.pump_of_live live]
  generalize turns run.bridge.configuration.mode resuming ⟨dispatcher, connection, run.host⟩ = turn
    at confined
  obtain ⟨outcome, exchange⟩ := turn
  cases outcome with
  | served => exact .inl (confined.reached nofun)
  | suspended => exact .inl (confined.reached nofun)
  | closed reason => exact .inr (session?_endSession _ reason)
  | yielded ticks =>
    rcases (run.restore exchange).scheduleResume_cases ticks with
      ⟨host, accepted, same⟩ | ⟨error, host, _, same⟩
    · refine .inl ?_
      rw [show (run.restore exchange).settle (.yielded ticks) = _ from same]
      have asked := delays exchange.simulator ticks
      rw [show Scheduler.register exchange.simulator _ = _ from accepted] at asked
      exact confines.trans (confined.reached nofun) asked
    · refine .inr ?_
      rw [show (run.restore exchange).settle (.yielded ticks) = _ from same]
      exact session?_shutdownSession _

include alerts

/-- **A call leaves its bridge spent, or it has not ended the run.** -/
theorem reached_or_spent_invoke (coherent : run.bridge.Coherent) (entry : EntryPoint) :
    reaches (if entry = .startup ∧ run.bridge.phase = .loaded then run.dialled.2 else run.host)
        (run.invoke entry).2.host ∨ (run.invoke entry).2.bridge.Spent := by
  have informs (run : Run σ) (text : String) : reaches run.host (run.inform text).host := by
    unfold inform
    split
    · exact confines.refl _
    · exact confines.print _ _
  have goes := run.goes_invoke entry
  generalize run.invoke entry = call at goes
  cases goes with
  | @serves resuming serving dispatcher connection engaged live =>
    obtain ⟨opened, running⟩ := opened_of_engaged coherent engaged live
    rcases reached_or_idle_pump confines delays live opened resuming with reached | idle
    · refine .inl (confines.trans ?_ reached)
      rcases engaged_cases engaged with
        ⟨starts, _, loaded, connection, host, dialled, rfl⟩ | ⟨calls, _, rfl⟩
      · rw [if_pos ⟨starts, loaded⟩, dialled]
        exact informs (Run.mk { run.bridge with phase := .running } host) _
      · have other : entry ≠ .startup := by
          rw [calls]
          split <;> nofun
        rw [if_neg fun starts => other starts.1]
        exact confines.refl _
    · refine .inr ⟨idle, ?_⟩
      rw [pump_of_live live, phase_settle]
      exact fun loaded => nomatch running.symm.trans loaded
  | @refused error host _ starts loaded dialled =>
    rw [if_pos ⟨starts, loaded⟩, dialled]
    refine .inl (confines.trans ?_ (informs _ _))
    exact confines.trans (alerts _ error.toError.message) (confines.print _ _)
  | nothing _ started =>
    rw [if_neg fun starts => started starts.1 starts.2]
    exact .inl (confines.refl _)
  | ended _ ends =>
    rw [if_neg fun starts => by cases ends.symm.trans starts.1]
    exact .inl (confines.refl _)
  | shut => exact .inr ⟨rfl, nofun⟩

end Run

end Cosimulation
