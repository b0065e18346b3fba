import Cosimulation.Proofs.Session.Draining
/-!
# A closed session is closed for good

Whether a session is closed is written down in four places: the state of its dispatcher, the reason,
the connection, and the channel, which was shut down or was not.  Between two calls the four agree:
a session awaits a message over an open connection (`Awaits`), or it has ended for a reason, its
connection is closed, the channel was shut down once, and no advance waits any more (`Ended`).  The
outcome of a call says which of the two it is (`Outcome.Reaches`, `reaches_cycle`, `reaches_resume`,
`reaches_drain`).

A session that has ended does nothing more, whatever is asked of it (`run_of_closing`).
-/

namespace Cosimulation

set_option autoImplicit false

variable {σ : Type}

namespace Exchange

/-- The session awaits a message, over a connection that is open. -/
structure Awaits (shutdowns : Nat) (exchange : Exchange σ) : Prop where
  state : exchange.dispatcher.state = .awaitingMessage
  opened : exchange.dispatcher.closeReason = none
  connected : exchange.connection.isOpen = true
  unshut : exchange.connection.channel.shutdowns = shutdowns

/-- The session has ended, and with it the connection, whose channel was shut down once more. -/
structure Ended (shutdowns : Nat) (reason : CloseReason) (exchange : Exchange σ) : Prop where
  state : exchange.dispatcher.state = .closed
  closed : exchange.dispatcher.closeReason = some reason
  settled : exchange.dispatcher.pending = none
  disconnected : exchange.connection.isOpen = false
  shut : exchange.connection.channel.shutdowns = shutdowns + 1

/-- What holds of a session between two calls. -/
def Coherent (shutdowns : Nat) (exchange : Exchange σ) : Prop :=
  exchange.Awaits shutdowns ∨ ∃ reason, exchange.Ended shutdowns reason

theorem Coherent.awaits {shutdowns : Nat} {exchange : Exchange σ}
    (coherent : exchange.Coherent shutdowns) (opened : exchange.dispatcher.closeReason = none) :
    exchange.Awaits shutdowns := by
  rcases coherent with awaits | ⟨reason, ended⟩
  · exact awaits
  · cases opened.symm.trans ended.closed

end Exchange

/-- The session that a call with some outcome leaves behind. -/
def Outcome.Reaches (shutdowns : Nat) (exchange : Exchange σ) : Outcome → Prop
  | .closed reason => exchange.Ended shutdowns reason
  | _ => exchange.Awaits shutdowns

theorem Outcome.Reaches.coherent {shutdowns : Nat} {exchange : Exchange σ} {outcome : Outcome}
    (reaches : outcome.Reaches shutdowns exchange) : exchange.Coherent shutdowns := by
  cases outcome with
  | closed reason => exact .inr ⟨reason, reaches⟩
  | served => exact .inl reaches
  | yielded ticks => exact .inl reaches
  | suspended => exact .inl reaches

namespace Exchange

variable {exchange before after : Exchange σ} {shutdowns : Nat} {reason : CloseReason}

/-! ## One call -/

/-- A session ends when it is closed, provided that no advance waits. -/
theorem ended_close (exchange : Exchange σ) (connected : exchange.connection.isOpen = true)
    (unshut : exchange.connection.channel.shutdowns = shutdowns)
    (settled : exchange.dispatcher.pending = none) (reason : CloseReason) :
    (exchange.close reason).2.Ended shutdowns reason := by
  have closed : exchange.connection.close =
      { exchange.connection with
        isOpen := false, channel := exchange.connection.channel.shutdown } := if_pos connected
  have once : (exchange.close reason).2.connection.channel.shutdowns = shutdowns + 1 := by
    rw [← unshut]
    exact congrArg (·.channel.shutdowns) closed
  exact ⟨rfl, rfl, settled, congrArg Connection.isOpen closed, once⟩

/-- Reading neither closes the connection nor shuts the channel down. -/
theorem untouched_readFrame (connection : Connection) :
    connection.readFrame.2.isOpen = connection.isOpen ∧
      connection.readFrame.2.channel.shutdowns = connection.channel.shutdowns := by
  obtain ⟨channel, ⟨taken, arrivals, rfl⟩, read⟩ := connection.onlyRead_readFrame
  rw [read]
  exact ⟨rfl, rfl⟩

/-- Neither does answering. -/
theorem Responds.untouched {due : Response} {operation : Operation}
    {result : Except CloseReason Unit} (responds : before.Responds due operation result after) :
    after.dispatcher.state = before.dispatcher.state ∧
      after.connection.isOpen = before.connection.isOpen ∧
      after.connection.channel.shutdowns = before.connection.channel.shutdowns := by
  cases responds with
  | sent _ wrote =>
    obtain ⟨_, _, _, rfl⟩ := wrote
    exact ⟨rfl, rfl, rfl⟩
  | broke _ _ wrote =>
    obtain ⟨_, _, _, rfl⟩ := wrote
    exact ⟨rfl, rfl, rfl⟩

variable [Simulator σ]

/-- **A turn leaves the session as its outcome says.** -/
theorem Turn.reaches {outcome : Outcome} (turn : before.Turn outcome after)
    (awaits : before.Awaits shutdowns) (ready : before.dispatcher.pending = none) :
    outcome.Reaches shutdowns after := by
  obtain ⟨still, unshut⟩ := untouched_readFrame before.connection
  have connected := still.trans awaits.connected
  have unshut := unshut.trans awaits.unshut
  cases turn with
  | idle =>
    exact ended_close { before with connection := before.connection.readFrame.2 } connected unshut
      ready _
  | suspended => exact ⟨rfl, awaits.opened, connected, unshut⟩
  | served _ _ _ responds =>
    obtain ⟨_, linked, shut⟩ := responds.untouched
    exact ⟨rfl, responds.keeps.1.trans awaits.opened, linked.trans connected, shut.trans unshut⟩
  | broke _ _ _ responds =>
    obtain ⟨_, linked, shut⟩ := responds.untouched
    exact ended_close _ (linked.trans connected) (shut.trans unshut)
      (responds.keeps.2.1.trans ready) _
  | @finished _ answered _ _ responds =>
    obtain ⟨_, linked, shut⟩ := responds.untouched
    exact ended_close { answered with simulator := Simulator.finish answered.simulator }
      (linked.trans connected) (shut.trans unshut) (responds.keeps.2.1.trans ready) _

/-- **What a cycle reaches.** -/
theorem reaches_cycle (coherent : exchange.Coherent shutdowns) :
    exchange.cycle.1.Reaches shutdowns exchange.cycle.2 := by
  rcases coherent with awaits | ⟨reason, ended⟩
  · by_cases ready : exchange.dispatcher.pending = none
    · exact (cycle_turn awaits.opened ready).reaches awaits ready
    · rw [cycle_of_suspended awaits.opened ready]
      exact awaits
  · rw [cycle_of_closed ended.closed]
    exact ended

/-- An advance is answered over the connection as it is. -/
theorem awaits_of_roused {due : Response} {operation : Operation}
    {result : Except CloseReason Unit}
    (responds : exchange.roused.Responds due operation result after)
    (awaits : exchange.Awaits shutdowns) : after.Awaits shutdowns := by
  obtain ⟨state, linked, shut⟩ := responds.untouched
  exact ⟨state.trans awaits.state, responds.keeps.1.trans awaits.opened,
    linked.trans awaits.connected, shut.trans awaits.unshut⟩

/-- **Waking leaves the session coherent.** -/
theorem Coherent.wake (coherent : exchange.Coherent shutdowns) : exchange.wake.Coherent shutdowns := by
  rcases coherent with awaits | ⟨reason, ended⟩
  · cases waiting : exchange.dispatcher.pending with
    | none =>
      rw [wake_of_ready waiting]
      exact .inl awaits
    | some advance =>
      rcases wake_cases awaits.opened waiting with responds | ⟨reason, after, responds, same⟩
      · exact .inl (awaits_of_roused responds awaits)
      · have answered := awaits_of_roused responds awaits
        rw [same]
        exact .inr ⟨reason, ended_close _ answered.connected answered.unshut responds.keeps.2.1 _⟩
  · rw [wake_of_closed ended.closed]
    exact .inr ⟨reason, ended⟩

/-- **What resuming reaches.** -/
theorem reaches_resume (coherent : exchange.Coherent shutdowns) :
    exchange.resume.1.Reaches shutdowns exchange.resume.2 := by
  rw [resume_eq_cycle_wake]
  exact reaches_cycle coherent.wake

/-- **What draining reaches.** -/
theorem reaches_drain (exchange : Exchange σ) (coherent : exchange.Coherent shutdowns) :
    exchange.drain.1.Reaches shutdowns exchange.drain.2 := by
  induction exchange using drain_induction with
  | stopped exchange stopped =>
    rw [drain_of_stopped stopped]
    exact reaches_cycle coherent
  | served exchange after served ih =>
    have reached := reaches_cycle coherent
    rw [served] at reached
    rw [drain_of_served served]
    exact ih reached.coherent

/-- A session that has ended is not shut down again. -/
theorem shutdown_of_closed (closed : exchange.dispatcher.closeReason = some reason) :
    exchange.shutdown = exchange := by
  simp only [shutdown, closed]

/-- An open session is closed when it is shut down. -/
theorem shutdown_of_opened (opened : exchange.dispatcher.closeReason = none) :
    exchange.shutdown = (exchange.answerPending.2.close .shutdown).2 := by
  simp only [shutdown, opened]

theorem closeReason_shutdown (opened : exchange.dispatcher.closeReason = none) :
    exchange.shutdown.dispatcher.closeReason = some .shutdown := by
  rw [shutdown_of_opened opened]
  rfl

/-- **Shutting down ends the session**, if it has not ended already. -/
theorem ended_shutdown (awaits : exchange.Awaits shutdowns) :
    exchange.shutdown.Ended shutdowns .shutdown := by
  rw [shutdown_of_opened awaits.opened]
  cases waiting : exchange.dispatcher.pending with
  | none =>
    rw [answerPending_of_none waiting]
    exact ended_close _ awaits.connected awaits.unshut waiting _
  | some advance =>
    have responds := answerPending_responds waiting
    have answered := awaits_of_roused responds awaits
    exact ended_close _ answered.connected answered.unshut responds.keeps.2.1 _

/-- **Shutting down leaves the session coherent.** -/
theorem Coherent.shutdown (coherent : exchange.Coherent shutdowns) :
    exchange.shutdown.Coherent shutdowns := by
  rcases coherent with awaits | ⟨reason, ended⟩
  · exact .inr ⟨_, ended_shutdown awaits⟩
  · rw [shutdown_of_closed ended.closed]
    exact .inr ⟨reason, ended⟩

/-! ## Every run -/

/-- **Every event leaves the session coherent.** -/
theorem Coherent.step (coherent : exchange.Coherent shutdowns) (event : Event σ) :
    (exchange.after event).Coherent shutdowns := by
  cases event with
  | cycle => exact (reaches_cycle coherent).coherent
  | resume => exact (reaches_resume coherent).coherent
  | shutdown => exact coherent.shutdown
  | change =>
    rcases coherent with awaits | ⟨reason, ended⟩
    · exact .inl ⟨awaits.state, awaits.opened, awaits.connected, awaits.unshut⟩
    · exact .inr ⟨reason, ended.state, ended.closed, ended.settled, ended.disconnected, ended.shut⟩

theorem Coherent.run (coherent : exchange.Coherent shutdowns) (events : List (Event σ)) :
    (exchange.run events).Coherent shutdowns := by
  induction events generalizing exchange with
  | nil => exact coherent
  | cons event events ih => exact ih (coherent.step event)

omit [Simulator σ] in
/-- A session begins by awaiting a message. -/
theorem awaits_begin (limit readLimit : Nat) (channel : Channel) (peer : String) (simulator : σ) :
    (begin limit (.ofChannel channel peer readLimit) simulator).Awaits channel.shutdowns :=
  ⟨rfl, rfl, rfl, rfl⟩

omit [Simulator σ] in
/-- Letting go of a session closes its connection, unless that has been done. -/
theorem Coherent.shutdowns_close (coherent : exchange.Coherent shutdowns) :
    exchange.connection.close.channel.shutdowns = shutdowns + 1 := by
  unfold Connection.close
  rcases coherent with awaits | ⟨reason, ended⟩
  · rw [if_pos awaits.connected]
    exact congrArg (· + 1) awaits.unshut
  · rw [if_neg (by simp [ended.disconnected])]
    exact ended.shut

/-- **The closed state is coherent and final.**  Between any calls a session awaits a message or is
closed.  It is closed exactly if there is a reason, exactly if its connection is closed, and exactly
if the channel was shut down once since the session began, and not at all otherwise; then no advance
waits.  The reason is the one that the call which closed the session answered.  From then on every
cycle and every resuming answers that reason, and no call changes anything: not the session, not the
connection and its channel, and, whatever simulator there is, not the simulator, which changes only
as it does apart from the session.  Letting go of the session shuts the channel down only if that
has not been done. -/
theorem closed_for_good (limit readLimit : Nat) (peer : String) (channel : Channel)
    (simulator : σ) (events : List (Event σ)) :
    let last := (begin limit (.ofChannel channel peer readLimit) simulator).run events
    let shutdowns := last.connection.channel.shutdowns
    (last.dispatcher.state = .awaitingMessage ∨ last.dispatcher.state = .closed) ∧
    (last.dispatcher.state = .closed ↔ last.dispatcher.closeReason ≠ none) ∧
    (last.dispatcher.state = .closed ↔ last.connection.isOpen = false) ∧
    (last.dispatcher.state = .closed ↔ shutdowns = channel.shutdowns + 1) ∧
    (last.dispatcher.state ≠ .closed ↔ shutdowns = channel.shutdowns) ∧
    (last.dispatcher.state = .closed → last.dispatcher.isSuspended = false) ∧
    last.connection.close.channel.shutdowns = channel.shutdowns + 1 ∧
    (∀ reason, last.cycle.1 = .closed reason → last.cycle.2.dispatcher.closeReason = some reason) ∧
    (∀ reason, last.resume.1 = .closed reason →
      last.resume.2.dispatcher.closeReason = some reason) ∧
    ∀ reason, last.dispatcher.closeReason = some reason →
      last.connection.close = last.connection ∧
      ∀ later, let final := last.run later
        final = { last with
          simulator := later.foldl (fun simulator event => event.apart simulator) last.simulator } ∧
        final.cycle = (.closed reason, final) ∧
        final.resume = (.closed reason, final) ∧
        final.shutdown = final := by
  intro last shutdowns
  have coherent : last.Coherent channel.shutdowns :=
    Coherent.run (.inl (awaits_begin limit readLimit channel peer simulator)) events
  have answers : (∀ reason, last.cycle.1 = .closed reason →
        last.cycle.2.dispatcher.closeReason = some reason) ∧
      (∀ reason, last.resume.1 = .closed reason →
        last.resume.2.dispatcher.closeReason = some reason) := by
    have cycled := leaves_cycle last
    have resumed := leaves_resume last
    exact ⟨fun reason closes => by rwa [closes] at cycled,
      fun reason closes => by rwa [closes] at resumed⟩
  have dropped := coherent.shutdowns_close
  rcases coherent with awaits | ⟨reason, ended⟩
  · have linked : last.dispatcher.state ≠ .closed := by
      rw [awaits.state]
      nofun
    have unshut : shutdowns = channel.shutdowns := awaits.unshut
    exact ⟨.inl awaits.state, by simp [linked, awaits.opened], by simp [linked, awaits.connected],
      by simp [linked, unshut], by simp [linked, unshut], fun closed => absurd closed linked, dropped,
      answers.1, answers.2, fun reason closed => by cases awaits.opened.symm.trans closed⟩
  · have shut : shutdowns = channel.shutdowns + 1 := ended.shut
    refine ⟨.inr ended.state, by simp [ended.state, ended.closed],
      by simp [ended.state, ended.disconnected], by simp [ended.state, shut],
      by simp [ended.state, shut], fun _ => by simp [Dispatcher.isSuspended, ended.settled], dropped,
      answers.1, answers.2, fun first closed => ⟨?_, fun later => ?_⟩⟩
    · exact if_neg (by simp [ended.disconnected])
    · have same := run_of_closing closed later
      have still : (last.run later).dispatcher.closeReason = some first := by
        rw [same]
        exact closed
      exact ⟨same, cycle_of_closed still, resume_of_closed still, shutdown_of_closed still⟩

end Exchange

end Cosimulation
