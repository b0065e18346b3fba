import Cosimulation.Proofs.Session.Application
import Cosimulation.Proofs.Session.Responding
import Cosimulation.Proofs.Session.Run
/-!
# What one turn can do

A session that is open and not suspended takes a turn in one of five ways (`Turn`): no command comes
and it closes; an advance leaves it suspended; a command is answered and the session goes on; the
answer cannot be sent and it closes; or a finish is answered and it closes with the run.  Each way
says what has been written, what has become of the simulator, and what the session is like then, so
that what is proved of every turn is proved by these five cases (`cycle_turn`).
-/

namespace Cosimulation

set_option autoImplicit false

/-! ## Answering -/

namespace Dispatcher

/-- The response that is sent where one is due: that one if it fits, and otherwise the failure that
reports it as too long, if that fits. -/
def Chooses (dispatcher : Dispatcher) (due : Response) (operation : Operation) (sent : Response) :
    Prop :=
  sent.Fits dispatcher.limit ∧
    (sent = due ∨ ¬due.Fits dispatcher.limit ∧ sent = dispatcher.substitute due operation)

theorem Chooses.requestId {dispatcher : Dispatcher} {due sent : Response} {operation : Operation}
    (chooses : dispatcher.Chooses due operation sent) : sent.requestId = due.requestId := by
  rcases chooses.2 with rfl | ⟨_, rfl⟩
  · rfl
  · exact requestId_substitute ..

end Dispatcher

/-- The session that a turn with some outcome leaves behind. -/
def Outcome.Leaves (dispatcher : Dispatcher) : Outcome → Prop
  | .served => dispatcher.closeReason = none ∧ dispatcher.pending = none
  | .yielded ticks => dispatcher.closeReason = none ∧ ∃ id, dispatcher.pending = some ⟨id, ticks⟩
  | .suspended => dispatcher.closeReason = none ∧ dispatcher.pending ≠ none
  | .closed reason => dispatcher.closeReason = some reason

namespace Outcome.Leaves

variable {dispatcher : Dispatcher} {outcome : Outcome}

/-- Only a turn that closes the session leaves it closed. -/
theorem opened (leaves : outcome.Leaves dispatcher) (goes : ∀ reason, outcome ≠ .closed reason) :
    dispatcher.closeReason = none := by
  cases outcome with
  | served => exact leaves.1
  | yielded ticks => exact leaves.1
  | suspended => exact leaves.1
  | closed reason => exact absurd rfl (goes reason)

/-- A turn that neither serves a command nor closes the session leaves it suspended. -/
theorem suspended (leaves : outcome.Leaves dispatcher) (goes : ∀ reason, outcome ≠ .closed reason)
    (stopped : outcome ≠ .served) : dispatcher.pending ≠ none := by
  cases outcome with
  | served => exact absurd rfl stopped
  | yielded ticks =>
    obtain ⟨_, id, waiting⟩ := leaves
    simp [waiting]
  | suspended => exact leaves.2
  | closed reason => exact absurd rfl (goes reason)

end Outcome.Leaves

namespace Exchange

variable {σ : Type}

/-- How answering ends: the chosen response is sent, or an error cuts it off. -/
inductive Responds (before : Exchange σ) (due : Response) (operation : Operation) :
    Except CloseReason Unit → Exchange σ → Prop where
  | sent {sent : Response} {failures : Nat} {channel : Channel} :
      before.dispatcher.Chooses due operation sent →
      before.connection.channel.Wrote sent.frame channel →
      Responds before due operation (.ok ()) { before with
        dispatcher := { before.dispatcher with applyFailures := failures }
        connection := { before.connection with channel } }
  | broke {reason : CloseReason} {front : List UInt8} {failures : Nat} {channel : Channel} :
      reason.isError = true →
      (front = [] ∨ ∃ sent back, before.dispatcher.Chooses due operation sent ∧
        sent.frame = front ++ back) →
      before.connection.channel.Wrote front channel →
      Responds before due operation (.error reason) { before with
        dispatcher := { before.dispatcher with applyFailures := failures }
        connection := { before.connection with channel } }

/-- How answering ends does not depend on the failures counted before it. -/
theorem Responds.of_counted (before : Exchange σ) (failures : Nat) {after : Exchange σ}
    {due : Response} {operation : Operation} {result : Except CloseReason Unit}
    (responds : Responds { before with
      dispatcher := { before.dispatcher with applyFailures := failures } } due operation result after) :
    before.Responds due operation result after := by
  cases responds with
  | sent chooses wrote => exact .sent chooses wrote
  | broke error cut wrote => exact .broke error cut wrote

/-- What stops the sending of a frame is an error. -/
theorem isError_of_send {exchange after : Exchange σ} {frame : List UInt8} {reason : CloseReason}
    (h : exchange.send frame = (.error reason, after)) : reason.isError = true := by
  unfold send at h
  split at h
  · cases h
    rfl
  · cases h

/-- Sending the chosen response, whatever failures have been counted. -/
theorem responds_of_send {before : Exchange σ} {due chosen : Response} {operation : Operation}
    (chooses : before.dispatcher.Chooses due operation chosen) (failures : Nat)
    {result : Except CloseReason Unit} {after : Exchange σ}
    (h : send { before with dispatcher := { before.dispatcher with applyFailures := failures } }
      chosen.frame = (result, after)) :
    before.Responds due operation result after := by
  obtain ⟨channel, front, back, split, wrote, same, whole⟩ := send_wrote
    { before with dispatcher := { before.dispatcher with applyFailures := failures } } chosen.frame
  rw [h] at same whole
  dsimp only at same whole
  subst same
  match result with
  | .ok () =>
    have all : chosen.frame = front := by rw [split, whole rfl, List.append_nil]
    exact .sent chooses (all ▸ wrote)
  | .error reason => exact .broke (isError_of_send h) (.inr ⟨chosen, back, chooses, split⟩) wrote

/-- **How answering ends**, for every response and every channel. -/
theorem respond_responds {before after : Exchange σ} {due : Response} {operation : Operation}
    {result : Except CloseReason Unit} (h : before.respond due operation = (result, after)) :
    before.Responds due operation result after := by
  rw [respond_eq] at h
  rcases before.dispatcher.frameFor_cases due operation with
    ⟨fits, chosen⟩ | ⟨long, fits, chosen⟩ | ⟨_, _, error, chosen⟩
  · rw [chosen] at h
    exact responds_of_send ⟨fits, .inl rfl⟩ before.dispatcher.applyFailures h
  · rw [chosen] at h
    exact responds_of_send ⟨fits, .inr ⟨long, rfl⟩⟩ _ h
  · rw [chosen] at h
    cases h
    exact .broke rfl (.inl rfl) (.refl _)

/-! ## A turn -/

/-- The session that has read the next frame and found a command in it. -/
def listened (exchange : Exchange σ) (state : DispatchState) : Exchange σ :=
  { exchange with
    dispatcher := { exchange.dispatcher with
      state, commands := exchange.dispatcher.commands + 1 }
    connection := exchange.connection.readFrame.2 }

variable [Simulator σ]

/-- How a turn ends of a session that is open and not suspended. -/
inductive Turn (before : Exchange σ) : Outcome → Exchange σ → Prop where
  /-- No command comes. -/
  | idle {reason : CloseReason} : before.upcoming? = none →
      reason = .peerClosed ∨ reason.isError = true →
      Turn before (.closed reason)
        (close { before with connection := before.connection.readFrame.2 } reason).2
  /-- A command lets time pass. -/
  | suspended {command : Command} {ticks : UInt64} : before.upcoming? = some command →
      command.operation = .advance ticks → ticks ≠ 0 →
      Turn before (.yielded ticks)
        ((before.listened .awaitingMessage).suspend command.requestId ticks).2
  /-- A command is answered. -/
  | served {command : Command} {due : Response} {after : Exchange σ} :
      before.upcoming? = some command → ¬command.operation.Suspends →
      due.requestId = command.requestId →
      Responds { before.listened .responding with
        simulator := (command.operation.apply before.simulator).2 } due command.operation
          (.ok ()) after →
      Turn before .served (after.update (·.enter .awaitingMessage))
  /-- The answer to a command is cut off. -/
  | broke {command : Command} {due : Response} {reason : CloseReason} {after : Exchange σ} :
      before.upcoming? = some command → ¬command.operation.Suspends →
      due.requestId = command.requestId →
      Responds { before.listened .responding with
        simulator := (command.operation.apply before.simulator).2 } due command.operation
          (.error reason) after →
      Turn before (.closed reason) (after.close reason).2
  /-- A finish is answered. -/
  | finished {command : Command} {after : Exchange σ} :
      before.upcoming? = some command → command.operation = .finish →
      Responds (before.listened .responding) (.ok command.requestId .ack) .finish (.ok ()) after →
      Turn before (.closed .finished)
        ({ after with simulator := Simulator.finish after.simulator }.close .finished).2

section Cycle

variable {exchange : Exchange σ} {command : Command}

/-- Why a session closes to which no command comes. -/
theorem reason_of_idle (idle : exchange.upcoming? = none)
    (opened : exchange.dispatcher.closeReason = none) (ready : exchange.dispatcher.pending = none)
    {reason : CloseReason} (closed : exchange.cycle.1 = .closed reason) :
    reason = .peerClosed ∨ reason.isError = true := by
  rw [cycle_eq_receive opened ready] at closed
  rw [upcoming?, if_pos ⟨opened, ready⟩] at idle
  unfold receive at closed
  dsimp only [update] at closed
  split at closed
  · cases closed
    unfold CloseReason.ofReadError
    split <;> exact .inr rfl
  · cases closed
    exact .inl rfl
  · rename_i payload found
    rw [found] at idle
    dsimp only at idle
    unfold handle at closed
    cases decoded : (Message.decode payload : Except ProtocolError Command) with
    | error error =>
      rw [decoded] at closed
      cases closed
      exact .inr rfl
    | ok command =>
      rw [decoded] at idle
      cases idle

/-- A turn that answers a command ends as the answering does, whatever failures are counted. -/
theorem turn_of_answer (upcoming : exchange.upcoming? = some command)
    (atOnce : ¬command.operation.Suspends) {due : Response}
    (matching : due.requestId = command.requestId) (failures : Nat) :
    let ready := { exchange.listened .responding with
      simulator := (command.operation.apply exchange.simulator).2
      dispatcher := { (exchange.listened .responding).dispatcher with applyFailures := failures } }
    exchange.Turn (ready.answer due command.operation).1 (ready.answer due command.operation).2 := by
  intro ready
  cases responded : ready.respond due command.operation with
  | mk result after =>
    have responds := Responds.of_counted { exchange.listened .responding with
      simulator := (command.operation.apply exchange.simulator).2 } failures
        (respond_responds responded)
    cases result with
    | error reason =>
      have same : ready.answer due command.operation = after.close reason := by
        simp only [answer, responded]
      rw [same]
      exact .broke upcoming atOnce matching responds
    | ok =>
      have same : ready.answer due command.operation =
          (.served, after.update (·.enter .awaitingMessage)) := by
        simp only [answer, responded]
      rw [same]
      exact .served upcoming atOnce matching responds

/-- A turn that answers a finish ends with the run, or as the answering does. -/
theorem turn_of_finish (upcoming : exchange.upcoming? = some command)
    (ends : command.operation = .finish) :
    let finished := (exchange.listened .responding).finish command.requestId
    exchange.Turn finished.1 finished.2 := by
  intro finished
  have applied : (command.operation.apply exchange.simulator).2 = exchange.simulator := by
    rw [ends]
    rfl
  cases responded : respond (exchange.listened .responding) (.ok command.requestId .ack) .finish with
  | mk result after =>
    have responds := respond_responds responded
    cases result with
    | error reason =>
      have same : finished = after.close reason := by
        simp only [finished, Exchange.finish, responded]
      have atOnce : ¬command.operation.Suspends := by
        rintro ⟨ticks, asks, _⟩
        cases ends.symm.trans asks
      have broken : Responds { exchange.listened .responding with
          simulator := (command.operation.apply exchange.simulator).2 }
          (.ok command.requestId .ack) command.operation (.error reason) after := by
        rw [applied, ends]
        exact responds
      rw [same]
      exact .broke upcoming atOnce rfl broken
    | ok =>
      have same : finished =
          { after with simulator := Simulator.finish after.simulator }.close .finished := by
        simp only [finished, Exchange.finish, responded]
      rw [same]
      exact .finished upcoming ends responds

/-- **A turn of a session that is open and not suspended ends in one of the five ways.** -/
theorem cycle_turn (opened : exchange.dispatcher.closeReason = none)
    (ready : exchange.dispatcher.pending = none) :
    exchange.Turn exchange.cycle.1 exchange.cycle.2 := by
  cases upcoming : exchange.upcoming? with
  | none =>
    rcases cycle_of_idle upcoming with
      ⟨reason, closed, _⟩ | ⟨_, suspended, _⟩ | ⟨_, _, reason, same⟩
    · cases opened.symm.trans closed
    · exact absurd ready suspended
    · have why := reason_of_idle upcoming opened ready (congrArg Prod.fst same)
      rw [same]
      exact .idle upcoming why
  | some command =>
    obtain ⟨_, _, same⟩ := cycle_of_upcoming upcoming
    rw [same]
    unfold execute
    dsimp only [update]
    rcases command.operation.apply_cases exchange.simulator with
      ⟨ends, applied⟩ | ⟨ticks, asks, positive, applied⟩ | ⟨reply, applied, _⟩ | ⟨error, applied, _⟩
    · rw [applied]
      exact turn_of_finish upcoming ends
    · rw [applied]
      exact .suspended upcoming asks positive
    · have atOnce := command.operation.not_suspends_of_apply exchange.simulator fun ticks => by
        rw [applied]
        nofun
      rw [show command.operation.apply exchange.simulator = (.ok (.reply reply), _) from
        Prod.ext applied rfl]
      exact turn_of_answer upcoming atOnce rfl _
    · have atOnce := command.operation.not_suspends_of_apply exchange.simulator fun ticks => by
        rw [applied]
        nofun
      rw [show command.operation.apply exchange.simulator = (.error error, _) from
        Prod.ext applied rfl]
      exact turn_of_answer upcoming atOnce rfl _

/-- An advance by some time suspends the session. -/
theorem cycle_of_advance (opened : exchange.dispatcher.closeReason = none)
    (ready : exchange.dispatcher.pending = none) (upcoming : exchange.upcoming? = some command)
    {ticks : UInt64} (asks : command.operation = .advance ticks) (positive : ticks ≠ 0) :
    exchange.cycle = (.yielded ticks,
      ((exchange.listened .awaitingMessage).suspend command.requestId ticks).2) := by
  have turn := cycle_turn opened ready
  have suspends : command.operation.Suspends := ⟨ticks, asks, positive⟩
  generalize exchange.cycle = cycled at turn
  obtain ⟨outcome, after⟩ := cycled
  cases turn with
  | idle unasked => cases unasked.symm.trans upcoming
  | suspended also same =>
    cases also.symm.trans upcoming
    cases same.symm.trans asks
    rfl
  | served also atOnce =>
    cases also.symm.trans upcoming
    exact absurd suspends atOnce
  | broke also atOnce =>
    cases also.symm.trans upcoming
    exact absurd suspends atOnce
  | finished also ends =>
    cases also.symm.trans upcoming
    cases ends.symm.trans asks

end Cycle

/-! ## The advance that waits -/

/-- The session about to answer the advance that waits: the time has been read. -/
def roused (exchange : Exchange σ) : Exchange σ :=
  { exchange with
    dispatcher := { exchange.dispatcher with pending := none }
    simulator := (Simulator.time exchange.simulator).2 }

/-- The advance that waits is answered with the time. -/
theorem answerPending_responds {exchange : Exchange σ} {advance : PendingAdvance}
    (waiting : exchange.dispatcher.pending = some advance) :
    exchange.roused.Responds
      (.ok advance.requestId (.time (Simulator.time exchange.simulator).1))
      (.advance advance.ticks) exchange.answerPending.1 exchange.answerPending.2 := by
  unfold answerPending
  rw [waiting]
  exact respond_responds rfl

/-- When no advance waits, there is nothing to answer. -/
theorem answerPending_of_none {exchange : Exchange σ}
    (ready : exchange.dispatcher.pending = none) :
    exchange.answerPending = (.ok (), exchange) := by
  unfold answerPending
  rw [ready]

/-- The session with the advance that waits answered, if one does.  It closes if that fails. -/
def wake (exchange : Exchange σ) : Exchange σ :=
  match exchange.dispatcher.closeReason with
  | some _ => exchange
  | none =>
    match exchange.answerPending with
    | (.error reason, after) => (after.close reason).2
    | (.ok (), after) => after

theorem wake_of_closed {exchange : Exchange σ} {reason : CloseReason}
    (closing : exchange.dispatcher.closeReason = some reason) : exchange.wake = exchange := by
  simp only [wake, closing]

/-- A session in which no advance waits is awake. -/
theorem wake_of_ready {exchange : Exchange σ} (ready : exchange.dispatcher.pending = none) :
    exchange.wake = exchange := by
  unfold wake
  rw [answerPending_of_none ready]
  split <;> rfl

/-- How the advance that waits is answered: with the time, or not at all. -/
theorem wake_cases {exchange : Exchange σ} (opened : exchange.dispatcher.closeReason = none)
    {advance : PendingAdvance} (waiting : exchange.dispatcher.pending = some advance) :
    let due := Response.ok advance.requestId (.time (Simulator.time exchange.simulator).1)
    exchange.roused.Responds due (.advance advance.ticks) (.ok ()) exchange.wake ∨
    ∃ reason after, exchange.roused.Responds due (.advance advance.ticks) (.error reason) after ∧
      exchange.wake = (after.close reason).2 := by
  have responds := answerPending_responds waiting
  unfold wake
  rw [opened]
  generalize exchange.answerPending = answered at responds
  obtain ⟨result, after⟩ := answered
  cases result with
  | ok => exact .inl responds
  | error reason => exact .inr ⟨reason, after, responds, rfl⟩

/-! ## What a call leaves behind -/

omit [Simulator σ] in
/-- Answering opens, closes and suspends nothing. -/
theorem Responds.keeps {before after : Exchange σ} {due : Response} {operation : Operation}
    {result : Except CloseReason Unit} (responds : before.Responds due operation result after) :
    after.dispatcher.closeReason = before.dispatcher.closeReason ∧
      after.dispatcher.pending = before.dispatcher.pending ∧
      after.dispatcher.limit = before.dispatcher.limit ∧
      after.simulator = before.simulator := by
  cases responds <;> exact ⟨rfl, rfl, rfl, rfl⟩

theorem Turn.leaves {before after : Exchange σ} {outcome : Outcome}
    (turn : before.Turn outcome after) (opened : before.dispatcher.closeReason = none)
    (ready : before.dispatcher.pending = none) : outcome.Leaves after.dispatcher := by
  cases turn with
  | idle => rfl
  | suspended => exact ⟨opened, _, rfl⟩
  | served _ _ _ responds => exact ⟨responds.keeps.1.trans opened, responds.keeps.2.1.trans ready⟩
  | broke => rfl
  | finished => rfl

/-- A closed session stays closed. -/
theorem cycle_of_closed {exchange : Exchange σ} {reason : CloseReason}
    (closing : exchange.dispatcher.closeReason = some reason) :
    exchange.cycle = (.closed reason, exchange) := by
  simp only [cycle, closing]

/-- A suspended session waits. -/
theorem cycle_of_suspended {exchange : Exchange σ}
    (opened : exchange.dispatcher.closeReason = none)
    (waiting : exchange.dispatcher.pending ≠ none) : exchange.cycle = (.suspended, exchange) := by
  have suspended : exchange.dispatcher.isSuspended = true := Option.isSome_iff_ne_none.2 waiting
  simp only [cycle, opened, suspended, if_true]

/-- **What a cycle leaves behind.** -/
theorem leaves_cycle (exchange : Exchange σ) :
    exchange.cycle.1.Leaves exchange.cycle.2.dispatcher := by
  cases closing : exchange.dispatcher.closeReason with
  | some reason =>
    rw [cycle_of_closed closing]
    exact closing
  | none =>
    by_cases ready : exchange.dispatcher.pending = none
    · exact (cycle_turn closing ready).leaves closing ready
    · rw [cycle_of_suspended closing ready]
      exact ⟨closing, ready⟩

/-- **Resuming is waking and then taking a turn.** -/
theorem resume_eq_cycle_wake (exchange : Exchange σ) : exchange.resume = exchange.wake.cycle := by
  cases closing : exchange.dispatcher.closeReason with
  | some reason => simp only [resume, wake, closing, cycle_of_closed closing]
  | none =>
    simp only [resume, wake, closing]
    generalize exchange.answerPending = answered
    obtain ⟨result, after⟩ := answered
    cases result with
    | ok => rfl
    | error reason => exact (cycle_of_closed rfl).symm

/-- **How a session resumes**: no advance waits and it takes a turn, or the advance is answered and it
takes a turn, or the answer cannot be sent and it closes. -/
theorem resume_cases {exchange : Exchange σ} (opened : exchange.dispatcher.closeReason = none) :
    (exchange.dispatcher.pending = none ∧ exchange.resume = exchange.cycle) ∨
    ∃ advance, exchange.dispatcher.pending = some advance ∧
      let due := Response.ok advance.requestId (.time (Simulator.time exchange.simulator).1)
      (∃ after, exchange.roused.Responds due (.advance advance.ticks) (.ok ()) after ∧
        exchange.resume = after.cycle) ∨
      ∃ reason after, exchange.roused.Responds due (.advance advance.ticks) (.error reason) after ∧
        exchange.resume = after.close reason := by
  unfold resume
  rw [opened]
  cases waiting : exchange.dispatcher.pending with
  | none =>
    refine .inl ⟨rfl, ?_⟩
    simp only [answerPending_of_none waiting]
  | some advance =>
    refine .inr ⟨advance, rfl, ?_⟩
    have responds := answerPending_responds waiting
    generalize exchange.answerPending = answered at responds
    obtain ⟨result, after⟩ := answered
    cases result with
    | ok => exact .inl ⟨after, responds, rfl⟩
    | error reason => exact .inr ⟨reason, after, responds, rfl⟩

/-- A session that is ready does not stay suspended when it cycles. -/
theorem ne_suspended_cycle {exchange : Exchange σ} (opened : exchange.dispatcher.closeReason = none)
    (ready : exchange.dispatcher.pending = none) : exchange.cycle.1 ≠ .suspended := by
  intro suspended
  have turn := cycle_turn opened ready
  rw [suspended] at turn
  cases turn

/-- Nor does any session when it resumes. -/
theorem ne_suspended_resume {exchange : Exchange σ}
    (opened : exchange.dispatcher.closeReason = none) : exchange.resume.1 ≠ .suspended := by
  rcases resume_cases opened with
    ⟨ready, same⟩ | ⟨_, _, ⟨after, responds, same⟩ | ⟨reason, after, _, same⟩⟩
  · rw [same]
    exact ne_suspended_cycle opened ready
  · rw [same]
    exact ne_suspended_cycle (responds.keeps.1.trans opened) responds.keeps.2.1
  · rw [same]
    nofun

/-- A closed session does not resume. -/
theorem resume_of_closed {exchange : Exchange σ} {reason : CloseReason}
    (closing : exchange.dispatcher.closeReason = some reason) :
    exchange.resume = (.closed reason, exchange) := by
  simp only [resume, closing]

/-- **What resuming leaves behind.** -/
theorem leaves_resume (exchange : Exchange σ) :
    exchange.resume.1.Leaves exchange.resume.2.dispatcher := by
  rw [resume_eq_cycle_wake]
  exact leaves_cycle _

/-! ## The limit stays -/

theorem Turn.limit {before after : Exchange σ} {outcome : Outcome} (turn : before.Turn outcome after) :
    after.dispatcher.limit = before.dispatcher.limit := by
  cases turn with
  | idle => rfl
  | suspended => rfl
  | served _ _ _ responds => exact responds.keeps.2.2.1
  | broke _ _ _ responds => exact responds.keeps.2.2.1
  | finished _ _ responds => exact responds.keeps.2.2.1

theorem limit_cycle (exchange : Exchange σ) :
    exchange.cycle.2.dispatcher.limit = exchange.dispatcher.limit := by
  cases closing : exchange.dispatcher.closeReason with
  | some reason => rw [cycle_of_closed closing]
  | none =>
    by_cases ready : exchange.dispatcher.pending = none
    · exact (cycle_turn closing ready).limit
    · rw [cycle_of_suspended closing ready]

theorem limit_answerPending (exchange : Exchange σ) :
    exchange.answerPending.2.dispatcher.limit = exchange.dispatcher.limit := by
  cases waiting : exchange.dispatcher.pending with
  | none => rw [answerPending_of_none waiting]
  | some advance => exact (answerPending_responds waiting).keeps.2.2.1

theorem limit_wake (exchange : Exchange σ) :
    exchange.wake.dispatcher.limit = exchange.dispatcher.limit := by
  have answered := exchange.limit_answerPending
  unfold wake
  split
  · rfl
  · split <;>
    · rename_i found
      rw [found] at answered
      exact answered

theorem limit_shutdown (exchange : Exchange σ) :
    exchange.shutdown.dispatcher.limit = exchange.dispatcher.limit := by
  unfold shutdown
  split
  · rfl
  · exact exchange.limit_answerPending

/-! ## A call decodes one command at most -/

omit [Simulator σ] in
/-- Answering decodes nothing. -/
theorem Responds.commands {before after : Exchange σ} {due : Response} {operation : Operation}
    {result : Except CloseReason Unit} (responds : before.Responds due operation result after) :
    after.dispatcher.commands = before.dispatcher.commands := by
  cases responds <;> rfl

end Exchange

end Cosimulation
