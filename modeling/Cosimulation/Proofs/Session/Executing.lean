import Cosimulation.Proofs.Session.Counting
import Cosimulation.Proofs.Session.Effects
/-!
# What an event makes of the simulator

An event makes of the simulator what the operation of the command makes of it that the event decodes
(`simulator_after_of_decoded`).  An event that decodes none reads the time at most
(`simulator_after_of_none`).

An operation that fails is answered with its error.  If the answer fits into a frame the session goes
on, unless the channel cuts the frame off (`Sends`, `sends_of_failed`).
-/

namespace Cosimulation

set_option autoImplicit false

namespace Exchange

variable {σ : Type}

/-! ## Sending an answer -/

/-- The frame of a response is sent and the session goes on, or the channel is at fault and the
session closes with the frame cut off. -/
inductive Sends (response : Response) (before after : Exchange σ) : Prop where
  | whole : after.connection.channel.written =
      before.connection.channel.written ++ response.frame →
    after.dispatcher.closeReason = none → Sends response before after
  | cut {front back : List UInt8} {text : String} : ¬before.connection.channel.Obliging →
    response.frame = front ++ back →
    after.connection.channel.written = before.connection.channel.written ++ front →
    after.dispatcher.closeReason = some (.connection text) → Sends response before after

/-- An answer that fits is sent. -/
theorem sends_answer {exchange : Exchange σ} {response : Response}
    (opened : exchange.dispatcher.closeReason = none)
    (connected : exchange.connection.isOpen = true)
    (fits : response.Fits exchange.dispatcher.limit) (operation : Operation) :
    Sends response exchange (exchange.answer response operation).2 := by
  have chosen : exchange.dispatcher.frameFor response operation =
      (.ok response.frame, exchange.dispatcher) := by
    rcases exchange.dispatcher.frameFor_cases response operation with
      ⟨_, chosen⟩ | ⟨long, _⟩ | ⟨long, _⟩
    · exact chosen
    · exact absurd fits long
    · exact absurd fits long
  have responded : exchange.respond response operation = exchange.send response.frame := by
    rw [respond_eq, chosen]
  obtain ⟨channel, front, back, split, written, same, whole⟩ := exchange.send_cases response.frame
  unfold answer
  rw [responded]
  cases sent : exchange.send response.frame with
  | mk result after =>
    rw [sent] at same whole
    dsimp only at same whole
    subst same
    cases result with
    | ok =>
      rw [whole rfl, List.append_nil] at split
      exact .whole (split ▸ written) opened
    | error reason =>
      have broken : ¬exchange.connection.channel.Obliging := fun obliging => by
        obtain ⟨calls, took⟩ := exchange.send_of_obliging connected obliging response.frame
        rw [sent] at took
        cases took
      obtain ⟨text, rfl⟩ : ∃ text, reason = .connection text := by
        unfold send at sent
        split at sent <;> cases sent
        exact ⟨_, rfl⟩
      exact .cut broken split ((Connection.written_close _).trans written) rfl

variable [Simulator σ]

/-! ## Cycles -/

/-- A cycle in which no command comes leaves the simulator alone. -/
theorem simulator_cycle_of_idle {exchange : Exchange σ} (idle : exchange.upcoming? = none) :
    exchange.cycle.2.simulator = exchange.simulator := by
  rcases cycle_of_idle idle with ⟨_, _, same⟩ | ⟨_, _, same⟩ | ⟨_, _, _, same⟩
  · rw [same]
  · rw [same]
  · rw [same]
    rfl

/-- A cycle in which a command comes makes of the simulator what its operation does; a finish may end
the run. -/
theorem simulator_cycle {exchange : Exchange σ} {command : Command}
    (upcoming : exchange.upcoming? = some command) :
    exchange.cycle.2.simulator = (command.operation.apply exchange.simulator).2 ∨
      command.operation = .finish ∧
        exchange.cycle.2.simulator = Simulator.finish exchange.simulator := by
  obtain ⟨opened, ready, _⟩ := cycle_of_upcoming upcoming
  have turn := cycle_turn opened ready
  generalize exchange.cycle = cycled at turn
  obtain ⟨outcome, after⟩ := cycled
  cases turn with
  | idle unasked => cases unasked.symm.trans upcoming
  | suspended also asks positive =>
    cases also.symm.trans upcoming
    rw [asks, Operation.apply_of_suspends positive]
    exact .inl rfl
  | served also _ _ responds =>
    cases also.symm.trans upcoming
    exact .inl responds.keeps.2.2.2
  | broke also _ _ responds =>
    cases also.symm.trans upcoming
    exact .inl responds.keeps.2.2.2
  | finished also ends responds =>
    cases also.symm.trans upcoming
    exact .inr ⟨ends, congrArg Simulator.finish responds.keeps.2.2.2⟩

omit [Simulator σ] in
/-- A command comes over an open connection only. -/
theorem connected_of_upcoming {exchange : Exchange σ} {command : Command}
    (upcoming : exchange.upcoming? = some command) : exchange.connection.isOpen = true := by
  by_contra closed
  have refused : exchange.connection.readFrame.1 = .error (.connection .closed) := by
    rw [Connection.readFrame, if_neg closed]
  rw [upcoming?, refused] at upcoming
  split at upcoming <;> cases upcoming

/-- **A command that fails is answered with its error** if the answer fits. -/
theorem sends_cycle_of_failed {exchange : Exchange σ} {command : Command} {error : ApplyError}
    (upcoming : exchange.upcoming? = some command)
    (failed : (command.operation.apply exchange.simulator).1 = .error error)
    (fits : (Response.failed command.requestId error).Fits exchange.dispatcher.limit) :
    Sends (.failed command.requestId error) exchange exchange.cycle.2 := by
  obtain ⟨opened, _, same⟩ := cycle_of_upcoming upcoming
  have connected : exchange.connection.readFrame.2.isOpen = true := by
    obtain ⟨channel, _, read⟩ := exchange.connection.onlyRead_readFrame
    rw [read]
    exact connected_of_upcoming upcoming
  let counted := ((exchange.dispatcher.countCommand.enter .applying).enter .responding).countFailure
  let ready : Exchange σ := ⟨counted, exchange.connection.readFrame.2,
    (command.operation.apply exchange.simulator).2⟩
  have applied : command.operation.apply exchange.simulator = (.error error, ready.simulator) :=
    Prod.ext failed rfl
  have answers : exchange.cycle =
      ready.answer (.failed command.requestId error) command.operation := by
    rw [same]
    unfold execute
    dsimp only [update]
    rw [applied]
  have going : ready.dispatcher.closeReason = none := opened
  have sends : Sends (.failed command.requestId error) ready
      (ready.answer (.failed command.requestId error) command.operation).2 :=
    sends_answer going connected fits command.operation
  rw [answers]
  cases sends with
  | whole written goes => exact .whole (written.trans (by rw [← exchange.written_readFrame])) goes
  | cut broken split written closes =>
    refine .cut (fun obliging => broken ?_) split
      (written.trans (by rw [← exchange.written_readFrame])) closes
    exact Connection.kept_obliging.read _ obliging

/-! ## Events -/

/-- Answering an advance reads the time at most. -/
theorem simulator_wake_cases (exchange : Exchange σ) :
    exchange.wake.simulator = exchange.simulator ∨
      exchange.wake.simulator = (Simulator.time exchange.simulator).2 := by
  cases opened : exchange.dispatcher.closeReason with
  | some reason => exact .inl (by rw [wake_of_closed opened])
  | none =>
    cases waiting : exchange.dispatcher.pending with
    | none => exact .inl (by rw [wake_of_ready waiting])
    | some advance =>
      rcases wake_cases opened waiting with responds | ⟨_, after, responds, same⟩
      · exact .inr responds.keeps.2.2.2
      · rw [same]
        exact .inr responds.keeps.2.2.2

/-- A session that is about to decode has read the time at most. -/
theorem simulator_poised_cases (exchange : Exchange σ) (event : Event σ) :
    (exchange.poised event).simulator = exchange.simulator ∨
      (exchange.poised event).simulator = (Simulator.time exchange.simulator).2 := by
  cases event with
  | resume => exact exchange.simulator_wake_cases
  | cycle | shutdown | change => exact .inl rfl

/-- **What an event makes of the simulator** that decodes a command. -/
theorem simulator_after_of_decoded {exchange : Exchange σ} {event : Event σ} {command : Command}
    (decoded : exchange.decoded? event = some command) :
    let ready := (exchange.poised event).simulator
    (exchange.after event).simulator = (command.operation.apply ready).2 ∨
      command.operation = .finish ∧
        (exchange.after event).simulator = Simulator.finish ready := by
  obtain ⟨upcoming, same⟩ := after_of_decoded decoded
  rw [same]
  exact simulator_cycle upcoming

/-- **What an event makes of the simulator** that decodes nothing. -/
theorem simulator_after_of_none {exchange : Exchange σ} {event : Event σ}
    (undecoded : exchange.decoded? event = none) :
    (exchange.after event).simulator = event.apart exchange.simulator ∨
      (exchange.after event).simulator = (Simulator.time exchange.simulator).2 := by
  cases event with
  | cycle => exact .inl (simulator_cycle_of_idle undecoded)
  | resume =>
    rw [decoded?_resume] at undecoded
    rw [after, resume_eq_cycle_wake, simulator_cycle_of_idle undecoded]
    exact exchange.simulator_wake_cases
  | shutdown => exact exchange.simulator_shutdown
  | change change => exact .inl rfl

end Exchange

end Cosimulation
