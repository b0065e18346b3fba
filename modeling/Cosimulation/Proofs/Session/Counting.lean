import Cosimulation.Proofs.Session.Oversize
/-!
# How commands and failures are counted

A session counts a command when it is decoded, and a failure at two places: when an operation fails,
and when a response turns out to be too long.  Whether an answer is then sent, and whether the channel
takes it, makes no difference.  So what a call counts follows from the command that it decodes and from
the response that is due for it (`counts_execute`, `counts_cycle`), and answering an advance counts
nothing (`counts_wake`).  A response that is both a failure and too long is counted twice
(`Response.strikes`).
-/

namespace Cosimulation

set_option autoImplicit false

/-- What has been counted between two states of a session. -/
structure Dispatcher.Counts (before : Dispatcher) (commands failures : Nat) (after : Dispatcher) :
    Prop where
  commands : after.commands = before.commands + commands
  failures : after.applyFailures = before.applyFailures + failures

namespace Dispatcher.Counts

variable {before middle after : Dispatcher}

theorem refl (dispatcher : Dispatcher) : dispatcher.Counts 0 0 dispatcher := ⟨rfl, rfl⟩

theorem trans {commands failures moreCommands moreFailures : Nat}
    (first : before.Counts commands failures middle)
    (second : middle.Counts moreCommands moreFailures after) :
    before.Counts (commands + moreCommands) (failures + moreFailures) after where
  commands := by rw [second.commands, first.commands, Nat.add_assoc]
  failures := by rw [second.failures, first.failures, Nat.add_assoc]

end Dispatcher.Counts

namespace Response

/-- How often a response is counted as too long. -/
def excess (limit : Nat) (response : Response) : Nat :=
  if response.Fits limit then 0 else 1

/-- How often a command is counted as failed for which the response is due. -/
def strikes (limit : Nat) (response : Response) : Nat :=
  (if response.isOk then 0 else 1) + response.excess limit

theorem strikes_ok (limit : Nat) (id : RequestId) (reply : Reply) :
    (ok id reply).strikes limit = (ok id reply).excess limit :=
  Nat.zero_add _

theorem strikes_failed (limit : Nat) (id : RequestId) (error : ApplyError) :
    (failed id error).strikes limit = 1 + (failed id error).excess limit := rfl

theorem strikes_of_fits {limit : Nat} {response : Response} (fits : response.Fits limit) :
    response.strikes limit = if response.isOk then 0 else 1 := by
  rw [strikes, excess, if_pos fits, Nat.add_zero]

theorem excess_of_isShort {limit : Nat} (least : 256 ≤ limit) (id : RequestId) {reply : Reply}
    (short : reply.IsShort) : (ok id reply).excess limit = 0 :=
  if_pos (fits_of_isShort least id short)

end Response

/-- Choosing the frame of an answer counts whether the response is too long. -/
theorem Dispatcher.counts_frameFor (dispatcher : Dispatcher) (response : Response)
    (operation : Operation) :
    dispatcher.Counts 0 (response.excess dispatcher.limit)
      (dispatcher.frameFor response operation).2 := by
  unfold Response.excess
  rcases dispatcher.frameFor_cases response operation with
    ⟨fits, chosen⟩ | ⟨long, _, chosen⟩ | ⟨long, _, error, chosen⟩
  · rw [chosen, if_pos fits]
    exact .refl dispatcher
  · rw [chosen, if_neg long]
    exact ⟨rfl, rfl⟩
  · rw [chosen, if_neg long]
    exact ⟨rfl, rfl⟩

namespace Exchange

variable {σ : Type}

/-! ## Answering -/

/-- Sending counts nothing, however it goes. -/
theorem dispatcher_respond (exchange : Exchange σ) (response : Response) (operation : Operation) :
    (exchange.respond response operation).2.dispatcher =
      (exchange.dispatcher.frameFor response operation).2 := by
  unfold respond
  generalize exchange.dispatcher.frameFor response operation = chosen
  obtain ⟨result, dispatcher⟩ := chosen
  cases result with
  | error reason => rfl
  | ok frame =>
    dsimp only
    split <;> rfl

theorem counts_respond (exchange : Exchange σ) (response : Response) (operation : Operation) :
    exchange.dispatcher.Counts 0 (response.excess exchange.dispatcher.limit)
      (exchange.respond response operation).2.dispatcher := by
  rw [dispatcher_respond]
  exact exchange.dispatcher.counts_frameFor response operation

theorem counts_answer (exchange : Exchange σ) (response : Response) (operation : Operation) :
    exchange.dispatcher.Counts 0 (response.excess exchange.dispatcher.limit)
      (exchange.answer response operation).2.dispatcher := by
  have counts := exchange.counts_respond response operation
  unfold answer
  split <;>
  · rename_i found
    rw [found] at counts
    exact ⟨counts.commands, counts.failures⟩

/-- A response that is too long, and whose substitute is too long as well, closes the session. -/
theorem answer_of_long (exchange : Exchange σ) {response : Response} {operation : Operation}
    (long : ¬response.Fits exchange.dispatcher.limit)
    (also : ¬(exchange.dispatcher.substitute response operation).Fits exchange.dispatcher.limit) :
    ∃ error : ProtocolError, exchange.answer response operation =
      { exchange with dispatcher := exchange.dispatcher.countFailure }.close
        (.protocol error.message) := by
  rcases exchange.dispatcher.frameFor_cases response operation with
    ⟨fits, _⟩ | ⟨_, fits, _⟩ | ⟨_, _, error, chosen⟩
  · exact absurd fits long
  · exact absurd fits also
  · exact ⟨error, by rw [answer, respond_eq, chosen]⟩

end Exchange

/-- How often a command is counted as failed. -/
def Command.strikes {σ : Type} [Simulator σ] (limit : Nat) (simulator : σ) (command : Command) :
    Nat :=
  match Response.due? command.requestId (command.operation.apply simulator).1 with
  | none => 0
  | some due => due.strikes limit

namespace Exchange

variable {σ : Type} [Simulator σ]

theorem counts_finish (exchange : Exchange σ) (id : RequestId) :
    exchange.dispatcher.Counts 0 ((Response.ok id .ack).excess exchange.dispatcher.limit)
      (exchange.finish id).2.dispatcher := by
  have counts := exchange.counts_respond (.ok id .ack) .finish
  unfold finish
  split <;>
  · rename_i found
    rw [found] at counts
    exact ⟨counts.commands, counts.failures⟩

/-! ## Executing -/

/-- **What executing a command counts.** -/
theorem counts_execute (exchange : Exchange σ) (command : Command) :
    exchange.dispatcher.Counts 0 (command.strikes exchange.dispatcher.limit exchange.simulator)
      (exchange.execute command).2.dispatcher := by
  unfold Command.strikes execute
  generalize command.operation.apply exchange.simulator = applying
  obtain ⟨applied, simulator⟩ := applying
  match applied with
  | .ok (.reply reply) =>
    have counts := counts_answer ({ exchange with simulator }.update (·.enter .responding))
      (.ok command.requestId reply) command.operation
    rw [← Response.strikes_ok] at counts
    exact ⟨counts.commands, counts.failures⟩
  | .ok (.advance ticks) => exact ⟨rfl, rfl⟩
  | .ok .finish =>
    have counts := counts_finish ({ exchange with simulator }.update (·.enter .responding))
      command.requestId
    rw [← Response.strikes_ok] at counts
    exact ⟨counts.commands, counts.failures⟩
  | .error error =>
    have counts := counts_answer
      (({ exchange with simulator }.update (·.enter .responding)).update Dispatcher.countFailure)
      (.failed command.requestId error) command.operation
    have failed : exchange.dispatcher.Counts 0 1 (exchange.dispatcher.enter .responding).countFailure :=
      ⟨rfl, rfl⟩
    exact failed.trans counts

/-- **What a cycle counts** in which a command comes. -/
theorem counts_cycle {exchange : Exchange σ} {command : Command}
    (upcoming : exchange.upcoming? = some command) :
    exchange.dispatcher.Counts 1 (command.strikes exchange.dispatcher.limit exchange.simulator)
      exchange.cycle.2.dispatcher := by
  obtain ⟨_, _, same⟩ := cycle_of_upcoming upcoming
  have decoded : exchange.dispatcher.Counts 1 0
      (exchange.dispatcher.countCommand.enter .applying) := ⟨rfl, rfl⟩
  have counts := decoded.trans (counts_execute ({ exchange with
    connection := exchange.connection.readFrame.2 }.update
      fun dispatcher => dispatcher.countCommand.enter .applying) command)
  rw [Nat.zero_add] at counts
  rw [same]
  exact counts

/-- A cycle in which no command comes counts nothing. -/
theorem counts_cycle_of_idle {exchange : Exchange σ} (idle : exchange.upcoming? = none) :
    exchange.dispatcher.Counts 0 0 exchange.cycle.2.dispatcher := by
  rcases cycle_of_idle idle with ⟨_, _, same⟩ | ⟨_, _, same⟩ | ⟨_, _, _, same⟩ <;>
  · rw [same]
    exact ⟨rfl, rfl⟩

/-! ## Advances -/

section Advances

variable {exchange : Exchange σ} (least : 256 ≤ exchange.dispatcher.limit)
include least

/-- The time with which an advance is answered is never too long. -/
theorem counts_answerPending :
    exchange.dispatcher.Counts 0 0 exchange.answerPending.2.dispatcher := by
  unfold answerPending
  split
  · exact .refl exchange.dispatcher
  · rename_i advance _
    have counts := counts_respond exchange.roused
      (.ok advance.requestId (.time (Simulator.time exchange.simulator).1)) (.advance advance.ticks)
    have fitting : 256 ≤ exchange.roused.dispatcher.limit := least
    rw [Response.excess_of_isShort fitting _ (.inr (.inr ⟨_, rfl⟩))] at counts
    exact ⟨counts.commands, counts.failures⟩

/-- **Answering an advance counts nothing.** -/
theorem counts_wake : exchange.dispatcher.Counts 0 0 exchange.wake.dispatcher := by
  have counts := counts_answerPending least
  unfold wake
  split
  · exact .refl exchange.dispatcher
  · split <;>
    · rename_i found
      rw [found] at counts
      exact ⟨counts.commands, counts.failures⟩

/-- Nor does shutting down. -/
theorem counts_shutdown : exchange.dispatcher.Counts 0 0 exchange.shutdown.dispatcher := by
  have counts := counts_answerPending least
  unfold shutdown
  split
  · exact .refl exchange.dispatcher
  · exact ⟨counts.commands, counts.failures⟩

end Advances

/-! ## Events -/

/-- The session as it is when an event makes it decode: one that resumes has answered its advance. -/
def poised (exchange : Exchange σ) : Event σ → Exchange σ
  | .resume => exchange.wake
  | _ => exchange

/-- A session that resumes decodes what a cycle decodes behind the answer. -/
theorem decoded?_resume (exchange : Exchange σ) :
    exchange.decoded? .resume = exchange.wake.upcoming? := by
  have none_of_closed {closed : Exchange σ} {reason : CloseReason}
      (closing : closed.dispatcher.closeReason = some reason) : closed.upcoming? = none :=
    if_neg fun opened => by cases closing.symm.trans opened.1
  unfold decoded? wake
  cases closing : exchange.dispatcher.closeReason with
  | some reason => exact (none_of_closed closing).symm
  | none =>
    generalize exchange.answerPending = answered
    obtain ⟨result, after⟩ := answered
    cases result with
    | error reason => exact (none_of_closed rfl).symm
    | ok => rfl

/-- An event that decodes a command takes a turn with it. -/
theorem after_of_decoded {exchange : Exchange σ} {event : Event σ} {command : Command}
    (decoded : exchange.decoded? event = some command) :
    (exchange.poised event).upcoming? = some command ∧
      exchange.after event = (exchange.poised event).cycle.2 := by
  cases event with
  | cycle => exact ⟨decoded, rfl⟩
  | resume =>
    rw [decoded?_resume] at decoded
    exact ⟨decoded, by rw [after, resume_eq_cycle_wake]; rfl⟩
  | shutdown => cases decoded
  | change => cases decoded

theorem limit_poised (exchange : Exchange σ) (event : Event σ) :
    (exchange.poised event).dispatcher.limit = exchange.dispatcher.limit := by
  cases event with
  | resume => exact exchange.limit_wake
  | cycle | shutdown | change => rfl

theorem limit_after (exchange : Exchange σ) (event : Event σ) :
    (exchange.after event).dispatcher.limit = exchange.dispatcher.limit := by
  cases event with
  | cycle => exact exchange.limit_cycle
  | resume =>
    rw [after, resume_eq_cycle_wake, limit_cycle]
    exact exchange.limit_wake
  | shutdown => exact exchange.limit_shutdown
  | change => rfl

theorem limit_run (exchange : Exchange σ) (events : List (Event σ)) :
    (exchange.run events).dispatcher.limit = exchange.dispatcher.limit := by
  induction events generalizing exchange with
  | nil => rfl
  | cons event events ih => exact (ih _).trans (exchange.limit_after event)

theorem counts_poised {exchange : Exchange σ} (least : 256 ≤ exchange.dispatcher.limit)
    (event : Event σ) : exchange.dispatcher.Counts 0 0 (exchange.poised event).dispatcher := by
  cases event with
  | resume => exact counts_wake least
  | cycle | shutdown | change => exact .refl exchange.dispatcher

/-- **What an event counts**: nothing, or the command that it decodes and its failure. -/
theorem counts_after {exchange : Exchange σ} (least : 256 ≤ exchange.dispatcher.limit)
    (event : Event σ) :
    (exchange.decoded? event = none →
      exchange.dispatcher.Counts 0 0 (exchange.after event).dispatcher) ∧
    ∀ command, exchange.decoded? event = some command →
      exchange.dispatcher.Counts 1
        (command.strikes exchange.dispatcher.limit (exchange.poised event).simulator)
        (exchange.after event).dispatcher := by
  constructor
  · intro idle
    cases event with
    | cycle => exact counts_cycle_of_idle idle
    | resume =>
      rw [decoded?_resume] at idle
      rw [after, resume_eq_cycle_wake]
      exact (counts_wake least).trans (counts_cycle_of_idle idle)
    | shutdown => exact counts_shutdown least
    | change => exact .refl exchange.dispatcher
  · intro command decoded
    obtain ⟨upcoming, same⟩ := after_of_decoded decoded
    have counts := (counts_poised least event).trans (counts_cycle upcoming)
    rwa [Nat.zero_add, Nat.zero_add, limit_poised, ← same] at counts

end Exchange

end Cosimulation
