import Cosimulation.Configuration
import Cosimulation.Proofs.Session.Oversize
/-!
# Answers without a path

An acknowledgement or a time fits every limit that can be configured, so no command whose answer is
one of them is ever rejected for the length of its answer.  Most of them are answered in the cycle
that decodes them (`Clear.execute_of_pathless`).  An advance waits, whatever the simulator does in
the meantime and however often the host calls (`Waiting.run`), until it is answered by `resume` or by
`shutdown` (`Waiting.resume`, `Waiting.shutdown`).
-/

namespace Cosimulation

set_option autoImplicit false

variable {σ : Type} [Simulator σ]

/-! ## Replies -/

namespace Operation

/-- The reply to an operation that is answered at once and without a path: with the time, or with an
acknowledgement, which a write has earned once it has been applied. -/
def pathlessReply? (operation : Operation) (simulator : σ) : Option Reply :=
  match operation with
  | .ping => some (.pong (Simulator.time simulator).1)
  | .time => some (.time (Simulator.time simulator).1)
  | .advance ticks => if ticks = 0 then some (.time (Simulator.time simulator).1) else none
  | .print _ => some .ack
  | .finish => some .ack
  | .write _ _ => if (operation.apply simulator).1.isOk then some .ack else none
  | .force _ _ => if (operation.apply simulator).1.isOk then some .ack else none
  | .lookup _ => none
  | .read _ => none
  | .release _ => none

/-- A write that was applied is acknowledged. -/
theorem assign_of_isOk {path : String} {value : SignalValue} {mode : WriteMode} {simulator : σ}
    (applied : (assign path value mode simulator).1.isOk = true) :
    (assign path value mode simulator).1 = .ok (.reply .ack) := by
  unfold assign withObject at applied ⊢
  split
  · rename_i refused
    rw [refused] at applied
    cases applied
  · rename_i accepted
    rw [accepted] at applied
    dsimp only at applied
    split
    · rename_i missing
      rw [missing] at applied
      cases applied
    · rename_i found
      rw [found] at applied
      dsimp only at applied ⊢
      split
      · rename_i failed
        rw [failed] at applied
        cases applied
      · rfl

/-- A reply without a path is short, and it is what comes of the operation unless that is a
finish, which is left to the session. -/
theorem apply_of_pathlessReply? {operation : Operation} {simulator : σ} {reply : Reply}
    (replied : operation.pathlessReply? simulator = some reply) :
    reply.IsShort ∧ (operation = .finish ∧ reply = .ack ∨
      operation ≠ .finish ∧ (operation.apply simulator).1 = .ok (.reply reply)) := by
  have assigned {path : String} {value : SignalValue} {mode : WriteMode}
      (replied : (if (assign path value mode simulator).1.isOk then some Reply.ack else none) =
        some reply) :
      reply = .ack ∧ (assign path value mode simulator).1 = .ok (.reply .ack) := by
    split at replied
    · rename_i applied
      exact ⟨(Option.some.inj replied).symm, assign_of_isOk applied⟩
    · cases replied
  cases operation with
  | ping =>
    cases replied
    exact ⟨.inr (.inl ⟨_, rfl⟩), .inr ⟨by simp, rfl⟩⟩
  | time =>
    cases replied
    exact ⟨.inr (.inr ⟨_, rfl⟩), .inr ⟨by simp, rfl⟩⟩
  | advance ticks =>
    rw [pathlessReply?] at replied
    split at replied
    · rename_i zero
      cases replied
      refine ⟨.inr (.inr ⟨_, rfl⟩), .inr ⟨by simp, ?_⟩⟩
      rw [apply, if_pos zero]
      rfl
    · cases replied
  | print message =>
    cases replied
    exact ⟨.inl rfl, .inr ⟨by simp, rfl⟩⟩
  | finish =>
    cases replied
    exact ⟨.inl rfl, .inl ⟨rfl, rfl⟩⟩
  | write path value =>
    obtain ⟨rfl, applied⟩ := assigned replied
    exact ⟨.inl rfl, .inr ⟨by simp, applied⟩⟩
  | force path value =>
    obtain ⟨rfl, applied⟩ := assigned replied
    exact ⟨.inl rfl, .inr ⟨by simp, applied⟩⟩
  | lookup path => cases replied
  | read path => cases replied
  | release path => cases replied

end Operation

/-- The answer to an advance in a state of the simulator: the time. -/
def PendingAdvance.answer (advance : PendingAdvance) (simulator : σ) : Response :=
  .ok advance.requestId (.time (Simulator.time simulator).1)

/-- An event that neither resumes nor ends a session. -/
def Event.IsIdle : Event σ → Prop
  | .cycle => True
  | .change _ => True
  | .resume => False
  | .shutdown => False

namespace Exchange

variable {limit : Nat} {exchange : Exchange σ}

/-! ## Answers at once -/

/-- The outcome of a turn that answers an operation. -/
def answeredOutcome (operation : Operation) : Outcome :=
  if operation = .finish then .closed .finished else .served

/-- **A command with a short reply is answered with it.** -/
theorem Clear.execute_of_pathless (clear : exchange.Clear limit) (least : 256 ≤ limit)
    {command : Command} {reply : Reply}
    (replied : command.operation.pathlessReply? exchange.simulator = some reply) :
    (exchange.execute command).1 = answeredOutcome command.operation ∧
      (exchange.execute command).2.connection.channel.written =
        exchange.connection.channel.written ++ (Response.ok command.requestId reply).frame := by
  obtain ⟨short, cases⟩ := Operation.apply_of_pathlessReply? replied
  have fits : (Response.ok command.requestId reply).Fits limit :=
    Response.fits_of_isShort least _ short
  rcases cases with ⟨ends, rfl⟩ | ⟨goesOn, applied⟩
  · have entered : Clear limit (exchange.update (·.enter .responding)) :=
      ⟨clear.opened, clear.ready, clear.limited, clear.connected, clear.obliging⟩
    have executed : exchange.execute command =
        (exchange.update (·.enter .responding)).finish command.requestId := by
      unfold execute
      rw [ends]
      rfl
    obtain ⟨channel, accepted, finished⟩ := entered.finish fits
    rw [executed, finished, answeredOutcome, if_pos ends]
    exact ⟨rfl, (Connection.written_close _).trans accepted.written⟩
  · unfold execute
    generalize command.operation.apply exchange.simulator = applying at applied
    obtain ⟨_, simulator⟩ := applying
    dsimp only at applied
    subst applied
    have entered : Clear limit ({ exchange with simulator }.update (·.enter .responding)) :=
      ⟨clear.opened, clear.ready, clear.limited, clear.connected, clear.obliging⟩
    obtain ⟨channel, accepted, answered⟩ := entered.answer fits command.operation
    dsimp only
    rw [answered, answeredOutcome, if_neg goesOn]
    exact ⟨rfl, accepted.written⟩

/-! ## Answers after a delay -/

/-- A session in which an advance waits, over a connection that takes everything. -/
structure Waiting (limit : Nat) (advance : PendingAdvance) (written : List UInt8)
    (exchange : Exchange σ) : Prop where
  opened : exchange.dispatcher.closeReason = none
  pending : exchange.dispatcher.pending = some advance
  limited : exchange.dispatcher.limit = limit
  connected : exchange.connection.isOpen = true
  obliging : exchange.connection.channel.Obliging
  written : exchange.connection.channel.written = written

/-- Executing an advance leaves it waiting and the simulator alone. -/
theorem Clear.execute_of_advance (clear : exchange.Clear limit) {command : Command}
    {ticks : UInt64} (asked : command.operation = .advance ticks) (positive : ticks ≠ 0) :
    (exchange.execute command).1 = .yielded ticks ∧
      (exchange.execute command).2.simulator = exchange.simulator ∧
      (exchange.execute command).2.Waiting limit ⟨command.requestId, ticks⟩
        exchange.connection.channel.written := by
  unfold execute
  rw [asked, Operation.apply_of_suspends positive]
  exact ⟨rfl, rfl, clear.opened, rfl, clear.limited, clear.connected, clear.obliging, rfl⟩

namespace Waiting

variable {advance : PendingAdvance} {written : List UInt8}

/-- An advance waits through a cycle, which does nothing, and through any change of the
simulator. -/
theorem after (waiting : exchange.Waiting limit advance written) {event : Event σ}
    (idle : event.IsIdle) :
    (exchange.after event).Waiting limit advance written ∧
      (exchange.after event).simulator = event.apart exchange.simulator := by
  cases event with
  | cycle =>
    have still : exchange.cycle = (.suspended, exchange) :=
      cycle_of_suspended waiting.opened (by rw [waiting.pending]; nofun)
    rw [Exchange.after, still]
    exact ⟨waiting, rfl⟩
  | change => exact ⟨{ waiting with }, rfl⟩
  | resume => cases idle
  | shutdown => cases idle

/-- **An advance waits until the session is resumed or ended.** -/
theorem run (waiting : exchange.Waiting limit advance written) {events : List (Event σ)}
    (idle : ∀ event ∈ events, event.IsIdle) :
    (exchange.run events).Waiting limit advance written ∧
      (exchange.run events).simulator =
        events.foldl (fun simulator event => event.apart simulator) exchange.simulator := by
  induction events generalizing exchange with
  | nil => exact ⟨waiting, rfl⟩
  | cons event events ih =>
    obtain ⟨first, others⟩ := List.forall_mem_cons.1 idle
    obtain ⟨still, changed⟩ := waiting.after first
    obtain ⟨last, reached⟩ := ih still others
    exact ⟨last, reached.trans (by rw [changed, List.foldl_cons])⟩

theorem answerPending (waiting : exchange.Waiting limit advance written) (least : 256 ≤ limit) :
    ∃ next : Exchange σ, exchange.answerPending = (.ok (), next) ∧
      next.dispatcher.closeReason = none ∧
      next.connection.channel.written = written ++ (advance.answer exchange.simulator).frame := by
  obtain ⟨_, channel, accepted, answered⟩ := answerPending_of_obliging waiting.opened
    waiting.pending waiting.connected waiting.obliging (waiting.limited ▸ least)
  exact ⟨_, answered, waiting.opened, waiting.written ▸ accepted.written⟩

/-- Resuming answers the advance with the time and goes on with the session. -/
theorem resume (waiting : exchange.Waiting limit advance written) (least : 256 ≤ limit) :
    ∃ next : Exchange σ, exchange.resume = next.cycle ∧ next.dispatcher.closeReason = none ∧
      next.connection.channel.written = written ++ (advance.answer exchange.simulator).frame := by
  obtain ⟨next, answered, opened, wrote⟩ := waiting.answerPending least
  exact ⟨next, resume_of_answered exchange waiting.opened answered, opened, wrote⟩

/-- Ending the session answers the advance with the time first. -/
theorem shutdown (waiting : exchange.Waiting limit advance written) (least : 256 ≤ limit) :
    exchange.shutdown.dispatcher.closeReason = some .shutdown ∧
      exchange.shutdown.connection.channel.written =
        written ++ (advance.answer exchange.simulator).frame := by
  obtain ⟨next, answered, _, wrote⟩ := waiting.answerPending least
  rw [Exchange.shutdown, waiting.opened, answered]
  exact ⟨rfl, (Connection.written_close _).trans wrote⟩

end Waiting

/-! ## Whole turns -/

/-- A session that is about to execute the command that has come is clear, and it has written no
more than before. -/
theorem Clear.cycle_eq_execute (clear : exchange.Clear limit) {command : Command}
    (upcoming : exchange.upcoming? = some command) :
    ∃ reading : Exchange σ, exchange.cycle = reading.execute command ∧ reading.Clear limit ∧
      reading.simulator = exchange.simulator ∧
      reading.connection.channel.written = exchange.connection.channel.written := by
  obtain ⟨_, _, same⟩ := cycle_of_upcoming upcoming
  exact ⟨_, same, clear.read clear.opened clear.ready clear.limited, rfl,
    written_readFrame exchange⟩

/-- **Answers that carry no path always fit.**  Under a limit that was configured every
acknowledgement and every time can be framed.  So over a faultless channel a session answers a ping,
a time, a print, a finish, an advance by nothing, and a write that could be applied, in the cycle
that decodes it and with the reply of the operation.  An advance that lets time pass is answered with
the time of its answer when the session is resumed, which then goes on, or ended, however often the
session was called and however the simulator changed while the advance waited. -/
theorem answers_pathless {invocation : Invocation} {configuration : Configuration}
    (configured : Configuration.ofInvocation invocation = .ok configuration) :
    (∀ id clock, (Response.ok id .ack).Fits configuration.frameLimit ∧
      (Response.ok id (.pong clock)).Fits configuration.frameLimit ∧
      (Response.ok id (.time clock)).Fits configuration.frameLimit) ∧
    ∀ (exchange : Exchange σ) (command : Command), exchange.Clear configuration.frameLimit →
      exchange.upcoming? = some command →
      (∀ reply, command.operation.pathlessReply? exchange.simulator = some reply →
        exchange.cycle.1 = answeredOutcome command.operation ∧
        exchange.cycle.2.connection.channel.written =
          exchange.connection.channel.written ++ (Response.ok command.requestId reply).frame) ∧
      ∀ ticks, command.operation = .advance ticks → ticks ≠ 0 →
        exchange.cycle.1 = .yielded ticks ∧
        ∀ events : List (Event σ), (∀ event ∈ events, event.IsIdle) →
          let waiting := exchange.run (.cycle :: events)
          let reached :=
            events.foldl (fun simulator event => event.apart simulator) exchange.simulator
          let answered := exchange.connection.channel.written ++
            (PendingAdvance.answer ⟨command.requestId, ticks⟩ reached).frame
          waiting.simulator = reached ∧
          waiting.connection.channel.written = exchange.connection.channel.written ∧
          (∃ next : Exchange σ, waiting.resume = next.cycle ∧
            next.dispatcher.closeReason = none ∧ next.connection.channel.written = answered) ∧
          waiting.shutdown.dispatcher.closeReason = some .shutdown ∧
          waiting.shutdown.connection.channel.written = answered := by
  have least : 256 ≤ configuration.frameLimit := (Configuration.frameLimit_bounds configured).1
  refine ⟨fun id clock => ⟨?_, ?_, ?_⟩, fun exchange command clear upcoming => ?_⟩
  · exact Response.fits_of_isShort least id (.inl rfl)
  · exact Response.fits_of_isShort least id (.inr (.inl ⟨clock, rfl⟩))
  · exact Response.fits_of_isShort least id (.inr (.inr ⟨clock, rfl⟩))
  · obtain ⟨reading, same, ready, simulator, written⟩ := clear.cycle_eq_execute upcoming
    refine ⟨fun reply replied => ?_, fun ticks asked positive => ?_⟩
    · rw [same, ← written]
      exact ready.execute_of_pathless least (simulator ▸ replied)
    · obtain ⟨yielded, still, left⟩ := ready.execute_of_advance asked positive
      rw [← same, written] at left
      rw [← same] at yielded still
      refine ⟨yielded, fun events idle => ?_⟩
      intro waiting reached answered
      have waits : waiting.Waiting configuration.frameLimit ⟨command.requestId, ticks⟩
          exchange.connection.channel.written := (left.run idle).1
      have changed : waiting.simulator = reached :=
        (left.run idle).2.trans (by rw [still, simulator])
      have resumed := waits.resume least
      have ended := waits.shutdown least
      rw [changed] at resumed ended
      exact ⟨changed, waits.written, resumed, ended⟩

/-- Under the smallest limit an advance by five is answered at the end of the run, three ticks after
it was decoded. -/
theorem answers_pathless_shutdown :
    let invocation : Invocation := ⟨["+bridge_max_frame+256"]⟩
    let start := asked 256 ⟨.ofNat 1, .advance 5⟩ (MemorySimulator.launch invocation)
    let waiting := start.run [.cycle, .change (·.advance 3)]
    (Configuration.ofInvocation invocation).toOption.map Configuration.frameLimit = some 256 ∧
      start.cycle.1 = .yielded 5 ∧
      waiting.connection.channel.written = start.connection.channel.written ∧
      waiting.shutdown.connection.channel.written =
        start.connection.channel.written ++ (Response.ok (.ofNat 1) (.time 3)).frame := by
  intro invocation start waiting
  have limit : (Configuration.ofInvocation invocation).toOption.map Configuration.frameLimit =
      some 256 := by decide +kernel
  refine ⟨limit, ?_⟩
  cases configured : Configuration.ofInvocation invocation with
  | error error =>
    rw [configured] at limit
    cases limit
  | ok configuration =>
    rw [configured] at limit
    have same : configuration.frameLimit = 256 := Option.some.inj limit
    have upcoming : start.upcoming? = some ⟨.ofNat 1, .advance 5⟩ :=
      upcoming?_asked (by decide +kernel) (by decide) _
    obtain ⟨yielded, answers⟩ := ((answers_pathless configured).2 start _
      (same ▸ clear_asked 256 _ _) upcoming).2 5 rfl (by decide)
    obtain ⟨_, silent, _, _, wrote⟩ := answers [.change (·.advance 3)]
      (List.forall_mem_singleton.2 trivial)
    have answer : PendingAdvance.answer ⟨.ofNat 1, 5⟩
        ((MemorySimulator.launch invocation).advance 3) = Response.ok (.ofNat 1) (.time 3) :=
      congrArg (Response.ok _ <| Reply.time ·) (by decide +kernel)
    exact ⟨yielded, silent, wrote.trans (congrArg (_ ++ Response.frame ·) answer)⟩

end Exchange

end Cosimulation
