import Cosimulation.Proofs.Session.Failing
/-!
# Commands, failures and answers in balance

What single events count adds up along a run.  There are no more failures than commands, except for
one more in a session that ended because a failure could not be reported (`balanced_run`).

Over a channel that takes everything, the failures are also those among the answers.  A turn settles
its command (`settles_cycle`): the response that was written is counted exactly if it is a failure, and
only a command that cannot be answered, with which the session ends, is counted without being answered
(`Loses`).  Answering an advance settles it likewise (`settles_answerPending`), and settling adds up
(`Settles.trans`, `settles_run`).
-/

namespace Cosimulation

set_option autoImplicit false

/-! ## Commands and failures -/

/-- There are no more failures than commands, except that a command with which the session ended may
have been counted as failed twice. -/
def Dispatcher.Balanced (dispatcher : Dispatcher) : Prop :=
  dispatcher.applyFailures ≤ dispatcher.commands ∨
    dispatcher.applyFailures = dispatcher.commands + 1 ∧
      ∃ text, dispatcher.closeReason = some (.protocol text)

namespace Exchange

variable {exchange : Exchange MemorySimulator}

/-- A closed session lets an event pass by. -/
theorem after_of_closed {reason : CloseReason}
    (closing : exchange.dispatcher.closeReason = some reason) (event : Event MemorySimulator) :
    exchange.after event = { exchange with simulator := event.apart exchange.simulator } :=
  run_of_closing closing [event]

/-- **An event keeps commands and failures in balance.** -/
theorem balanced_after (least : 256 ≤ exchange.dispatcher.limit)
    (balanced : exchange.dispatcher.Balanced) (event : Event MemorySimulator) :
    (exchange.after event).dispatcher.Balanced := by
  cases closing : exchange.dispatcher.closeReason with
  | some reason =>
    rw [after_of_closed closing]
    exact balanced
  | none =>
    have enough : exchange.dispatcher.applyFailures ≤ exchange.dispatcher.commands := by
      rcases balanced with enough | ⟨_, text, closed⟩
      · exact enough
      · cases closing.symm.trans closed
    cases decoded : exchange.decoded? event with
    | none =>
      have counts := (counts_after least event).1 decoded
      exact .inl (by rw [counts.commands, counts.failures]; omega)
    | some command =>
      obtain ⟨succeeded, failed, lost⟩ := counts_event rfl least decoded
      by_cases unheard : command.FailsUnheard exchange.dispatcher.limit exchange.simulator
      · obtain ⟨counts, closed⟩ := lost unheard
        by_cases level : exchange.dispatcher.applyFailures = exchange.dispatcher.commands
        · exact .inr ⟨by rw [counts.commands, counts.failures]; omega, closed⟩
        · exact .inl (by rw [counts.commands, counts.failures]; omega)
      · by_cases fails : command.Fails exchange.dispatcher.limit exchange.simulator
        · have counts := failed fails unheard
          exact .inl (by rw [counts.commands, counts.failures]; omega)
        · have counts := succeeded fails
          exact .inl (by rw [counts.commands, counts.failures]; omega)

theorem balanced_run (least : 256 ≤ exchange.dispatcher.limit)
    (balanced : exchange.dispatcher.Balanced) (events : List (Event MemorySimulator)) :
    (exchange.run events).dispatcher.Balanced := by
  induction events generalizing exchange with
  | nil => exact balanced
  | cons event events ih =>
    refine ih ?_ (balanced_after least balanced event)
    rwa [limit_after]

/-! ## Failures and answers -/

/-- A session of which everything is known that its answers depend on, but the simulator: its limit,
that it is coherent, and that its channel takes everything. -/
structure Faultless (limit shutdowns : Nat) (exchange : Exchange MemorySimulator) : Prop where
  limited : exchange.dispatcher.limit = limit
  coherent : exchange.Coherent shutdowns
  obliging : exchange.connection.channel.Obliging

theorem Faultless.after {limit shutdowns : Nat} (faultless : exchange.Faultless limit shutdowns)
    (event : Event MemorySimulator) : (exchange.after event).Faultless limit shutdowns where
  limited := by rw [limit_after, faultless.limited]
  coherent := faultless.coherent.step event
  obliging := by
    cases event with
    | cycle => exact kept_cycle Connection.kept_obliging faultless.obliging
    | resume => exact kept_resume Connection.kept_obliging faultless.obliging
    | shutdown => exact kept_shutdown Connection.kept_obliging faultless.obliging
    | change => exact faultless.obliging

theorem Faultless.wake {limit shutdowns : Nat} (faultless : exchange.Faultless limit shutdowns) :
    exchange.wake.Faultless limit shutdowns where
  limited := by rw [limit_wake, faultless.limited]
  coherent := faultless.coherent.wake
  obliging := kept_wake Connection.kept_obliging faultless.obliging

/-- Between two moments some responses have been written, and each failure that was counted is one of
them, apart from those `lost` of a command with which the session ended. -/
structure Settles (before : Exchange MemorySimulator) (answered : List Response) (lost : Nat)
    (after : Exchange MemorySimulator) : Prop where
  written : after.connection.channel.written =
    before.connection.channel.written ++ Response.frames answered
  failures : after.dispatcher.applyFailures =
    before.dispatcher.applyFailures + answered.countP (fun response => !response.isOk) + lost
  lost : lost = 0 ∨ ∃ text, after.dispatcher.closeReason = some (.protocol text)

namespace Settles

variable {before middle after : Exchange MemorySimulator} {answered more : List Response}
  {lost : Nat}

/-- Nothing is written and nothing is counted. -/
theorem still (written : after.connection.channel.written = before.connection.channel.written)
    (failures : after.dispatcher.applyFailures = before.dispatcher.applyFailures) :
    before.Settles [] 0 after where
  written := by simp [written, Response.frames]
  failures := by simp [failures]
  lost := .inl rfl

/-- One response is written, and counted if it is a failure. -/
theorem sent {response : Response}
    (written : after.connection.channel.written =
      before.connection.channel.written ++ response.frame)
    (failures : after.dispatcher.applyFailures =
      before.dispatcher.applyFailures + if response.isOk then 0 else 1) :
    before.Settles [response] 0 after where
  written := by simp [written, Response.frames]
  failures := by
    rw [failures, List.countP_singleton]
    cases response.isOk <;> rfl
  lost := .inl rfl

theorem trans (first : before.Settles answered 0 middle) (second : middle.Settles more lost after) :
    before.Settles (answered ++ more) lost after where
  written := by
    rw [second.written, first.written, List.append_assoc]
    simp [Response.frames]
  failures := by
    rw [second.failures, first.failures, List.countP_append]
    omega
  lost := second.lost

end Settles

/-- A failure is due because the operation fails. -/
theorem error_of_due? {command : Command} {due : Response}
    (known : exchange.due? command = some due) (failing : due.isOk = false) :
    ∃ error, (command.operation.apply exchange.simulator).1 = .error error ∧
      due = .failed command.requestId error := by
  unfold due? at known
  match applied : (command.operation.apply exchange.simulator).1 with
  | .error error =>
    rw [applied] at known
    cases known
    exact ⟨error, rfl, rfl⟩
  | .ok (.advance ticks) =>
    rw [applied] at known
    cases known
  | .ok .finish =>
    rw [applied] at known
    cases known
    cases failing
  | .ok (.reply reply) =>
    rw [applied] at known
    cases known
    cases failing

/-- An event decodes a command that cannot be answered, and so many failures are counted for it: two
if its operation fails, and one if its reply is too long. -/
def Loses (limit lost : Nat) (exchange : Exchange MemorySimulator)
    (event : Event MemorySimulator) : Prop :=
  ∃ command due, exchange.decoded? event = some command ∧ exchange.due? command = some due ∧
    Unanswerable limit command due ∧
    (lost = 2 ∧ command.FailsUnheard limit exchange.simulator ∨
      lost = 1 ∧ ¬command.FailsUnheard limit exchange.simulator)

/-- A cycle loses what is counted for a command that it decodes and cannot answer. -/
theorem loses_cycle {limit : Nat} {command : Command} {due : Response}
    (upcoming : exchange.upcoming? = some command) (known : exchange.due? command = some due)
    (stuck : Unanswerable limit command due) (long : ¬due.Fits limit) :
    exchange.Loses limit (due.strikes limit) .cycle := by
  refine ⟨command, due, upcoming, known, stuck, ?_⟩
  cases fails : due.isOk with
  | false =>
    obtain ⟨error, failed, rfl⟩ := error_of_due? known fails
    refine .inl ⟨?_, error, failed, long⟩
    rw [Response.strikes_failed, Response.excess, if_neg long]
  | true =>
    refine .inr ⟨?_, ?_⟩
    · rw [Response.strikes, Response.excess, if_pos fails, if_neg long]
    · rintro ⟨error, failed, _⟩
      rw [due?, failed] at known
      cases known
      cases fails

/-- Resuming loses what the cycle behind the answer does. -/
theorem Loses.resume {limit lost : Nat} (loses : exchange.wake.Loses limit lost .cycle) :
    exchange.Loses limit lost .resume := by
  obtain ⟨command, due, upcoming, known, stuck, counted⟩ := loses
  rw [simulator_wake] at counted
  refine ⟨command, due, exchange.decoded?_resume.trans upcoming, ?_, stuck, counted⟩
  rwa [due?, simulator_wake] at known

/-- **A cycle settles a command.** -/
theorem settles_cycle {limit shutdowns : Nat} (least : 256 ≤ limit)
    (most : limit ≤ Frame.maximalLength) (faultless : exchange.Faultless limit shutdowns) :
    ∃ answered lost, exchange.Settles answered lost exchange.cycle.2 ∧
      (lost = 0 ∨ exchange.Loses limit lost .cycle) := by
  cases upcoming : exchange.upcoming? with
  | none =>
    have counts := counts_cycle_of_idle upcoming
    have before := written_readFrame exchange
    refine ⟨[], 0, .still ?_ counts.failures, .inl rfl⟩
    rcases cycle_of_idle upcoming with ⟨_, _, same⟩ | ⟨_, _, same⟩ | ⟨_, _, _, same⟩
    · rw [same]
    · rw [same]
    · rw [same]
      exact (Connection.written_close _).trans before
  | some command =>
    obtain ⟨opened, ready, _⟩ := cycle_of_upcoming upcoming
    have awaits := faultless.coherent.awaits opened
    have clear : exchange.Clear limit :=
      ⟨opened, ready, faultless.limited, awaits.connected, faultless.obliging⟩
    have counted := (counts_cycle upcoming).failures
    rw [faultless.limited] at counted
    rcases clear.cycle_concludes least most upcoming with
      ⟨ticks, waits, positive, _, written⟩ | ⟨due, known, pathless, concluded⟩
    · have uncounted : command.strikes limit exchange.simulator = 0 := by
        rw [Command.strikes, waits, Operation.apply_of_suspends positive]
        rfl
      rw [uncounted] at counted
      exact ⟨[], 0, .still written counted, .inl rfl⟩
    · have strikes : command.strikes limit exchange.simulator = due.strikes limit := by
        rw [Command.strikes, show Response.due? _ _ = Option.some due from known]
      have leaves := leaves_cycle exchange
      rw [strikes] at counted
      generalize closing : exchange.cycle.1 = outcome at concluded leaves
      generalize written : exchange.cycle.2.connection.channel.written = bytes at concluded
      cases concluded with
      | served fits =>
        rw [Response.strikes_of_fits fits] at counted
        exact ⟨[due], 0, .sent written counted, .inl rfl⟩
      | finished fits =>
        rw [Response.strikes_of_fits fits] at counted
        exact ⟨[due], 0, .sent written counted, .inl rfl⟩
      | rejected long fits =>
        -- a failure that is too long is not reported, so that it was a reply that is
        have succeeded : due.isOk = true := by
          refine eq_true_of_ne_false fun failing => ?_
          obtain ⟨error, failed, rfl⟩ := error_of_due? known failing
          exact Dispatcher.not_fits_oversized failed long _ _ fits
        rw [Response.strikes, Response.excess, if_pos succeeded, if_neg long] at counted
        exact ⟨[rejection limit command due], 0, .sent written counted, .inl rfl⟩
      | unanswered text long also =>
        have stuck := (unanswerable_iff most pathless).2 ⟨long, also⟩
        have silent : exchange.cycle.2.connection.channel.written =
            exchange.connection.channel.written ++ Response.frames [] := by
          simp [written, Response.frames]
        exact ⟨[], due.strikes limit, ⟨silent, counted, .inr ⟨text, leaves⟩⟩,
          .inr (loses_cycle upcoming known stuck long)⟩

/-- **The advance that waits is settled** when it is answered. -/
theorem settles_answerPending {limit shutdowns : Nat} (least : 256 ≤ limit)
    (faultless : exchange.Faultless limit shutdowns)
    (opened : exchange.dispatcher.closeReason = none) :
    ∃ answered, exchange.answerPending.1 = .ok () ∧
      exchange.Settles answered 0 exchange.answerPending.2 := by
  cases waiting : exchange.dispatcher.pending with
  | none =>
    rw [answerPending_of_none waiting]
    exact ⟨[], rfl, .still rfl rfl⟩
  | some advance =>
    have awaits := faultless.coherent.awaits opened
    obtain ⟨_, channel, accepted, answered⟩ := answerPending_of_obliging opened waiting
      awaits.connected faultless.obliging (faultless.limited ▸ least)
    rw [answered]
    exact ⟨_, rfl, .sent accepted.written rfl⟩

theorem settles_wake {limit shutdowns : Nat} (least : 256 ≤ limit)
    (faultless : exchange.Faultless limit shutdowns) :
    ∃ answered, exchange.Settles answered 0 exchange.wake := by
  cases opened : exchange.dispatcher.closeReason with
  | some reason =>
    rw [wake_of_closed opened]
    exact ⟨[], .still rfl rfl⟩
  | none =>
    obtain ⟨answered, sent, settles⟩ := settles_answerPending least faultless opened
    refine ⟨answered, ?_⟩
    unfold wake
    rw [opened]
    generalize exchange.answerPending = pair at sent settles
    obtain ⟨result, after⟩ := pair
    cases sent
    exact settles

theorem settles_shutdown {limit shutdowns : Nat} (least : 256 ≤ limit)
    (faultless : exchange.Faultless limit shutdowns) :
    ∃ answered, exchange.Settles answered 0 exchange.shutdown := by
  cases opened : exchange.dispatcher.closeReason with
  | some reason =>
    rw [shutdown_of_closed opened]
    exact ⟨[], .still rfl rfl⟩
  | none =>
    obtain ⟨answered, _, settles⟩ := settles_answerPending least faultless opened
    rw [shutdown_of_opened opened]
    exact ⟨answered, (Connection.written_close _).trans settles.written, settles.failures, .inl rfl⟩

/-- **Every event settles what it answers.** -/
theorem settles_after {limit shutdowns : Nat} (least : 256 ≤ limit)
    (most : limit ≤ Frame.maximalLength) (faultless : exchange.Faultless limit shutdowns)
    (event : Event MemorySimulator) :
    ∃ answered lost, exchange.Settles answered lost (exchange.after event) ∧
      (lost = 0 ∨ exchange.Loses limit lost event) := by
  cases event with
  | cycle => exact settles_cycle least most faultless
  | resume =>
    obtain ⟨answered, woken⟩ := settles_wake least faultless
    obtain ⟨more, lost, turned, loses⟩ := settles_cycle least most faultless.wake
    rw [after, resume_eq_cycle_wake]
    exact ⟨answered ++ more, lost, woken.trans turned, loses.imp_right .resume⟩
  | shutdown =>
    obtain ⟨answered, settles⟩ := settles_shutdown least faultless
    exact ⟨answered, 0, settles, .inl rfl⟩
  | change => exact ⟨[], 0, .still rfl rfl, .inl rfl⟩

/-- **So does every run**, and what is lost is lost at one of its events. -/
theorem settles_run {limit shutdowns : Nat} (least : 256 ≤ limit)
    (most : limit ≤ Frame.maximalLength) (faultless : exchange.Faultless limit shutdowns)
    (events : List (Event MemorySimulator)) :
    ∃ answered lost, exchange.Settles answered lost (exchange.run events) ∧
      (lost = 0 ∨ ∃ earlier event later, events = earlier ++ event :: later ∧
        (exchange.run earlier).Loses limit lost event) := by
  induction events generalizing exchange with
  | nil => exact ⟨[], 0, .still rfl rfl, .inl rfl⟩
  | cons event events ih =>
    obtain ⟨answered, lost, first, loses⟩ := settles_after least most faultless event
    have rest : exchange.run (event :: events) = (exchange.after event).run events := rfl
    cases closing : (exchange.after event).dispatcher.closeReason with
    | some reason =>
      rw [rest, run_of_closing closing]
      exact ⟨answered, lost, ⟨first.written, first.failures, first.lost⟩,
        loses.imp_right fun loses => ⟨[], event, events, rfl, loses⟩⟩
    | none =>
      obtain ⟨more, moreLost, second, later⟩ := ih (faultless.after event)
      -- a session that is still open has lost nothing
      rcases first.lost with rfl | ⟨text, closed⟩
      · refine ⟨answered ++ more, moreLost, first.trans second, later.imp_right ?_⟩
        rintro ⟨earlier, last, others, rfl, loses⟩
        exact ⟨event :: earlier, last, others, rfl, loses⟩
      · cases closing.symm.trans closed

/-- **Each failing command is counted once, unless its failure is too long to be reported.**

Over a simulator in memory, under a limit that a bridge may have and whatever the channel does, an
event counts nothing unless it decodes a command.  The command is counted, and if it fails, a failure
is counted once.  A command whose operation fails with a failure that is itself too long is counted as
failed twice, and then the session ends with a protocol error.  So there are never more failures than
commands, except that there may be one more in a session that has ended in this way.

When the channel takes everything, the failures that were counted are those among the answers that were
written, apart from those of one command that an event has decoded and that could not be answered: two
if its operation failed, and else one.  With it the session has ended. -/
theorem failures_counted_unless_unheard {limit : Nat} (least : 256 ≤ limit)
    (most : limit ≤ Frame.maximalLength) (readLimit : Nat) (peer : String) (channel : Channel)
    (simulator : MemorySimulator) (events : List (Event MemorySimulator)) :
    let last := (begin limit (.ofChannel channel peer readLimit) simulator).run events
    let counted := last.dispatcher
    (∀ event, let after := (last.after event).dispatcher
      (last.decoded? event = none → counted.Counts 0 0 after) ∧
      ∀ command, last.decoded? event = some command →
        (¬command.Fails limit last.simulator → counted.Counts 1 0 after) ∧
        (command.Fails limit last.simulator → ¬command.FailsUnheard limit last.simulator →
          counted.Counts 1 1 after) ∧
        (command.FailsUnheard limit last.simulator → counted.Counts 1 2 after ∧
          ∃ text, after.closeReason = some (.protocol text))) ∧
    (counted.applyFailures ≤ counted.commands ∨
      counted.applyFailures = counted.commands + 1 ∧
        ∃ text, counted.closeReason = some (.protocol text)) ∧
    (channel.Obliging → ∃ answered lost,
      last.connection.channel.written = channel.written ++ Response.frames answered ∧
      counted.applyFailures = answered.countP (fun response => !response.isOk) + lost ∧
      (lost = 0 ∨ (∃ text, counted.closeReason = some (.protocol text)) ∧
        ∃ earlier event later, events = earlier ++ event :: later ∧
          ((begin limit (.ofChannel channel peer readLimit) simulator).run earlier).Loses
            limit lost event)) := by
  intro last counted
  have limited : last.dispatcher.limit = limit := limit_run ..
  have fitting : 256 ≤ last.dispatcher.limit := limited ▸ least
  refine ⟨fun event => ⟨(counts_after fitting event).1, fun command => counts_event limited least⟩,
    balanced_run least (.inl (Nat.le_refl 0)) events, fun obliging => ?_⟩
  have faultless :
      (begin limit (.ofChannel channel peer readLimit) simulator).Faultless limit channel.shutdowns :=
    ⟨rfl, .inl (awaits_begin ..), obliging⟩
  obtain ⟨answered, lost, settles, loses⟩ := settles_run least most faultless events
  refine ⟨answered, lost, settles.written,
    settles.failures.trans (congrArg (· + lost) (Nat.zero_add _)), ?_⟩
  rcases settles.lost with nothing | closed
  · exact .inl nothing
  · exact loses.imp_right fun loses => ⟨closed, loses⟩

/-- A lookup of a path without an object, whose failure is short enough, is counted once. -/
theorem failures_counted_unless_unheard_lookup :
    let command : Command := ⟨.ofNat 1, .lookup "tb.x"⟩
    let start := asked 256 command (MemorySimulator.launch ⟨[]⟩)
    start.decoded? .cycle = some command ∧
      start.dispatcher.Counts 1 1 (start.after .cycle).dispatcher := by
  intro command start
  have decoded : start.decoded? .cycle = some command :=
    upcoming?_asked (by decide +kernel) (by decide) _
  have fails : command.Fails 256 start.simulator := .inl ⟨.unknownObject "tb.x", rfl⟩
  have heard : ¬command.FailsUnheard 256 start.simulator := by
    rintro ⟨error, failed, long⟩
    cases failed
    rw [Response.fits_iff, length_unknownObject] at long
    exact long (by decide +kernel)
  have least : 256 ≤ 256 := Nat.le_refl 256
  obtain ⟨counts, _⟩ := failures_counted_unless_unheard least (by decide) 256 "controller"
    start.connection.channel start.simulator []
  exact ⟨decoded, ((counts .cycle).2 command decoded).2.1 fails heard⟩

/-- A lookup of a path so long that the failure is too long: one command, and two failures. -/
theorem counts_of_long_lookup :
    let command : Command := ⟨.ofNat 1, .lookup (String.ofList (List.replicate 140 'a'))⟩
    let start := asked 256 command (MemorySimulator.launch ⟨[]⟩)
    start.upcoming? = some command ∧
      start.cycle.2.dispatcher.commands = 1 ∧ start.cycle.2.dispatcher.applyFailures = 2 := by
  intro command start
  have upcoming : start.upcoming? = some command :=
    upcoming?_asked (by decide +kernel) (by decide) _
  have failed : (command.operation.apply start.simulator).1 =
      .error (.unknownObject (String.ofList (List.replicate 140 'a'))) := rfl
  have long : ¬(Response.failed command.requestId
      (.unknownObject (String.ofList (List.replicate 140 'a')))).Fits 256 := by
    rw [Response.fits_iff, length_unknownObject]
    decide +kernel
  have unheard : command.FailsUnheard 256 start.simulator := ⟨_, failed, long⟩
  have counts := counts_cycle upcoming
  rw [show start.dispatcher.limit = 256 from rfl, Command.strikes_of_unheard unheard] at counts
  exact ⟨upcoming, counts.commands, counts.failures⟩

end Exchange

end Cosimulation
