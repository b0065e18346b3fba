import Cosimulation.Proofs.Session.Draining
/-!
# What a session does to its simulator and to its connection

All that a session does to its simulator it does through the calls that the simulator offers, and the
run is ended by it only in the turn that closes the session as finished.  So whatever the other calls
do at most, the turns do at most (`Simulator.Confines`, `confined_cycle`, `confined_resume`,
`confined_drain`, `reached_shutdown`): a relation that every single call respects is respected by
every turn.

To its connection a session does no more than to read frames, to write frames and to close it.  What
these keep is kept by every call (`Connection.Kept`, `kept_cycle`, `kept_wake`, `kept_shutdown`).
-/

namespace Cosimulation

set_option autoImplicit false

variable {σ : Type} [Simulator σ]

/-- Every call of the simulator but the one that ends the run leads from a state to one that it
reaches. -/
structure Simulator.Confines (reaches : σ → σ → Prop) : Prop where
  refl : ∀ simulator, reaches simulator simulator
  trans : ∀ {first second third}, reaches first second → reaches second third → reaches first third
  lookup : ∀ simulator path, reaches simulator (Simulator.lookup simulator path).2
  read : ∀ simulator reference path, reaches simulator (Simulator.read simulator reference path).2
  write : ∀ simulator reference path value mode,
    reaches simulator (Simulator.write simulator reference path value mode).2
  release : ∀ simulator reference path,
    reaches simulator (Simulator.release simulator reference path).2
  time : ∀ simulator, reaches simulator (Simulator.time simulator).2
  print : ∀ simulator line, reaches simulator (Simulator.print simulator line)

namespace Operation

variable {reaches : σ → σ → Prop}

theorem withObject_confined {α : Type} (confines : Simulator.Confines reaches) (path : String)
    (simulator : σ) {next : ObjectReference → σ → Except ApplyError α × σ}
    (confined : ∀ reference simulator, reaches simulator (next reference simulator).2) :
    reaches simulator (withObject path simulator next).2 := by
  have found := confines.lookup simulator path
  unfold withObject
  split
  · rename_i looked
    rwa [looked] at found
  · rename_i reference simulator looked
    rw [looked] at found
    exact confines.trans found (confined reference simulator)

omit [Simulator σ] in
@[simp] theorem simulator_valueReply (path : String) (result : Except ApplyError SignalValue × σ) :
    (valueReply path result).2 = result.2 := by
  obtain ⟨_ | _, _⟩ := result <;> rfl

theorem assign_confined (confines : Simulator.Confines reaches) (path : String)
    (value : SignalValue) (mode : WriteMode) (simulator : σ) :
    reaches simulator (assign path value mode simulator).2 := by
  unfold assign
  split
  · exact confines.refl simulator
  · refine withObject_confined confines path simulator fun reference simulator => ?_
    have wrote := confines.write simulator reference path value mode
    split
    · rename_i found
      rwa [found] at wrote
    · rename_i found
      rwa [found] at wrote

/-- **Applying an operation** makes only such calls. -/
theorem apply_confined (confines : Simulator.Confines reaches) (operation : Operation)
    (simulator : σ) : reaches simulator (operation.apply simulator).2 := by
  cases operation with
  | ping => exact confines.time simulator
  | lookup path =>
    exact withObject_confined confines path simulator fun _ simulator => confines.refl simulator
  | read path =>
    refine withObject_confined confines path simulator fun reference simulator => ?_
    rw [simulator_valueReply]
    exact confines.read simulator reference path
  | write path value => exact assign_confined confines path value .deposit simulator
  | force path value => exact assign_confined confines path value .force simulator
  | release path =>
    refine withObject_confined confines path simulator fun reference simulator => ?_
    rw [simulator_valueReply]
    exact confines.release simulator reference path
  | time => exact confines.time simulator
  | advance ticks =>
    rw [apply]
    split
    · exact confines.time simulator
    · exact confines.refl simulator
  | print line => exact confines.print simulator line
  | finish => exact confines.refl simulator

end Operation

namespace Exchange

variable {reaches : σ → σ → Prop} {exchange : Exchange σ}

/-- What a call of a session has done to its simulator: it has come to a state that is reached, and
the run was ended there exactly if the session closed as finished. -/
def Confined (reaches : σ → σ → Prop) (before : Exchange σ) (turn : Outcome × Exchange σ) : Prop :=
  ∃ last, reaches before.simulator last ∧
    turn.2.simulator = if turn.1 = .closed .finished then Simulator.finish last else last

theorem Confined.trans (confines : Simulator.Confines reaches) {middle : Exchange σ}
    {turn : Outcome × Exchange σ} (front : reaches exchange.simulator middle.simulator)
    (confined : middle.Confined reaches turn) : exchange.Confined reaches turn := by
  obtain ⟨last, reached, same⟩ := confined
  exact ⟨last, confines.trans front reached, same⟩

/-- A call that does not close the session as finished has only come to a state that is reached. -/
theorem Confined.reached {turn : Outcome × Exchange σ} (confined : exchange.Confined reaches turn)
    (goes : turn.1 ≠ .closed .finished) : reaches exchange.simulator turn.2.simulator := by
  obtain ⟨last, reached, same⟩ := confined
  rw [same, if_neg goes]
  exact reached

theorem confined_of_reached {turn : Outcome × Exchange σ} (goes : turn.1 ≠ .closed .finished)
    (reached : reaches exchange.simulator turn.2.simulator) : exchange.Confined reaches turn :=
  ⟨_, reached, (if_neg goes).symm⟩

/-- What closes a session as an error does not close it as finished. -/
theorem ne_finished_of_isError {reason : CloseReason} (error : reason.isError = true) :
    Outcome.closed reason ≠ .closed .finished := by
  rintro ⟨⟩
  cases error

theorem Turn.confined (confines : Simulator.Confines reaches) {outcome : Outcome}
    {after : Exchange σ} (turn : exchange.Turn outcome after) :
    exchange.Confined reaches (outcome, after) := by
  cases turn with
  | idle _ why =>
    refine confined_of_reached ?_ (confines.refl _)
    rcases why with rfl | error
    · nofun
    · exact ne_finished_of_isError error
  | suspended => exact confined_of_reached nofun (confines.refl _)
  | served _ _ _ responds =>
    refine confined_of_reached nofun ?_
    show reaches _ (Exchange.simulator _)
    rw [show (update _ _).simulator = _ from responds.keeps.2.2.2]
    exact Operation.apply_confined confines _ _
  | broke _ _ _ responds =>
    refine confined_of_reached ?_ ?_
    · cases responds with
      | broke error => exact ne_finished_of_isError error
    · show reaches _ (Exchange.simulator _)
      rw [show (close _ _).2.simulator = _ from responds.keeps.2.2.2]
      exact Operation.apply_confined confines _ _
  | finished _ _ responds =>
    refine ⟨exchange.simulator, confines.refl _, ?_⟩
    rw [if_pos rfl]
    exact congrArg Simulator.finish responds.keeps.2.2.2

/-- **What a cycle does to the simulator.** -/
theorem confined_cycle (confines : Simulator.Confines reaches)
    (opened : exchange.dispatcher.closeReason = none) :
    exchange.Confined reaches exchange.cycle := by
  by_cases ready : exchange.dispatcher.pending = none
  · exact (cycle_turn opened ready).confined confines
  · rw [cycle_of_suspended opened ready]
    exact confined_of_reached nofun (confines.refl _)

/-- **What resuming does to the simulator.** -/
theorem confined_resume (confines : Simulator.Confines reaches)
    (opened : exchange.dispatcher.closeReason = none) :
    exchange.Confined reaches exchange.resume := by
  have timed : reaches exchange.simulator exchange.roused.simulator := confines.time _
  rcases resume_cases opened with
    ⟨_, same⟩ | ⟨_, _, ⟨after, responds, same⟩ | ⟨reason, after, responds, same⟩⟩
  · rw [same]
    exact confined_cycle confines opened
  · rw [same]
    refine .trans confines ?_ (confined_cycle confines (responds.keeps.1.trans opened))
    rwa [responds.keeps.2.2.2]
  · rw [same]
    have left : (after.close reason).2.simulator = exchange.roused.simulator :=
      responds.keeps.2.2.2
    refine confined_of_reached ?_ (left ▸ timed)
    cases responds with
    | broke error => exact ne_finished_of_isError error

/-- **What draining does to the simulator.** -/
theorem confined_drain (confines : Simulator.Confines reaches) (exchange : Exchange σ)
    (opened : exchange.dispatcher.closeReason = none) :
    exchange.Confined reaches exchange.drain := by
  induction exchange using drain_induction with
  | stopped exchange stopped =>
    rw [drain_of_stopped stopped]
    exact confined_cycle confines opened
  | served exchange after served ih =>
    have turn := confined_cycle confines opened
    have leaves := exchange.leaves_cycle
    rw [served] at turn leaves
    rw [drain_of_served served]
    exact .trans confines (turn.reached nofun) (ih leaves.1)

/-- Shutting a session down at most reads the time. -/
theorem simulator_shutdown (exchange : Exchange σ) :
    exchange.shutdown.simulator = exchange.simulator ∨
      exchange.shutdown.simulator = (Simulator.time exchange.simulator).2 := by
  unfold shutdown
  split
  · exact .inl rfl
  · cases waiting : exchange.dispatcher.pending with
    | none =>
      rw [answerPending_of_none waiting]
      exact .inl rfl
    | some advance => exact .inr (answerPending_responds waiting).keeps.2.2.2

/-- **What shutting down does to the simulator.** -/
theorem reached_shutdown (confines : Simulator.Confines reaches) (exchange : Exchange σ) :
    reaches exchange.simulator exchange.shutdown.simulator := by
  rcases exchange.simulator_shutdown with same | same
  · rw [same]
    exact confines.refl _
  · rw [same]
    exact confines.time _

end Exchange

/-! ## The connection -/

/-- What reading, writing and closing keep. -/
structure Connection.Kept (keeps : Connection → Prop) : Prop where
  read : ∀ connection, keeps connection → keeps connection.readFrame.2
  write : ∀ connection frame, keeps connection → keeps (connection.writeFrame frame).2
  close : ∀ connection, keeps connection → keeps connection.close

/-- Reading, writing and closing leave a channel as faultless as it was. -/
theorem Connection.kept_obliging : Connection.Kept fun connection => connection.channel.Obliging where
  read connection obliging := by
    obtain ⟨channel, ⟨taken, arrivals, rfl⟩, same⟩ := connection.onlyRead_readFrame
    rw [same]
    exact ⟨obliging.progresses, obliging.flushes, obliging.present⟩
  write connection frame obliging := by
    unfold writeFrame
    split
    · obtain ⟨calls, wrote⟩ := Frame.write_of_obliging frame obliging
      rw [wrote]
      exact (obliging.took calls frame).flush
    · exact obliging
  close connection obliging := by
    unfold close
    split
    · exact ⟨obliging.progresses, obliging.flushes, obliging.present⟩
    · exact obliging

namespace Exchange

variable {keeps : Connection → Prop} (kept : Connection.Kept keeps) {exchange : Exchange σ}
include kept

omit [Simulator σ] in
theorem kept_respond (response : Response) (operation : Operation)
    (held : keeps exchange.connection) :
    keeps (exchange.respond response operation).2.connection := by
  have sent (frame : List UInt8) := kept.write exchange.connection frame held
  unfold respond
  split
  · exact held
  · rename_i frame dispatcher _
    have wrote := sent frame
    split
    · rename_i found
      rwa [found] at wrote
    · rename_i found
      rwa [found] at wrote

omit [Simulator σ] in
theorem kept_answer (response : Response) (operation : Operation)
    (held : keeps exchange.connection) :
    keeps (exchange.answer response operation).2.connection := by
  have responded := kept_respond kept response operation held
  unfold answer
  split
  · rename_i found
    rw [found] at responded
    exact kept.close _ responded
  · rename_i found
    rw [found] at responded
    exact responded

theorem kept_finish (id : RequestId) (held : keeps exchange.connection) :
    keeps (exchange.finish id).2.connection := by
  have responded := kept_respond kept (.ok id .ack) .finish held
  unfold finish
  split <;>
  · rename_i found
    rw [found] at responded
    exact kept.close _ responded

theorem kept_execute (command : Command) (held : keeps exchange.connection) :
    keeps (exchange.execute command).2.connection := by
  unfold execute
  dsimp only
  split
  · exact kept_answer kept _ _ held
  · exact held
  · exact kept_finish kept _ held
  · exact kept_answer kept _ _ held

/-- **What a cycle keeps of the connection.** -/
theorem kept_cycle (held : keeps exchange.connection) : keeps exchange.cycle.2.connection := by
  have read := kept.read exchange.connection held
  cases upcoming : exchange.upcoming? with
  | some command =>
    obtain ⟨_, _, same⟩ := cycle_of_upcoming upcoming
    rw [same]
    exact kept_execute kept command read
  | none =>
    rcases cycle_of_idle upcoming with ⟨_, _, same⟩ | ⟨_, _, same⟩ | ⟨_, _, _, same⟩
    · rw [same]
      exact held
    · rw [same]
      exact held
    · rw [same]
      exact kept.close _ read

/-- **What answering the advance that waits keeps of the connection.** -/
theorem kept_answerPending (held : keeps exchange.connection) :
    keeps exchange.answerPending.2.connection := by
  unfold answerPending
  split
  · exact held
  · exact kept_respond kept _ _ held

/-- So does waking. -/
theorem kept_wake (held : keeps exchange.connection) : keeps exchange.wake.connection := by
  have answered := kept_answerPending kept held
  unfold wake
  split
  · exact held
  · split
    · rename_i found
      rw [found] at answered
      exact kept.close _ answered
    · rename_i found
      rw [found] at answered
      exact answered

/-- So does resuming. -/
theorem kept_resume (held : keeps exchange.connection) : keeps exchange.resume.2.connection := by
  rw [resume_eq_cycle_wake]
  exact kept_cycle kept (kept_wake kept held)

/-- So does draining. -/
theorem kept_drain (exchange : Exchange σ) (held : keeps exchange.connection) :
    keeps exchange.drain.2.connection := by
  induction exchange using drain_induction with
  | stopped exchange stopped =>
    rw [drain_of_stopped stopped]
    exact kept_cycle kept held
  | served exchange after served ih =>
    have turned := kept_cycle kept held
    rw [served] at turned
    rw [drain_of_served served]
    exact ih turned

/-- So does shutting down. -/
theorem kept_shutdown (held : keeps exchange.connection) : keeps exchange.shutdown.connection := by
  unfold shutdown
  split
  · exact held
  · exact kept.close _ (kept_answerPending kept held)

end Exchange

end Cosimulation
