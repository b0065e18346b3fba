import Cosimulation.Proofs.Session.Closing
import Cosimulation.Proofs.Session.Counting
import Cosimulation.Proofs.Session.Effects
import Cosimulation.Proofs.Simulator.Memory
/-!
# Failing commands in memory

An operation fails over a simulator in memory because its path has no object or because its value is
improper, and either is told in few words beside the path (`Operation.error_of_memory`).  The failure
that would report such a failure as too long repeats the path as well and says more, so that it is
longer still (`Dispatcher.not_fits_oversized`).

Hence a command that fails is counted as failed once, with one exception: if the failure of its
operation is itself too long, it is counted twice, and then the session ends (`counts_event`).
-/

namespace Cosimulation

set_option autoImplicit false

open Json (escapedSize)

/-! ## How long failures are -/

/-- What is wrong with a value is told in few words. -/
theorem SignalValue.error_of_validate {value : SignalValue} {path : String} {error : ApplyError}
    (failed : value.validate path = .error error) :
    ∃ reason, error = .invalidValue path reason ∧ escapedSize reason ≤ 36 := by
  cases value with
  | int value => cases failed
  | bits digits =>
    unfold validate at failed
    dsimp only at failed
    split at failed
    · cases failed
      exact ⟨_, rfl, by decide +kernel⟩
    · split at failed
      · rename_i char _
        cases failed
        have words : escapedSize "invalid digit '" = 15 ∧ escapedSize "' in bit string" = 15 := by
          decide +kernel
        have escaped := Json.escapedSize_toString_char_le char
        refine ⟨_, rfl, ?_⟩
        simp only [Json.escapedSize_append, Json.escapedSize_toString, words]
        omega
      · cases failed

/-- An operation that fails in memory lacks its object or has an improper value. -/
theorem Operation.error_of_memory {operation : Operation} {simulator : MemorySimulator}
    {error : ApplyError} (failed : (operation.apply simulator).1 = .error error) :
    ∃ path, operation.path? = some path ∧ (error = .unknownObject path ∨
      ∃ reason, error = .invalidValue path reason ∧ escapedSize reason ≤ 36) := by
  have assigned {path : String} {value : SignalValue} {mode : WriteMode}
      (failed : (assign path value mode simulator).1 = .error error) :
      error = .unknownObject path ∨
        ∃ reason, error = .invalidValue path reason ∧ escapedSize reason ≤ 36 := by
    rw [assign_memory] at failed
    split at failed
    · rename_i found
      cases failed
      exact .inr (SignalValue.error_of_validate found)
    · split at failed
      · cases failed
        exact .inl rfl
      · cases failed
  cases operation with
  | ping | time | print | finish => cases failed
  | advance ticks =>
    rw [apply] at failed
    split at failed <;> cases failed
  | lookup path =>
    rw [apply_lookup] at failed
    split at failed
    · cases failed
      exact ⟨path, rfl, .inl rfl⟩
    · cases failed
  | read path =>
    rw [apply_read] at failed
    split at failed
    · cases failed
      exact ⟨path, rfl, .inl rfl⟩
    · cases failed
  | release path =>
    rw [apply_release] at failed
    split at failed
    · cases failed
      exact ⟨path, rfl, .inl rfl⟩
    · cases failed
  | write path value => exact ⟨path, rfl, assigned failed⟩
  | force path value => exact ⟨path, rfl, assigned failed⟩

/-- **A failure in memory is shorter than the failure that would report it as too long.** -/
theorem Dispatcher.not_fits_oversized {operation : Operation} {simulator : MemorySimulator}
    {error : ApplyError} {limit : Nat} {id : RequestId}
    (failed : (operation.apply simulator).1 = .error error)
    (long : ¬(Response.failed id error).Fits limit) (length maximum : Nat) :
    ¬(Response.failed id (oversized operation length maximum)).Fits limit := by
  obtain ⟨path, about, failure⟩ := Operation.error_of_memory failed
  have short : (Message.payload (Response.failed id error)).length ≤ 162 + escapedSize path := by
    rcases failure with rfl | ⟨reason, rfl, short⟩
    · rw [length_unknownObject]
      omega
    · rw [length_invalidValue]
      omega
  rw [Response.fits_iff] at long ⊢
  rw [length_oversized, rejectionLength, about, Option.getD_some]
  omega

/-! ## How often a command is counted -/

namespace Command

variable {σ : Type} [Simulator σ] {limit : Nat} {simulator : σ} {command : Command}

/-- A command that fails: its operation does, or its reply is too long. -/
def Fails (limit : Nat) (simulator : σ) (command : Command) : Prop :=
  (∃ error, (command.operation.apply simulator).1 = .error error) ∨
    ∃ reply, (command.operation.apply simulator).1 = .ok (.reply reply) ∧
      ¬(Response.ok command.requestId reply).Fits limit

/-- A command whose operation fails with a failure that is too long to be reported. -/
def FailsUnheard (limit : Nat) (simulator : σ) (command : Command) : Prop :=
  ∃ error, (command.operation.apply simulator).1 = .error error ∧
    ¬(Response.failed command.requestId error).Fits limit

theorem strikes_of_unheard (unheard : command.FailsUnheard limit simulator) :
    command.strikes limit simulator = 2 := by
  obtain ⟨error, failed, long⟩ := unheard
  unfold strikes
  rw [failed]
  dsimp only [Response.due?]
  rw [Response.strikes_failed, Response.excess, if_neg long]

theorem strikes_of_fails (fails : command.Fails limit simulator)
    (heard : ¬command.FailsUnheard limit simulator) : command.strikes limit simulator = 1 := by
  unfold strikes
  rcases fails with ⟨error, failed⟩ | ⟨reply, replied, long⟩
  · have fits : (Response.failed command.requestId error).Fits limit :=
      Classical.not_not.1 fun long => heard ⟨error, failed, long⟩
    rw [failed]
    dsimp only [Response.due?]
    rw [Response.strikes_failed, Response.excess, if_pos fits]
  · rw [replied]
    dsimp only [Response.due?]
    rw [Response.strikes_ok, Response.excess, if_neg long]

theorem strikes_of_not_fails (least : 256 ≤ limit) (succeeds : ¬command.Fails limit simulator) :
    command.strikes limit simulator = 0 := by
  unfold strikes
  match applied : (command.operation.apply simulator).1 with
  | .error error => exact absurd (.inl ⟨error, applied⟩) succeeds
  | .ok (.advance ticks) => rfl
  | .ok .finish =>
    dsimp only [Response.due?]
    rw [Response.strikes_ok, Response.excess_of_isShort least _ (.inl rfl)]
  | .ok (.reply reply) =>
    have fits : (Response.ok command.requestId reply).Fits limit :=
      Classical.not_not.1 fun long => succeeds (.inr ⟨reply, applied, long⟩)
    dsimp only [Response.due?]
    rw [Response.strikes_ok, Response.excess, if_pos fits]

end Command

namespace Exchange

variable {exchange : Exchange MemorySimulator} {command : Command}

/-- **A failure that is too long ends the session.** -/
theorem closes_of_unheard (upcoming : exchange.upcoming? = some command)
    (unheard : command.FailsUnheard exchange.dispatcher.limit exchange.simulator) :
    ∃ text, exchange.cycle.2.dispatcher.closeReason = some (.protocol text) := by
  obtain ⟨error, failed, long⟩ := unheard
  obtain ⟨_, _, same⟩ := cycle_of_upcoming upcoming
  have also := Dispatcher.not_fits_oversized failed long
  rw [same]
  unfold execute
  dsimp only [update]
  generalize command.operation.apply exchange.simulator = applying at failed
  obtain ⟨applied, simulator⟩ := applying
  dsimp only at failed
  subst failed
  let failing : Exchange MemorySimulator :=
    ⟨((exchange.dispatcher.countCommand.enter .applying).enter .responding).countFailure,
      exchange.connection.readFrame.2, simulator⟩
  obtain ⟨_, answered⟩ := answer_of_long failing long (also _ _)
  exact ⟨_, congrArg (·.2.dispatcher.closeReason) answered⟩

/-- Answering an advance leaves a simulator in memory as it is. -/
theorem simulator_wake (exchange : Exchange MemorySimulator) :
    exchange.wake.simulator = exchange.simulator := by
  cases opened : exchange.dispatcher.closeReason with
  | some reason => rw [wake_of_closed opened]
  | none =>
    cases waiting : exchange.dispatcher.pending with
    | none => rw [wake_of_ready waiting]
    | some advance =>
      rcases wake_cases opened waiting with responds | ⟨_, after, responds, same⟩
      · exact responds.keeps.2.2.2
      · rw [same]
        exact responds.keeps.2.2.2

theorem simulator_poised (exchange : Exchange MemorySimulator) (event : Event MemorySimulator) :
    (exchange.poised event).simulator = exchange.simulator := by
  cases event with
  | resume => exact exchange.simulator_wake
  | cycle | shutdown | change => rfl

/-- **What an event counts over a simulator in memory.**  The command that it decodes is counted, and
as a failure if it fails: once, or twice if that ends the session. -/
theorem counts_event {limit : Nat} (limited : exchange.dispatcher.limit = limit) (least : 256 ≤ limit)
    {event : Event MemorySimulator} (decoded : exchange.decoded? event = some command) :
    let before := exchange.dispatcher
    let after := (exchange.after event).dispatcher
    (¬command.Fails limit exchange.simulator → before.Counts 1 0 after) ∧
    (command.Fails limit exchange.simulator → ¬command.FailsUnheard limit exchange.simulator →
      before.Counts 1 1 after) ∧
    (command.FailsUnheard limit exchange.simulator → before.Counts 1 2 after ∧
      ∃ text, after.closeReason = some (.protocol text)) := by
  intro before after
  subst limited
  have counts := (counts_after least event).2 command decoded
  rw [simulator_poised] at counts
  refine ⟨fun succeeds => ?_, fun fails heard => ?_, fun unheard => ⟨?_, ?_⟩⟩
  · rwa [Command.strikes_of_not_fails least succeeds] at counts
  · rwa [Command.strikes_of_fails fails heard] at counts
  · rwa [Command.strikes_of_unheard unheard] at counts
  · obtain ⟨upcoming, same⟩ := after_of_decoded decoded
    rw [show after = _ from congrArg Exchange.dispatcher same]
    refine closes_of_unheard upcoming ?_
    rwa [limit_poised, simulator_poised]

end Exchange

end Cosimulation
