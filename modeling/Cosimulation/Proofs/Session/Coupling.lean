import Cosimulation.Proofs.Session.Draining
/-!
# Two sessions side by side

A session sees of its simulator only what the simulator's calls return.  So two simulators that
cannot be told apart by their calls lead two sessions the same way: a relation between simulators
that every call respects (`Simulator.Couples`) is respected by every turn, and all that is not the
simulator stays equal (`coupled_cycle`, `coupled_resume`, `coupled_drain`, `alike_shutdown`).
-/

namespace Cosimulation

set_option autoImplicit false

variable {σ : Type}

/-- Two calls have returned the same and left related states. -/
inductive Coupled {α : Type} {state : Type} (related : state → state → Prop) :
    α × state → α × state → Prop where
  | intro (value : α) {first second : state} :
      related first second → Coupled related (value, first) (value, second)

namespace Coupled

variable {α : Type} {related : σ → σ → Prop} {first second : α × σ}

theorem value (coupled : Coupled related first second) : first.1 = second.1 := by
  cases coupled
  rfl

theorem state (coupled : Coupled related first second) : related first.2 second.2 := by
  cases coupled
  assumption

/-- Going on with what was left. -/
theorem map {weaker : σ → σ → Prop} (coupled : Coupled related first second) {change : σ → σ}
    (goesOn : ∀ {first second}, related first second → weaker (change first) (change second)) :
    Coupled weaker (first.1, change first.2) (second.1, change second.2) := by
  cases coupled with
  | intro value alike => exact .intro value (goesOn alike)

theorem imp {weaker : σ → σ → Prop} (coupled : Coupled related first second)
    (weakens : ∀ {first second}, related first second → weaker first second) :
    Coupled weaker first second :=
  coupled.map weakens

end Coupled

/-- Every call of the simulator that answers does so alike in related states and leaves related
states. -/
structure Simulator.Answers [Simulator σ] (related : σ → σ → Prop) : Prop where
  lookup : ∀ {first second} path, related first second →
    Coupled related (Simulator.lookup first path) (Simulator.lookup second path)
  read : ∀ {first second} reference path, related first second →
    Coupled related (Simulator.read first reference path) (Simulator.read second reference path)
  write : ∀ {first second} reference path value mode, related first second →
    Coupled related (Simulator.write first reference path value mode)
      (Simulator.write second reference path value mode)
  release : ∀ {first second} reference path, related first second →
    Coupled related (Simulator.release first reference path)
      (Simulator.release second reference path)
  time : ∀ {first second}, related first second →
    Coupled related (Simulator.time first) (Simulator.time second)

/-- Every call of the simulator respects a relation. -/
structure Simulator.Couples [Simulator σ] (related : σ → σ → Prop) : Prop
    extends Simulator.Answers related where
  print : ∀ {first second} line, related first second →
    related (Simulator.print first line) (Simulator.print second line)
  finish : ∀ {first second}, related first second →
    related (Simulator.finish first) (Simulator.finish second)

/-- Relations that are respected by the calls that answer may be joined. -/
theorem Simulator.Answers.exists [Simulator σ] {ι : Type} {related : ι → σ → σ → Prop}
    (answers : ∀ index, Simulator.Answers (related index)) :
    Simulator.Answers fun first second => ∃ index, related index first second where
  lookup path := fun ⟨index, alike⟩ => ((answers index).lookup path alike).imp (⟨index, ·⟩)
  read reference path := fun ⟨index, alike⟩ =>
    ((answers index).read reference path alike).imp (⟨index, ·⟩)
  write reference path value mode := fun ⟨index, alike⟩ =>
    ((answers index).write reference path value mode alike).imp (⟨index, ·⟩)
  release reference path := fun ⟨index, alike⟩ =>
    ((answers index).release reference path alike).imp (⟨index, ·⟩)
  time := fun ⟨index, alike⟩ => (answers index).time alike |>.imp (⟨index, ·⟩)

/-! ## Applying an operation -/

namespace Operation

variable [Simulator σ] {related : σ → σ → Prop} (couples : Simulator.Couples related)
  {first second : σ}
include couples

theorem coupled_withObject {α : Type} (path : String) (alike : related first second)
    {next : ObjectReference → σ → Except ApplyError α × σ}
    (goes : ∀ reference {first second}, related first second →
      Coupled related (next reference first) (next reference second)) :
    Coupled related (withObject path first next) (withObject path second next) := by
  have looked := couples.lookup path alike
  unfold withObject
  generalize Simulator.lookup first path = found at looked
  generalize Simulator.lookup second path = also at looked
  cases looked with
  | intro result alike =>
    cases result with
    | error error => exact .intro _ alike
    | ok reference => exact goes reference alike

omit [Simulator σ] couples in
theorem coupled_valueReply (path : String) {first second : Except ApplyError SignalValue × σ}
    (coupled : Coupled related first second) :
    Coupled related (valueReply path first) (valueReply path second) := by
  cases coupled with
  | intro result alike => cases result <;> exact .intro _ alike

theorem coupled_timeReply (make : UInt64 → Reply) (alike : related first second) :
    Coupled related (timeReply make first) (timeReply make second) := by
  have timed := couples.time alike
  unfold timeReply
  generalize Simulator.time first = read at timed
  generalize Simulator.time second = also at timed
  cases timed with
  | intro now alike => exact .intro _ alike

theorem coupled_assign (path : String) (value : SignalValue) (mode : WriteMode)
    (alike : related first second) :
    Coupled related (assign path value mode first) (assign path value mode second) := by
  unfold assign
  split
  · exact .intro _ alike
  · refine coupled_withObject couples path alike fun reference {first second} alike => ?_
    have wrote := couples.write reference path value mode alike
    generalize Simulator.write first reference path value mode = done at wrote
    generalize Simulator.write second reference path value mode = also at wrote
    cases wrote with
    | intro result alike => cases result <;> exact .intro _ alike

/-- **Applying an operation** comes to the same in related simulators. -/
theorem coupled_apply (operation : Operation) (alike : related first second) :
    Coupled related (operation.apply first) (operation.apply second) := by
  cases operation with
  | ping => exact coupled_timeReply couples _ alike
  | lookup path => exact coupled_withObject couples path alike fun _ _ _ alike => .intro _ alike
  | read path =>
    exact coupled_withObject couples path alike fun reference _ _ alike =>
      coupled_valueReply path (couples.read reference path alike)
  | write path value => exact coupled_assign couples path value .deposit alike
  | force path value => exact coupled_assign couples path value .force alike
  | release path =>
    exact coupled_withObject couples path alike fun reference _ _ alike =>
      coupled_valueReply path (couples.release reference path alike)
  | time => exact coupled_timeReply couples _ alike
  | advance ticks =>
    simp only [apply]
    split
    · exact coupled_timeReply couples _ alike
    · exact .intro _ alike
  | print line => exact .intro _ (couples.print line alike)
  | finish => exact .intro _ alike

end Operation

/-! ## Turns -/

namespace Exchange

/-- Two exchanges that differ in their simulators only, and these are related. -/
inductive Alike (related : σ → σ → Prop) : Exchange σ → Exchange σ → Prop where
  | intro (dispatcher : Dispatcher) (connection : Connection) {first second : σ} :
      related first second →
      Alike related ⟨dispatcher, connection, first⟩ ⟨dispatcher, connection, second⟩

variable {related : σ → σ → Prop} {first second : Exchange σ}

theorem Alike.dispatcher (alike : Alike related first second) :
    first.dispatcher = second.dispatcher := by
  cases alike
  rfl

theorem Alike.connection (alike : Alike related first second) :
    first.connection = second.connection := by
  cases alike
  rfl

theorem Alike.simulator (alike : Alike related first second) :
    related first.simulator second.simulator := by
  cases alike
  assumption

theorem Alike.update (alike : Alike related first second) (change : Dispatcher → Dispatcher) :
    Alike related (first.update change) (second.update change) := by
  cases alike with
  | intro dispatcher connection alike => exact .intro _ _ alike

theorem coupled_close (alike : Alike related first second) (reason : CloseReason) :
    Coupled (Alike related) (first.close reason) (second.close reason) := by
  cases alike with
  | intro dispatcher connection alike => exact .intro _ (.intro _ _ alike)

theorem coupled_respond (alike : Alike related first second) (response : Response)
    (operation : Operation) :
    Coupled (Alike related) (first.respond response operation)
      (second.respond response operation) := by
  cases alike with
  | intro dispatcher connection alike =>
    unfold respond
    dsimp only
    generalize dispatcher.frameFor response operation = chosen
    obtain ⟨reason | frame, dispatcher⟩ := chosen
    · exact .intro _ (.intro _ _ alike)
    · dsimp only
      generalize connection.writeFrame frame = wrote
      obtain ⟨error | _, connection⟩ := wrote
      · exact .intro _ (.intro _ _ alike)
      · exact .intro _ (.intro _ _ alike)

theorem coupled_answer (alike : Alike related first second) (response : Response)
    (operation : Operation) :
    Coupled (Alike related) (first.answer response operation)
      (second.answer response operation) := by
  have responded := coupled_respond alike response operation
  unfold answer
  generalize first.respond response operation = done at responded
  generalize second.respond response operation = also at responded
  cases responded with
  | intro result alike =>
    cases result with
    | error reason => exact coupled_close alike reason
    | ok => exact .intro _ (alike.update _)

variable [Simulator σ] (couples : Simulator.Couples related)
include couples

theorem coupled_finish (alike : Alike related first second) (id : RequestId) :
    Coupled (Alike related) (first.finish id) (second.finish id) := by
  have responded := coupled_respond alike (.ok id .ack) .finish
  unfold finish
  generalize first.respond (.ok id .ack) .finish = done at responded
  generalize second.respond (.ok id .ack) .finish = also at responded
  cases responded with
  | intro result alike =>
    cases result with
    | error reason => exact coupled_close alike reason
    | ok =>
      cases alike with
      | intro dispatcher connection alike =>
        exact coupled_close (.intro _ _ (couples.finish alike)) .finished

theorem coupled_execute (alike : Alike related first second) (command : Command) :
    Coupled (Alike related) (first.execute command) (second.execute command) := by
  cases alike with
  | @intro dispatcher connection first second alike =>
    have applied := Operation.coupled_apply couples command.operation alike
    unfold execute
    dsimp only
    generalize command.operation.apply first = done at applied ⊢
    generalize command.operation.apply second = also at applied ⊢
    cases applied with
    | intro result alike =>
      have entered (change : Dispatcher → Dispatcher) :=
        Alike.update (.intro dispatcher connection alike) change
      cases result with
      | error error => exact coupled_answer ((entered _).update _) _ _
      | ok applied =>
        cases applied with
        | reply reply => exact coupled_answer (entered _) _ _
        | advance ticks => exact .intro _ ((entered _).update _)
        | finish => exact coupled_finish couples (entered _) _

/-- **A cycle** goes the same way in both sessions. -/
theorem coupled_cycle (alike : Alike related first second) :
    Coupled (Alike related) first.cycle second.cycle := by
  cases alike with
  | intro dispatcher connection alike =>
    unfold cycle
    dsimp only
    split
    · exact .intro _ (.intro _ _ alike)
    · split
      · exact .intro _ (.intro _ _ alike)
      · unfold receive update
        dsimp only
        generalize connection.readFrame = read
        obtain ⟨error | payload, connection⟩ := read
        · exact coupled_close (.intro _ _ alike) _
        · cases payload with
          | none => exact coupled_close (.intro _ _ alike) _
          | some payload =>
            dsimp only
            unfold handle
            split
            · exact coupled_close (.intro _ _ alike) _
            · exact coupled_execute couples (.update (.intro _ _ alike) _) _

theorem coupled_answerPending (alike : Alike related first second) :
    Coupled (Alike related) first.answerPending second.answerPending := by
  cases alike with
  | @intro dispatcher connection first second alike =>
    have timed := couples.time alike
    unfold answerPending
    dsimp only
    split
    · exact .intro _ (.intro _ _ alike)
    · generalize Simulator.time first = read at timed ⊢
      generalize Simulator.time second = also at timed ⊢
      cases timed with
      | intro now alike => exact coupled_respond (.update (.intro _ _ alike) _) _ _

/-- **Resuming** goes the same way in both sessions. -/
theorem coupled_resume (alike : Alike related first second) :
    Coupled (Alike related) first.resume second.resume := by
  have answered := coupled_answerPending couples alike
  unfold resume
  rw [alike.dispatcher]
  split
  · exact .intro _ alike
  · generalize first.answerPending = done at answered
    generalize second.answerPending = also at answered
    cases answered with
    | intro result alike =>
      cases result with
      | error reason => exact coupled_close alike reason
      | ok => exact coupled_cycle couples alike

/-- **Draining** goes the same way in both sessions. -/
theorem coupled_drain (first second : Exchange σ) (alike : Alike related first second) :
    Coupled (Alike related) first.drain second.drain := by
  induction first using drain_induction generalizing second with
  | stopped first stopped =>
    have turn := coupled_cycle couples alike
    rw [drain_of_stopped stopped, drain_of_stopped (turn.value ▸ stopped)]
    exact turn
  | served first after served ih =>
    have turn := coupled_cycle couples alike
    rw [drain_of_served served]
    rw [served] at turn
    generalize cycled : second.cycle = other at turn
    cases turn with
    | intro _ alike =>
      rw [drain_of_served cycled]
      exact ih _ alike

/-- **Shutting down** goes the same way in both sessions. -/
theorem alike_shutdown (alike : Alike related first second) :
    Alike related first.shutdown second.shutdown := by
  have answered := coupled_answerPending couples alike
  unfold shutdown
  rw [alike.dispatcher]
  split
  · exact alike
  · exact (coupled_close answered.state .shutdown).state

end Exchange

end Cosimulation
