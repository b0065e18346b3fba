import Cosimulation.Proofs.Wire.Size
import Cosimulation.Session.Application
/-!
# What comes of an operation

An operation that is applied ends the run, lets time pass, or has its reply or its error at once
(`Operation.apply_cases`).  The first two leave the simulator alone: they are left to the session.
-/

namespace Cosimulation

set_option autoImplicit false

namespace Operation

variable {σ : Type} [Simulator σ]

/-- What needs an object has a reply or fails. -/
theorem withObject_cases {path : String} {simulator : σ}
    {next : ObjectReference → σ → Except ApplyError Applied × σ}
    (replies : ∀ reference simulator, (∃ reply, (next reference simulator).1 = .ok (.reply reply)) ∨
      ∃ error, (next reference simulator).1 = .error error) :
    (∃ reply, (withObject path simulator next).1 = .ok (.reply reply)) ∨
      ∃ error, (withObject path simulator next).1 = .error error := by
  unfold withObject
  split
  · rename_i error _ _
    exact .inr ⟨error, rfl⟩
  · exact replies ..

omit [Simulator σ] in
theorem valueReply_cases (path : String) (result : Except ApplyError SignalValue × σ) :
    (∃ reply, (valueReply path result).1 = .ok (.reply reply)) ∨
      ∃ error, (valueReply path result).1 = .error error := by
  obtain ⟨_ | _, _⟩ := result
  · exact .inr ⟨_, rfl⟩
  · exact .inl ⟨_, rfl⟩

theorem assign_cases (path : String) (value : SignalValue) (mode : WriteMode) (simulator : σ) :
    (∃ reply, (assign path value mode simulator).1 = .ok (.reply reply)) ∨
      ∃ error, (assign path value mode simulator).1 = .error error := by
  unfold assign
  split
  · rename_i error _
    exact .inr ⟨error, rfl⟩
  · refine withObject_cases fun reference simulator => ?_
    split
    · rename_i error _ _
      exact .inr ⟨error, rfl⟩
    · exact .inl ⟨_, rfl⟩

/-- **What comes of an operation**: the end of the run, an advance, a reply or an error.  A reply to
an operation without a path is short, and only an operation with a path fails. -/
theorem apply_cases (operation : Operation) (simulator : σ) :
    (operation = .finish ∧ operation.apply simulator = (.ok .finish, simulator)) ∨
    (∃ ticks, operation = .advance ticks ∧ ticks ≠ 0 ∧
      operation.apply simulator = (.ok (.advance ticks), simulator)) ∨
    (∃ reply, (operation.apply simulator).1 = .ok (.reply reply) ∧
      (operation.path? = none → reply.IsShort)) ∨
    (∃ error, (operation.apply simulator).1 = .error error ∧ operation.path? ≠ none) := by
  have object {path : String} (goes : (∃ reply, (operation.apply simulator).1 = .ok (.reply reply)) ∨
      ∃ error, (operation.apply simulator).1 = .error error) (named : operation.path? = some path) :
      (∃ reply, (operation.apply simulator).1 = .ok (.reply reply) ∧
        (operation.path? = none → reply.IsShort)) ∨
      (∃ error, (operation.apply simulator).1 = .error error ∧ operation.path? ≠ none) := by
    rcases goes with ⟨reply, found⟩ | ⟨error, found⟩
    · exact .inl ⟨reply, found, by simp [named]⟩
    · exact .inr ⟨error, found, by simp [named]⟩
  cases operation with
  | ping => exact .inr (.inr (.inl ⟨_, rfl, fun _ => .inr (.inl ⟨_, rfl⟩)⟩))
  | lookup path =>
    exact .inr (.inr (object (withObject_cases fun _ _ => .inl ⟨_, rfl⟩) rfl))
  | read path =>
    exact .inr (.inr (object (withObject_cases fun _ _ => valueReply_cases ..) rfl))
  | write path value => exact .inr (.inr (object (assign_cases ..) rfl))
  | force path value => exact .inr (.inr (object (assign_cases ..) rfl))
  | release path =>
    exact .inr (.inr (object (withObject_cases fun _ _ => valueReply_cases ..) rfl))
  | time => exact .inr (.inr (.inl ⟨_, rfl, fun _ => .inr (.inr ⟨_, rfl⟩)⟩))
  | advance ticks =>
    rw [apply]
    split
    · exact .inr (.inr (.inl ⟨_, rfl, fun _ => .inr (.inr ⟨_, rfl⟩)⟩))
    · rename_i positive
      exact .inr (.inl ⟨ticks, rfl, positive, rfl⟩)
  | print line => exact .inr (.inr (.inl ⟨_, rfl, fun _ => .inl rfl⟩))
  | finish => exact .inl ⟨rfl, rfl⟩

/-- Whether an operation lets time pass before it is answered. -/
def Suspends (operation : Operation) : Prop :=
  ∃ ticks, operation = .advance ticks ∧ ticks ≠ 0

/-- An operation that lets time pass is left to the session. -/
theorem apply_of_suspends {ticks : UInt64} (positive : ticks ≠ 0) (simulator : σ) :
    (Operation.advance ticks).apply simulator = (.ok (.advance ticks), simulator) := by
  rw [apply, if_neg positive]

/-- An operation that has its reply or its error at once does not let time pass. -/
theorem not_suspends_of_apply (operation : Operation) (simulator : σ)
    (answered : ∀ ticks, (operation.apply simulator).1 ≠ .ok (.advance ticks)) :
    ¬operation.Suspends := by
  rintro ⟨ticks, rfl, positive⟩
  exact answered ticks (congrArg Prod.fst (apply_of_suspends positive simulator))

end Operation

end Cosimulation
