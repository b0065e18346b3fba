import Cosimulation.Proofs.Frame.Splitting
import Cosimulation.Proofs.Session.Turns
/-!
# Draining a session

Draining takes turns as long as they serve commands.  It comes to an end, since every turn that
serves one takes something from the channel, and what it ends with is the first turn that serves
none (`drain_of_served`, `drain_of_stopped`).  These two equations, and the induction that goes with
them (`drain_induction`), are all that the theory of draining needs.
-/

namespace Cosimulation

set_option autoImplicit false

namespace Exchange

variable {σ : Type} [Simulator σ] {exchange after : Exchange σ}

/-- A turn that serves a command is followed by others. -/
theorem drain_of_served (served : exchange.cycle = (.served, after)) :
    exchange.drain = after.drain := by
  rw [drain]
  split
  · rename_i found
    cases served.symm.trans found
    rfl
  all_goals
    rename_i found
    cases served.symm.trans found

/-- A turn that serves no command is the last. -/
theorem drain_of_stopped (stopped : exchange.cycle.1 ≠ .served) :
    exchange.drain = exchange.cycle := by
  rw [drain]
  split
  · rename_i found
    exact absurd (congrArg Prod.fst found) stopped
  all_goals
    rename_i found
    exact found.symm

/-- What holds of a session whose next turn is its last, and is passed back from the session behind
a turn that serves a command, holds of every session. -/
theorem drain_induction {motive : Exchange σ → Prop}
    (stopped : ∀ exchange : Exchange σ, exchange.cycle.1 ≠ .served → motive exchange)
    (served : ∀ exchange after : Exchange σ, exchange.cycle = (.served, after) → motive after →
      motive exchange)
    (exchange : Exchange σ) : motive exchange := by
  fun_induction drain exchange with
  | case1 exchange after h _ ih => exact served exchange after h ih
  | case2 exchange ticks after h => exact stopped exchange (by rw [h]; nofun)
  | case3 exchange after h => exact stopped exchange (by rw [h]; nofun)
  | case4 exchange reason after h => exact stopped exchange (by rw [h]; nofun)

/-- **Draining ends with a turn that serves no command.** -/
theorem stopped_drain (exchange : Exchange σ) : exchange.drain.1 ≠ .served := by
  induction exchange using drain_induction with
  | stopped exchange stopped => rwa [drain_of_stopped stopped]
  | served exchange after served ih => rwa [drain_of_served served]

/-- What draining leaves behind. -/
theorem leaves_drain (exchange : Exchange σ) :
    exchange.drain.1.Leaves exchange.drain.2.dispatcher := by
  induction exchange using drain_induction with
  | stopped exchange stopped =>
    rw [drain_of_stopped stopped]
    exact leaves_cycle exchange
  | served exchange after served ih => rwa [drain_of_served served]

/-- A session that is ready does not stay suspended when it is drained. -/
theorem ne_suspended_drain (opened : exchange.dispatcher.closeReason = none)
    (ready : exchange.dispatcher.pending = none) : exchange.drain.1 ≠ .suspended := by
  induction exchange using drain_induction with
  | stopped exchange stopped =>
    rw [drain_of_stopped stopped]
    exact ne_suspended_cycle opened ready
  | served exchange after served ih =>
    have leaves := exchange.leaves_cycle
    rw [served] at leaves
    rw [drain_of_served served]
    exact ih leaves.1 leaves.2

/-! ## Every turn that serves a command takes a frame -/

omit [Simulator σ] in
/-- The frame of a command that comes is the first of those still to be read. -/
theorem frames_of_upcoming {command : Command} (upcoming : exchange.upcoming? = some command) :
    ∃ payload, exchange.connection.channel.frames =
      payload :: exchange.connection.readFrame.2.channel.frames := by
  unfold upcoming? at upcoming
  split at upcoming
  · split at upcoming
    · rename_i payload found
      refine ⟨payload, ?_⟩
      unfold Connection.readFrame at found ⊢
      split at found
      · rename_i opened
        rw [if_pos opened]
        exact Frame.frames_of_read (Prod.ext found rfl)
      · cases found
    · cases upcoming
  · cases upcoming

omit [Simulator σ] in
/-- Answering takes no frame. -/
theorem Responds.frames {due : Response} {operation : Operation}
    {result : Except CloseReason Unit} (responds : exchange.Responds due operation result after) :
    after.connection.channel.frames = exchange.connection.channel.frames := by
  cases responds with
  | sent _ wrote => exact wrote.frames
  | broke _ _ wrote => exact wrote.frames

/-- Only a session that is open and not suspended serves a command. -/
theorem ready_of_served (served : exchange.cycle = (.served, after)) :
    exchange.dispatcher.closeReason = none ∧ exchange.dispatcher.pending = none := by
  cases closing : exchange.dispatcher.closeReason with
  | some reason => cases (cycle_of_closed closing).symm.trans served
  | none =>
    refine ⟨rfl, Decidable.byContradiction fun waiting => ?_⟩
    cases (cycle_of_suspended closing waiting).symm.trans served

/-- **A turn that serves a command takes one frame.** -/
theorem frames_of_served (served : exchange.cycle = (.served, after)) :
    exchange.connection.channel.frames.length = after.connection.channel.frames.length + 1 := by
  obtain ⟨opened, ready⟩ := ready_of_served served
  have turn := cycle_turn opened ready
  rw [served] at turn
  cases turn with
  | served upcoming _ _ responds =>
    obtain ⟨payload, front⟩ := frames_of_upcoming upcoming
    rw [front, List.length_cons]
    exact congrArg (·.length + 1) responds.frames.symm

/-- So does resuming, if it serves a command. -/
theorem frames_of_resumed (served : exchange.resume = (.served, after)) :
    exchange.connection.channel.frames.length = after.connection.channel.frames.length + 1 := by
  cases closing : exchange.dispatcher.closeReason with
  | some reason =>
    cases (resume_of_closed closing).symm.trans served
  | none =>
    rcases resume_cases closing with ⟨_, same⟩ | ⟨_, _, ⟨_, responds, same⟩ | ⟨_, _, _, same⟩⟩
    · exact frames_of_served (same ▸ served)
    · rw [← frames_of_served (same ▸ served)]
      exact congrArg List.length responds.frames.symm
    · cases same.symm.trans served

/-! ## Draining as a run of cycles -/

/-- A session that is closed or suspended, so that a cycle does nothing. -/
def Resting (exchange : Exchange σ) : Prop :=
  exchange.dispatcher.closeReason ≠ none ∨ exchange.dispatcher.pending ≠ none

omit [Simulator σ] in
theorem upcoming?_of_resting (resting : exchange.Resting) : exchange.upcoming? = none := by
  unfold upcoming?
  rcases resting with closing | waiting
  · exact if_neg fun ready => closing ready.1
  · exact if_neg fun ready => waiting ready.2

theorem cycle_of_resting (resting : exchange.Resting) : exchange.cycle.2 = exchange := by
  cases closing : exchange.dispatcher.closeReason with
  | some reason => rw [cycle_of_closed closing]
  | none =>
    have waiting := resting.resolve_left (· closing)
    rw [cycle_of_suspended closing waiting]

/-- A resting session stays as it is, however many cycles are asked of it, and decodes nothing. -/
theorem run_cycles_of_resting (resting : exchange.Resting) (count : Nat) :
    exchange.run (List.replicate count .cycle) = exchange ∧
      exchange.heard (List.replicate count .cycle) = [] := by
  induction count with
  | zero => exact ⟨rfl, rfl⟩
  | succ count ih =>
    have step : exchange.after .cycle = exchange := cycle_of_resting resting
    constructor
    · rw [List.replicate_succ]
      show (exchange.after .cycle).run (List.replicate count .cycle) = exchange
      rw [step, ih.1]
    · rw [List.replicate_succ, heard, step, ih.2, decoded?, upcoming?_of_resting resting]
      rfl

omit [Simulator σ] in
/-- A turn that serves no command leaves the session resting. -/
theorem resting_of_leaves {outcome : Outcome} (leaves : outcome.Leaves exchange.dispatcher)
    (stopped : outcome ≠ .served) : exchange.Resting := by
  cases outcome with
  | served => exact absurd rfl stopped
  | yielded ticks =>
    obtain ⟨_, id, waiting⟩ := leaves
    exact .inr (by simp [waiting])
  | suspended => exact .inr leaves.2
  | closed reason =>
    have closing : exchange.dispatcher.closeReason = some reason := leaves
    exact .inl (by simp [closing])

/-- **Draining is cycling**, as often as there are frames still to be read, and once more. -/
theorem run_cycles_eq_drain (exchange : Exchange σ) {count : Nat}
    (enough : exchange.connection.channel.frames.length + 1 ≤ count) :
    exchange.run (List.replicate count .cycle) = exchange.drain.2 := by
  obtain ⟨count, rfl⟩ := Nat.exists_eq_add_of_le' (Nat.le_trans (Nat.le_add_left 1 _) enough)
  induction exchange using drain_induction generalizing count with
  | stopped exchange stopped =>
    have resting := resting_of_leaves exchange.leaves_cycle stopped
    rw [drain_of_stopped stopped]
    exact (run_cycles_of_resting resting count).1
  | served exchange after served ih =>
    have frames := frames_of_served served
    obtain ⟨count, rfl⟩ := Nat.exists_eq_add_of_le' (show 1 ≤ count by omega)
    have first : exchange.run (List.replicate (count + 1 + 1) .cycle) =
        after.run (List.replicate (count + 1) .cycle) := by
      show exchange.cycle.2.run (List.replicate (count + 1) .cycle) = _
      rw [served]
    rw [first, drain_of_served served]
    exact ih count (by omega)

end Exchange

end Cosimulation
