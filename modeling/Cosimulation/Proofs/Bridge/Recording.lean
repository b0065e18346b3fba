import Cosimulation.Registration
/-!
# A ledger over a recorder

A ledger keeps the permanent registrations, which are those that are not for a delay.  A recorder keeps
every registration that it accepts until its delays are taken out.  So the two keep accounts of the same
registrations by different rules.

A `Recording` is a ledger that registers with a recorder of which another holder may reject triggers
and take delays at any time.  Each of these steps adds to what is accepted and to what is taken
(`Settles`), and these accounts add up along a run (`settles_run`): what was taken and what is still
to be taken are together the accepted delays, in their order.
-/

namespace Cosimulation

set_option autoImplicit false

/-- A ledger, and the recorder that it registers with. -/
structure Recording where
  ledger : Ledger
  recorder : Recorder
  deriving DecidableEq, Repr

/-- A step taken by the holder of the ledger or by another holder of the recorder. -/
inductive Recording.Step where
  | register (registration : Registration)
  | reject (trigger : Trigger)
  | takeDelays
  deriving DecidableEq, Repr

/-- The delays among some registrations, each with the entry point that it is for. -/
def Registration.delays (registrations : List Registration) : List (UInt64 × EntryPoint) :=
  registrations.filterMap Recorder.delay?

/-- The permanent registrations among some. -/
def Registration.permanent (registrations : List Registration) : List Registration :=
  registrations.filter fun registration => !registration.trigger.isDelay

namespace Registration

variable (registrations others : List Registration)

@[simp] theorem delays_append : delays (registrations ++ others) =
    delays registrations ++ delays others :=
  List.filterMap_append

@[simp] theorem permanent_append : permanent (registrations ++ others) =
    permanent registrations ++ permanent others :=
  List.filter_append ..

/-- No permanent registration is a delay. -/
@[simp] theorem delays_permanent : delays (permanent registrations) = [] := by
  rw [delays, permanent, List.filterMap_eq_nil_iff]
  intro registration member
  have lasts := (List.mem_filter.1 member).2
  obtain ⟨trigger, entry⟩ := registration
  cases trigger with
  | afterDelay ticks => cases lasts
  | _ => rfl

@[simp] theorem permanent_permanent : permanent (permanent registrations) = permanent registrations := by
  rw [permanent, permanent, List.filter_filter]
  simp only [Bool.and_self]

end Registration

open Registration

namespace Recording

/-- A ledger and a recorder before any registration. -/
def fresh : Recording := ⟨.empty, .empty⟩

/-- The recording after a step. -/
def after (recording : Recording) : Step → Recording
  | .register registration =>
    match recording.ledger.register recording.recorder registration with
    | (_, ledger, recorder) => ⟨ledger, recorder⟩
  | .reject trigger => { recording with recorder := recording.recorder.reject trigger }
  | .takeDelays => { recording with recorder := recording.recorder.takeDelays.2 }

/-- The recording after a row of steps. -/
def run (recording : Recording) (steps : List Step) : Recording :=
  steps.foldl after recording

/-- The registration that a step gets accepted. -/
def accepts? (recording : Recording) : Step → Option Registration
  | .register registration =>
    match (recording.ledger.register recording.recorder registration).1 with
    | .ok () => some registration
    | .error _ => none
  | .reject _ => none
  | .takeDelays => none

/-- The delays that a step takes. -/
def takes (recording : Recording) : Step → List (UInt64 × EntryPoint)
  | .takeDelays => recording.recorder.takeDelays.1
  | .register _ => []
  | .reject _ => []

/-- The registrations that get accepted in a run, in their order. -/
def accepted (recording : Recording) : List Step → List Registration
  | [] => []
  | step :: steps => (recording.accepts? step).toList ++ (recording.after step).accepted steps

/-- The delays that are taken in a run, one result behind the other. -/
def taken (recording : Recording) : List Step → List (UInt64 × EntryPoint)
  | [] => []
  | step :: steps => recording.takes step ++ (recording.after step).taken steps

/-- The triggers that are rejected by some steps. -/
def rejections (steps : List Step) : List Trigger :=
  steps.filterMap fun
    | .reject trigger => some trigger
    | _ => none

/-! ## One registration -/

/-- **A registration is refused, and without effect, exactly if its trigger has been rejected.** -/
theorem register_eq (recording : Recording) (registration : Registration) :
    recording.ledger.register recording.recorder registration =
      if registration.trigger ∈ recording.recorder.rejected then
        (.error (.registrationRejected registration.trigger.display), recording.ledger,
          recording.recorder)
      else
        (.ok (), recording.ledger.enter registration,
          { recording.recorder with log := recording.recorder.log ++ [registration] }) := by
  have recorded : Scheduler.register recording.recorder registration =
      recording.recorder.register registration := rfl
  rw [Ledger.register, recorded, Recorder.register]
  by_cases rejected : registration.trigger ∈ recording.recorder.rejected
  · rw [if_pos rejected, if_pos rejected]
  · rw [if_neg rejected, if_neg rejected]

theorem enter_eq (ledger : Ledger) (registration : Registration) :
    (ledger.enter registration).registrations =
      ledger.registrations ++ permanent [registration] := by
  unfold Ledger.enter permanent
  cases delay : registration.trigger.isDelay <;> simp [delay]

/-! ## Accounts -/

/-- What happened between two states of a recording: `accepted` are the registrations that got
accepted, `taken` the delays that were taken, `rejected` the triggers that were rejected. -/
structure Settles (before : Recording) (accepted : List Registration)
    (taken : List (UInt64 × EntryPoint)) (rejected : List Trigger) (after : Recording) : Prop where
  delays : taken ++ delays after.recorder.log = delays before.recorder.log ++ delays accepted
  permanent : permanent after.recorder.log = permanent before.recorder.log ++ permanent accepted
  entered : after.ledger.registrations = before.ledger.registrations ++ Registration.permanent accepted
  rejected : after.recorder.rejected = before.recorder.rejected ++ rejected

namespace Settles

variable {first second third : Recording} {accepted others : List Registration}
  {taken more : List (UInt64 × EntryPoint)} {rejected besides : List Trigger}

theorem refl (recording : Recording) : Settles recording [] [] [] recording :=
  ⟨(List.append_nil _).symm, (List.append_nil _).symm, (List.append_nil _).symm,
    (List.append_nil _).symm⟩

theorem trans (one : Settles first accepted taken rejected second)
    (two : Settles second others more besides third) :
    Settles first (accepted ++ others) (taken ++ more) (rejected ++ besides) third where
  delays := by
    rw [List.append_assoc, two.delays, ← List.append_assoc, one.delays, delays_append,
      List.append_assoc]
  permanent := by rw [two.permanent, one.permanent, permanent_append, List.append_assoc]
  entered := by rw [two.entered, one.entered, permanent_append, List.append_assoc]
  rejected := by rw [two.rejected, one.rejected, List.append_assoc]

end Settles

/-- What one step settles. -/
theorem settles_after (recording : Recording) (step : Step) :
    recording.Settles (recording.accepts? step).toList (recording.takes step)
      (rejections [step]) (recording.after step) := by
  cases step with
  | register registration =>
    dsimp only [accepts?, after]
    rw [register_eq]
    by_cases rejected : registration.trigger ∈ recording.recorder.rejected
    · rw [if_pos rejected]
      exact .refl recording
    · rw [if_neg rejected]
      exact ⟨delays_append .., permanent_append .., enter_eq .., (List.append_nil _).symm⟩
  | reject trigger =>
    exact ⟨(List.append_nil _).symm, (List.append_nil _).symm, (List.append_nil _).symm, rfl⟩
  | takeDelays =>
    refine ⟨?_, ?_, (List.append_nil _).symm, (List.append_nil _).symm⟩
    · exact congrArg (delays recording.recorder.log ++ ·) (delays_permanent recording.recorder.log)
    · exact (permanent_permanent recording.recorder.log).trans (List.append_nil _).symm

/-- **What a run settles.** -/
theorem settles_run (recording : Recording) (steps : List Step) :
    recording.Settles (recording.accepted steps) (recording.taken steps) (rejections steps)
      (recording.run steps) := by
  induction steps generalizing recording with
  | nil => exact .refl recording
  | cons step steps ih =>
    have both := (settles_after recording step).trans (ih (recording.after step))
    rwa [rejections, rejections, ← List.filterMap_append] at both

theorem mem_rejections {steps : List Step} {trigger : Trigger} :
    trigger ∈ rejections steps ↔ .reject trigger ∈ steps := by
  rw [rejections, List.mem_filterMap]
  constructor
  · rintro ⟨step, member, found⟩
    cases step with
    | reject other =>
      cases found
      exact member
    | register => cases found
    | takeDelays => cases found
  · exact fun member => ⟨_, member, rfl⟩

/-- **Delays are neither lost nor repeated.**  However registering, rejecting and taking follow on one
another, the delays that were taken and then those that are still in the log are the accepted delays
in the order of their registration.  The rest of the log is what stands in the ledger, which is the
accepted permanent registrations, in their order.  A registration is refused exactly if its trigger
was rejected before, and then it leaves no trace. -/
theorem delays_neither_lost_nor_repeated (steps : List Step) :
    let recording := fresh.run steps
    let accepted := fresh.accepted steps
    fresh.taken steps ++ delays recording.recorder.log = delays accepted ∧
      permanent recording.recorder.log = recording.ledger.registrations ∧
      recording.ledger.registrations = permanent accepted ∧
      ∀ registration,
        let registered := recording.ledger.register recording.recorder registration
        (.reject registration.trigger ∈ steps →
          registered = (.error (.registrationRejected registration.trigger.display),
            recording.ledger, recording.recorder)) ∧
        (.reject registration.trigger ∉ steps → registered.1 = .ok ()) := by
  intro recording accepted
  have settled : fresh.Settles accepted (fresh.taken steps) (rejections steps) recording :=
    settles_run fresh steps
  have entered : recording.ledger.registrations = permanent accepted := settled.entered
  refine ⟨settled.delays, settled.permanent.trans entered.symm, entered, fun registration => ?_⟩
  have rejected : registration.trigger ∈ recording.recorder.rejected ↔
      .reject registration.trigger ∈ steps := by
    rw [settled.rejected, ← mem_rejections]
    rfl
  rw [register_eq]
  refine ⟨fun before => if_pos (rejected.2 before), fun never => ?_⟩
  rw [if_neg (never ∘ rejected.1)]

/-- A delay is taken once, and a permanent registration stays. -/
example :
    let steps := [.register ⟨.endOfSimulation, .shutdown⟩, .register ⟨.afterDelay 25, .resume⟩,
      .takeDelays, .takeDelays]
    fresh.taken steps = [(25, .resume)] ∧
      (fresh.run steps).recorder.log = [⟨.endOfSimulation, .shutdown⟩] := by
  decide

end Recording

end Cosimulation
