import Cosimulation.Proofs.Session.Executing
import Cosimulation.Proofs.Simulator.Rendering
import Cosimulation.Proofs.Vpi.Handles
/-!
# Only digits are assigned, and only to objects that were found

A value is checked when an operation is applied, rendered as digits by itself, and handed over as a
text whose end is marked by a NUL.  What the simulator receives in the end is well formed because each
of these relies on the one before it.

All that a session does to its simulator are steps of it (`reaches_after`), so the handles that it uses
are those of its history.  What an operation assigns is one value or nothing
(`Operation.assignment?`, `assigned_apply`), and along a run these add up to what was assigned
(`assigned_run`).
-/

namespace Cosimulation

set_option autoImplicit false

/-! ## The digits that are assigned -/

/-- A row of digits that a value may be assigned as. -/
structure SignalValue.Renders (value : SignalValue) (row : String) : Prop where
  nonempty : row ≠ ""
  small : ∀ char ∈ row.toList, char ∈ ['0', '1', 'x', 'z']
  bits : ∀ digits, value = .bits digits →
    row.toList = digits.toList.map Char.toLower ∧ row.length = digits.length
  int : ∀ number, value = .int number →
    row.toList = Nat.toDigits 2 number.toNat ∧
      Nat.ofDigitChars 2 row.toList 0 = number.toNat ∧
      (row.toList.head? = some '0' → row = "0")

/-- No binary numeral but that of zero begins with zero. -/
theorem SignalValue.eq_zero_of_head?_toDigits {number : Nat}
    (leading : (Nat.toDigits 2 number).head? = some '0') : number = 0 := by
  have single : ∀ digit < 2, digit.digitChar = '0' → digit = 0 := by decide
  induction number using Nat.base_induction 2 (by decide) with
  | single number small =>
    rw [Nat.toDigits_of_lt_base small] at leading
    exact single number small (Option.some.inj leading)
  | digit front last small more ih =>
    rw [← Nat.toDigits_append_toDigits (by decide) more small,
      List.head?_append_of_ne_nil _ Nat.toDigits_ne_nil] at leading
    exact absurd (ih leading) (Nat.ne_of_gt more)

/-- **A value that may be written is rendered as digits**, none of which is a NUL. -/
theorem SignalValue.renders_toBits {value : SignalValue} {path : String}
    (valid : value.validate path = .ok ()) :
    value.Renders (value.toBits 1) ∧ VpiHost.isPassable (value.toBits 1) := by
  have positive : value.digits.length ≠ 0 := fun zero =>
    digits_ne_nil valid (List.length_eq_zero_iff.1 zero)
  have whole : (value.toBits 1).toList = value.digits := by
    rw [toList_toBits valid, show 1 - value.digits.length = 0 by omega]
    rfl
  obtain ⟨nonempty, small, _⟩ := toBits_keeps_meaning valid 1
  refine ⟨⟨nonempty, small, ?_, ?_⟩, ?_⟩
  · rintro digits rfl
    refine ⟨whole, ?_⟩
    rw [← String.length_toList, whole, length_digits]
    rfl
  · rintro number rfl
    refine ⟨whole, ?_, fun leading => ?_⟩
    · rw [whole]
      exact ofDigitChars_digits valid rfl
    · rw [whole] at leading
      have zero : number.toNat = 0 := eq_zero_of_head?_toDigits leading
      rw [← String.toList_inj, whole, digits, zero]
      rfl
  · have torn : '\x00' ∉ (value.toBits 1).toList := fun member =>
      absurd (small _ member) (by decide)
    simpa [VpiHost.isPassable] using torn

/-! ## What a session does to its simulator -/

namespace VpiSimulator

/-- One state of a simulator comes from another by steps. -/
def Reaches (first second : VpiSimulator) : Prop := ∃ steps, second = first.run steps

theorem Reaches.after (simulator : VpiSimulator) (step : Step) :
    Reaches simulator (simulator.after step) :=
  ⟨[step], rfl⟩

/-- Every call of the simulator is a step. -/
theorem confines_reaches : Simulator.Confines Reaches where
  refl simulator := ⟨[], rfl⟩
  trans := by
    rintro first second third ⟨steps, rfl⟩ ⟨more, rfl⟩
    exact ⟨steps ++ more, (List.foldl_append ..).symm⟩
  lookup simulator path := .after simulator (.lookup path)
  read simulator handle path := .after simulator (.read handle path)
  write simulator handle path value mode := .after simulator (.write handle path value mode)
  release simulator handle path := .after simulator (.release handle path)
  time simulator := .after simulator .time
  print simulator line := .after simulator (.print line)

end VpiSimulator

open VpiSimulator

/-- What can happen to a session whose simulator may come to answer differently. -/
inductive Occasion where
  | cycle
  | resume
  | shutdown
  | rescript (change : VpiHost → VpiHost)

/-- What happens to the session then. -/
def Occasion.event : Occasion → Event VpiSimulator
  | .cycle => .cycle
  | .resume => .resume
  | .shutdown => .shutdown
  | .rescript change => .change (·.after (.rescript change))

namespace Exchange

/-- What a session does to its simulator before it decodes is a step at most. -/
theorem reaches_poised (exchange : Exchange VpiSimulator) (event : Event VpiSimulator) :
    Reaches exchange.simulator (exchange.poised event).simulator := by
  rcases exchange.simulator_poised_cases event with same | same
  · rw [same]
    exact confines_reaches.refl _
  · rw [same]
    exact .after exchange.simulator .time

/-- **All that a session does to its simulator are steps of it.** -/
theorem reaches_after (exchange : Exchange VpiSimulator) (occasion : Occasion) :
    Reaches exchange.simulator (exchange.after occasion.event).simulator := by
  have timed : Reaches exchange.simulator (Simulator.time exchange.simulator).2 :=
    .after exchange.simulator .time
  cases decoded : exchange.decoded? occasion.event with
  | none =>
    rcases simulator_after_of_none decoded with same | same
    · rw [same]
      cases occasion with
      | rescript change => exact .after exchange.simulator (.rescript change)
      | cycle | resume | shutdown => exact confines_reaches.refl _
    · rwa [same]
  | some command =>
    refine confines_reaches.trans (exchange.reaches_poised occasion.event) ?_
    rcases simulator_after_of_decoded decoded with same | ⟨_, same⟩
    · rw [same]
      exact Operation.apply_confined confines_reaches _ _
    · rw [same]
      exact .after _ .finish

theorem reaches_run (exchange : Exchange VpiSimulator) (occasions : List Occasion) :
    Reaches exchange.simulator (exchange.run (occasions.map Occasion.event)).simulator := by
  induction occasions generalizing exchange with
  | nil => exact confines_reaches.refl _
  | cons occasion occasions ih =>
    exact confines_reaches.trans (exchange.reaches_after occasion)
      (ih (exchange.after occasion.event))

end Exchange

/-! ## What is assigned -/

/-- Whether a call puts a value in any way. -/
def VpiCall.isPut : VpiCall → Bool
  | .putValue .. => true
  | _ => false

namespace VpiHost

/-- The calls made so far that assign a value. -/
def assigned (host : VpiHost) : List VpiCall := host.calls.filter VpiCall.isAssignment

/-- The calls made so far that put a value in any way. -/
def puts (host : VpiHost) : List VpiCall := host.calls.filter VpiCall.isPut

end VpiHost

namespace VpiSimulator

theorem Makes.assigned {before after : VpiSimulator} {calls : List VpiCall}
    (makes : Makes before calls after) :
    after.host.assigned = before.host.assigned ++ calls.filter VpiCall.isAssignment := by
  have untraced {call : VpiCall} (passing : call.isTraced = false) :
      Option.guard VpiCall.isAssignment call = none := by
    cases call with
    | putValue => exact if_neg (Bool.eq_false_iff.1 passing)
    | _ => rfl
  have seen := makes.filterMap_calls fun _ => untraced
  rwa [List.filterMap_eq_filter] at seen

/-- What makes no traced calls assigns nothing. -/
theorem Makes.assigns_nothing {before after : VpiSimulator} (makes : Makes before [] after) :
    after.host.assigned = before.host.assigned :=
  makes.assigned.trans (List.append_nil _)

variable (simulator : VpiSimulator)

/-- Looking up a path makes no call but one that asks for it. -/
theorem filter_calls_lookup {watched : VpiCall → Bool}
    (unwatched : ∀ path, watched (.handleByName path true) = false) (path : String) :
    (simulator.lookup path).2.host.calls.filter watched = simulator.host.calls.filter watched := by
  have asked : (simulator.host.note (.handleByName path true)).calls.filter watched =
      simulator.host.calls.filter watched := by
    simp [VpiHost.note, unwatched]
  have looks := simulator.looks_lookup path
  generalize simulator.lookup path = looked at looks
  cases looks with
  | known | torn => rfl
  | found | missing => exact asked

theorem assigned_lookup (path : String) :
    (simulator.lookup path).2.host.assigned = simulator.host.assigned :=
  simulator.filter_calls_lookup (fun _ => rfl) path

theorem puts_lookup (path : String) :
    (simulator.lookup path).2.host.puts = simulator.host.puts :=
  simulator.filter_calls_lookup (fun _ => rfl) path

/-- Writing a valid value assigns its digits. -/
theorem assigned_write {value : SignalValue} {path : String} (valid : value.validate path = .ok ())
    (handle : Handle) (mode : WriteMode) :
    (simulator.write handle path value mode).2.host.assigned =
      simulator.host.assigned ++ [.assignment handle (value.toBits 1) mode.flag] := by
  have makes := (simulator.makes_write handle path value mode).assigned
  rw [if_pos (SignalValue.renders_toBits valid).2] at makes
  refine makes.trans (congrArg _ ?_)
  cases mode <;> rfl

/-- The call that assigns a value to the object of a path, if the value is valid and the object is
found. -/
def assignment? (path : String) (value : SignalValue) (mode : WriteMode) : Option VpiCall :=
  match value.validate path, (simulator.lookup path).1 with
  | .ok (), .ok handle => some (.assignment handle (value.toBits 1) mode.flag)
  | _, _ => none

end VpiSimulator

namespace Operation

/-- What an operation is to assign: a value, to the object of a path. -/
def assigns? : Operation → Option (String × SignalValue × WriteMode)
  | .write path value => some (path, value, .deposit)
  | .force path value => some (path, value, .force)
  | _ => none

/-- The call by which an operation assigns its value. -/
def assignment? (operation : Operation) (simulator : VpiSimulator) : Option VpiCall :=
  operation.assigns?.bind fun (path, value, mode) => simulator.assignment? path value mode

/-- An operation that assigns a value does nothing else. -/
theorem apply_of_assigns {operation : Operation} {path : String} {value : SignalValue}
    {mode : WriteMode} (assigns : operation.assigns? = some (path, value, mode))
    (simulator : VpiSimulator) : operation.apply simulator = assign path value mode simulator := by
  cases operation <;> cases assigns <;> rfl

/-- What needs an object assigns no more than what is done with the object. -/
theorem assigned_withObject {α : Type} (path : String) (simulator : VpiSimulator)
    {next : ObjectReference → VpiSimulator → Except ApplyError α × VpiSimulator}
    (nothing : ∀ handle simulator,
      (next handle simulator).2.host.assigned = simulator.host.assigned) :
    (withObject path simulator next).2.host.assigned = simulator.host.assigned := by
  have looked : (Simulator.lookup simulator path).2.host.assigned = simulator.host.assigned :=
    simulator.assigned_lookup path
  unfold withObject
  split
  · rename_i found
    rwa [found] at looked
  · rename_i handle _ found
    rw [found] at looked
    exact (nothing handle _).trans looked

/-- Assigning a value makes its one call if the value is valid and the object is found. -/
theorem assigned_assign (path : String) (value : SignalValue) (mode : WriteMode)
    (simulator : VpiSimulator) :
    (assign path value mode simulator).2.host.assigned =
      simulator.host.assigned ++ (simulator.assignment? path value mode).toList := by
  have looked := simulator.assigned_lookup path
  have same : Simulator.lookup simulator path = simulator.lookup path := rfl
  rw [assign, VpiSimulator.assignment?]
  cases valid : value.validate path with
  | error error => exact (List.append_nil _).symm
  | ok =>
    dsimp only
    rw [withObject, same]
    generalize simulator.lookup path = found at looked ⊢
    obtain ⟨result, next⟩ := found
    cases result with
    | error error => exact looked.trans (List.append_nil _).symm
    | ok handle =>
      have written : (Simulator.write next handle path value mode).2.host.assigned =
          next.host.assigned ++ [.assignment handle (value.toBits 1) mode.flag] :=
        next.assigned_write valid handle mode
      rw [looked] at written
      dsimp only
      split <;>
      · rename_i wrote
        rwa [wrote] at written

/-- **What an operation assigns**: its value, if it is to assign one that is valid to an object that is
found. -/
theorem assigned_apply (operation : Operation) (simulator : VpiSimulator) :
    (operation.apply simulator).2.host.assigned =
      simulator.host.assigned ++ (operation.assignment? simulator).toList := by
  have timed : (Simulator.time simulator).2.host.assigned = simulator.host.assigned ++ [] :=
    simulator.makes_time.assigned
  have object {operation : Operation} (unassigned : operation.assignment? simulator = none)
      (same : (operation.apply simulator).2.host.assigned = simulator.host.assigned) :
      (operation.apply simulator).2.host.assigned =
        simulator.host.assigned ++ (operation.assignment? simulator).toList := by
    rw [unassigned, same]
    exact (List.append_nil _).symm
  cases operation with
  | ping => exact timed
  | lookup path => exact object rfl (assigned_withObject path simulator fun _ _ => rfl)
  | read path =>
    refine object rfl (assigned_withObject path simulator fun handle simulator => ?_)
    rw [simulator_valueReply]
    exact (simulator.makes_read handle path).assigns_nothing
  | write path value => exact assigned_assign path value .deposit simulator
  | force path value => exact assigned_assign path value .force simulator
  | release path =>
    refine object rfl (assigned_withObject path simulator fun handle simulator => ?_)
    rw [simulator_valueReply]
    exact (simulator.makes_release handle path).assigns_nothing
  | time => exact timed
  | advance ticks =>
    rw [apply]
    split
    · exact timed
    · exact (List.append_nil _).symm
  | print line => exact (simulator.makes_print line).assigned
  | finish => exact (List.append_nil _).symm

end Operation

namespace Exchange

variable (exchange : Exchange VpiSimulator)

/-- The call by which the command assigns its value that the session decodes on an occasion. -/
def assignment? (occasion : Occasion) : Option VpiCall :=
  (exchange.decoded? occasion.event).bind fun command =>
    command.operation.assignment? (exchange.poised occasion.event).simulator

/-- The calls by which the commands assign their values that the session decodes in a run. -/
def assignments (exchange : Exchange VpiSimulator) : List Occasion → List VpiCall
  | [] => []
  | occasion :: occasions => (exchange.assignment? occasion).toList ++
    (exchange.after occasion.event).assignments occasions

/-- Before it decodes, a session asks for the time at most. -/
theorem filter_calls_poised {watched : VpiCall → Bool}
    (unwatched : watched (.getTime true Vpi.simulationTime) = false) (event : Event VpiSimulator) :
    (exchange.poised event).simulator.host.calls.filter watched =
      exchange.simulator.host.calls.filter watched := by
  have timed : (Simulator.time exchange.simulator).2.host.calls.filter watched =
      exchange.simulator.host.calls.filter watched := by
    show (exchange.simulator.host.calls ++ [VpiCall.getTime true Vpi.simulationTime]).filter
      watched = _
    simp [unwatched]
  rcases exchange.simulator_poised_cases event with same | same
  · rw [same]
  · rwa [same]

theorem assigned_poised (event : Event VpiSimulator) :
    (exchange.poised event).simulator.host.assigned = exchange.simulator.host.assigned :=
  exchange.filter_calls_poised (rfl : VpiCall.isAssignment _ = false) event

theorem puts_poised (event : Event VpiSimulator) :
    (exchange.poised event).simulator.host.puts = exchange.simulator.host.puts :=
  exchange.filter_calls_poised (rfl : VpiCall.isPut _ = false) event

/-- **What is assigned on an occasion** is what the command assigns that is decoded then. -/
theorem assigned_after (occasion : Occasion) :
    (exchange.after occasion.event).simulator.host.assigned =
      exchange.simulator.host.assigned ++ (exchange.assignment? occasion).toList := by
  have timed : (Simulator.time exchange.simulator).2.host.assigned =
      exchange.simulator.host.assigned := exchange.simulator.makes_time.assigns_nothing
  unfold assignment?
  cases decoded : exchange.decoded? occasion.event with
  | none =>
    refine Eq.trans ?_ (List.append_nil _).symm
    rcases simulator_after_of_none decoded with same | same
    · rw [same]
      cases occasion <;> rfl
    · rwa [same]
  | some command =>
    rw [← exchange.assigned_poised occasion.event]
    rcases simulator_after_of_decoded decoded with same | ⟨ends, same⟩
    · rw [same]
      exact command.operation.assigned_apply _
    · rw [same, Option.bind_some, ends]
      exact (VpiSimulator.makes_finish _).assigned

/-- **What is assigned in a run** is what the commands assign that are decoded in it. -/
theorem assigned_run (occasions : List Occasion) :
    (exchange.run (occasions.map Occasion.event)).simulator.host.assigned =
      exchange.simulator.host.assigned ++ exchange.assignments occasions := by
  induction occasions generalizing exchange with
  | nil => exact (List.append_nil _).symm
  | cons occasion occasions ih =>
    rw [assignments, ← List.append_assoc, ← exchange.assigned_after occasion]
    exact ih (exchange.after occasion.event)

end Exchange

/-! ## Commands that assign nothing -/

/-- A value that is not valid, and one whose object is not found, is not put, and the operation fails
accordingly. -/
theorem Operation.apply_of_refused {operation : Operation} {path : String} {value : SignalValue}
    {mode : WriteMode} (assigns : operation.assigns? = some (path, value, mode))
    {simulator : VpiSimulator} {error : ApplyError}
    (refused : value.validate path = .error error ∨
      value.validate path = .ok () ∧ (simulator.lookup path).1 = .error error) :
    (operation.apply simulator).1 = .error error ∧
      (operation.apply simulator).2.host.puts = simulator.host.puts := by
  have looked := simulator.puts_lookup path
  rw [apply_of_assigns assigns, assign]
  rcases refused with invalid | ⟨valid, unknown⟩
  · rw [invalid]
    exact ⟨rfl, rfl⟩
  · have same : Simulator.lookup simulator path = simulator.lookup path := rfl
    rw [valid]
    dsimp only
    rw [withObject, same]
    cases found : simulator.lookup path with
    | mk result next =>
      rw [found] at looked unknown
      dsimp only at looked unknown
      subst unknown
      exact ⟨rfl, looked⟩

/-- **Only digits are assigned, and only to objects that were found.**  Whatever commands arrive, and
however the simulator comes to answer differently, the calls that assign values are those of the
write and force commands decoded so far whose value was valid and whose object was found.  Such a
call goes to the object's handle, which is not null, with the digits of the value, which can always be
handed over.  Any other write or force makes no call that puts a value, and is answered with its
error, if that fits into a frame, unless the channel fails. -/
theorem only_digits_are_assigned (limit : Nat) (connection : Connection) (host : VpiHost)
    (occasions : List Occasion) :
    let start := Exchange.begin limit connection (VpiSimulator.mk [] host)
    let reached := start.run (occasions.map Occasion.event)
    reached.simulator.host.assigned = host.assigned ++ start.assignments occasions ∧
      ∀ (occasion : Occasion) command path value mode,
        reached.decoded? occasion.event = some command →
        command.operation.assigns? = some (path, value, mode) →
        let ready := reached.poised occasion.event
        let next := reached.after occasion.event
        (∀ handle, value.validate path = .ok () → (ready.simulator.lookup path).1 = .ok handle →
          handle ≠ 0 ∧ value.Renders (value.toBits 1) ∧ VpiHost.isPassable (value.toBits 1) ∧
            next.simulator.host.assigned = reached.simulator.host.assigned ++
              [.assignment handle (value.toBits 1) mode.flag]) ∧
        ∀ error,
          value.validate path = .error error ∨
            value.validate path = .ok () ∧ (ready.simulator.lookup path).1 = .error error →
          next.simulator.host.puts = reached.simulator.host.puts ∧
            ((Response.failed command.requestId error).Fits limit →
              Exchange.Sends (.failed command.requestId error) ready next) := by
  intro start reached
  refine ⟨start.assigned_run occasions, ?_⟩
  intro occasion command path value mode decoded assigns ready next
  have limited : ready.dispatcher.limit = limit :=
    (reached.limit_poised occasion.event).trans (start.limit_run _)
  constructor
  · intro handle valid found
    obtain ⟨renders, passable⟩ := SignalValue.renders_toBits valid
    obtain ⟨steps, same⟩ : Reaches ⟨[], host⟩ ready.simulator :=
      confines_reaches.trans (start.reaches_run occasions)
        (reached.reaches_poised occasion.event)
    have sound : Sound ((VpiSimulator.mk [] host).history steps) ready.simulator := by
      rw [same]
      exact (Sound.fresh host).run steps
    have given := ((sound.lookup path).whole path (some handle) (sound.mem_of_lookup found)).1
    have due : reached.assignment? occasion =
        some (.assignment handle (value.toBits 1) mode.flag) := by
      rw [Exchange.assignment?, decoded, Option.bind_some, Operation.assignment?, assigns]
      show ready.simulator.assignment? path value mode = _
      rw [VpiSimulator.assignment?, valid, found]
    have assigned := reached.assigned_after occasion
    rw [due] at assigned
    exact ⟨fun null => given (congrArg some null), renders, passable, assigned⟩
  · intro error refused
    obtain ⟨upcoming, same⟩ := Exchange.after_of_decoded decoded
    obtain ⟨failed, untouched⟩ := Operation.apply_of_refused assigns refused
    have before : ready.simulator.host.puts = reached.simulator.host.puts :=
      reached.puts_poised occasion.event
    refine ⟨?_, fun fits => ?_⟩
    · rcases Exchange.simulator_after_of_decoded decoded with left | ⟨ends, _⟩
      · rw [← before, ← untouched]
        exact congrArg (·.host.puts) left
      · rw [ends] at assigns
        cases assigns
    · rw [← limited] at fits
      show Exchange.Sends _ ready (reached.after occasion.event)
      rw [same]
      exact Exchange.sends_cycle_of_failed upcoming failed fits

end Cosimulation
