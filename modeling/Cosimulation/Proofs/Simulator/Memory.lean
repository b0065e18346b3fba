import Cosimulation.Session.Application
import Cosimulation.Simulator.Memory
/-!
# Signals in memory and the operations on them

A signal is found by the path that it carries, and no operation changes that path.  So writing to
the signal of one path, which is `amend`, leaves the signals of all others alone (`signal?_amend`),
and each operation on a simulator in memory is a case analysis on the signal of its path.
-/

namespace Cosimulation

set_option autoImplicit false

namespace MemorySimulator

/-- Changes the signal of a path, if there is one. -/
def amend (simulator : MemorySimulator) (path : String) (change : Signal → Signal) :
    MemorySimulator :=
  match simulator.indexOf? path with
  | some index => { simulator with signals := simulator.signals.modify index change }
  | none => simulator

variable (simulator : MemorySimulator) (path : String)

/-! ## Finding -/

/-- The position of a path depends on the paths of the signals alone. -/
theorem indexOf?_eq :
    simulator.indexOf? path = (simulator.signals.map Signal.path).findIdx? (· = path) := by
  rw [List.findIdx?_map]
  rfl

/-- **A path leads to no signal, or to the signal that its position refers to.** -/
theorem position_cases :
    (simulator.indexOf? path = none ∧ simulator.signal? path = none) ∨
      ∃ index signal, simulator.indexOf? path = some index ∧ simulator.signal? path = some signal ∧
        simulator.signals[index]? = some signal ∧ signal.path = path ∧
        simulator.referred index path = .ok signal := by
  cases position : simulator.indexOf? path with
  | none => exact .inl ⟨rfl, by rw [signal?, position, Option.bind_none]⟩
  | some index =>
    obtain ⟨inside, same, _⟩ := List.findIdx?_eq_some_iff_getElem.1 position
    have here := List.getElem?_eq_getElem inside
    have carries : simulator.signals[index].path = path := by simpa using same
    refine .inr ⟨index, _, rfl, ?_, here, carries, ?_⟩
    · rw [signal?, position, Option.bind_some, here]
    · rw [referred, here]
      exact if_pos carries

variable {simulator path}

/-! ## Changing -/

/-- Positions depend on paths, which a change that keeps the path leaves alone. -/
theorem indexOf?_modify {change : Signal → Signal}
    (keeps : ∀ signal, (change signal).path = signal.path) (index : Nat) (other : String) :
    ({ simulator with signals := simulator.signals.modify index change } :
      MemorySimulator).indexOf? other = simulator.indexOf? other := by
  have paths : (simulator.signals.modify index change).map Signal.path =
      simulator.signals.map Signal.path := by
    refine List.ext_getElem? fun position => ?_
    rw [List.getElem?_map, List.getElem?_map, List.getElem?_modify]
    split <;> cases simulator.signals[position]? <;> simp [keeps]
  rw [indexOf?_eq, indexOf?_eq, paths]

/-- **Changing the signal of a path leaves the signals of other paths alone.** -/
theorem signal?_amend {change : Signal → Signal}
    (keeps : ∀ signal, (change signal).path = signal.path) (other : String) :
    (simulator.amend path change).signal? other =
      if other = path then (simulator.signal? path).map change else simulator.signal? other := by
  unfold amend
  rcases simulator.position_cases path with
    ⟨position, missing⟩ | ⟨index, signal, position, found, here, carries, _⟩
  · rw [position, missing]
    dsimp only
    split
    · rename_i same
      rw [same, missing, Option.map_none]
    · rfl
  · rw [position, found]
    dsimp only
    rw [signal?, indexOf?_modify keeps]
    split
    · rename_i same
      rw [same, position, Option.bind_some, List.getElem?_modify_eq, here]
      rfl
    · rename_i different
      rcases simulator.position_cases other with
        ⟨behind, missing⟩ | ⟨_, _, behind, also, there, carried, _⟩
      · rw [behind, missing, Option.bind_none]
      · rw [behind, also, Option.bind_some, List.getElem?_modify_ne, there]
        rintro rfl
        rw [here] at there
        cases there
        exact different (carried.symm.trans carries)

/-- A change that leaves the signal of the path as it is changes nothing. -/
theorem amend_eq_self {change : Signal → Signal}
    (still : ∀ signal, simulator.signal? path = some signal → change signal = signal) :
    simulator.amend path change = simulator := by
  unfold amend
  rcases simulator.position_cases path with ⟨position, _⟩ | ⟨index, signal, position, found, here, _⟩
  · rw [position]
  · have modified : simulator.signals.modify index change = simulator.signals := by
      refine List.ext_getElem? fun other => ?_
      rw [List.getElem?_modify]
      split
      · rename_i same
        rw [← same, here]
        exact congrArg some (still signal found)
      · simp
    rw [position]
    dsimp only
    rw [modified]

@[simp] theorem amend_time (change : Signal → Signal) :
    (simulator.amend path change).time = simulator.time := by
  unfold amend
  split <;> rfl

@[simp] theorem amend_output (change : Signal → Signal) :
    (simulator.amend path change).output = simulator.output := by
  unfold amend
  split <;> rfl

@[simp] theorem amend_finished (change : Signal → Signal) :
    (simulator.amend path change).finished = simulator.finished := by
  unfold amend
  split <;> rfl

/-- A release changes a simulator exactly when the signal is forced. -/
theorem amend_release_eq_iff {signal : Signal} (found : simulator.signal? path = some signal) :
    simulator.amend path Signal.release = simulator ↔ signal.forced = none := by
  constructor
  · intro same
    have keeps (signal : Signal) : signal.release.path = signal.path := rfl
    have after : (simulator.amend path Signal.release).signal? path = _ := signal?_amend keeps path
    rw [same, if_pos rfl, found] at after
    exact congrArg Signal.forced (Option.some.inj after)
  · intro free
    refine amend_eq_self fun other also => ?_
    cases found.symm.trans also
    cases signal
    cases free
    rfl

/-- Setting a signal gives its path a position if it has none, behind all others. -/
theorem indexOf?_setSignal (value : SignalValue) (other : String) :
    (simulator.setSignal path value).indexOf? other =
      (simulator.indexOf? other).or
        (if path = other then some simulator.signals.length else none) := by
  rcases simulator.position_cases path with ⟨position, _⟩ | ⟨index, _, position, _⟩
  · rw [setSignal, position]
    simp [indexOf?, List.findIdx?_append]
  · have keeps (signal : Signal) :
        ({ signal with driven := value, forced := none } : Signal).path = signal.path := rfl
    rw [setSignal, position]
    dsimp only
    rw [indexOf?_modify keeps]
    split
    · rename_i same
      rw [← same, position, Option.some_or]
    · rw [Option.or_none]

/-- Setting a signal drives it anew, whether or not it was there. -/
theorem signal?_setSignal (value : SignalValue) (other : String) :
    (simulator.setSignal path value).signal? other =
      if other = path then some ⟨path, value, none⟩ else simulator.signal? other := by
  rcases simulator.position_cases path with
    ⟨position, missing⟩ | ⟨index, signal, position, found, _, carries, _⟩
  · rw [signal?, indexOf?_setSignal]
    by_cases same : other = path
    · rw [if_pos same, same, position, Option.none_or, if_pos rfl, Option.bind_some, setSignal,
        position]
      simp
    · rw [if_neg same, if_neg (Ne.symm same), Option.or_none, setSignal, position]
      rcases simulator.position_cases other with ⟨there, missing⟩ | ⟨_, _, there, also, here, _, _⟩
      · rw [there, missing, Option.bind_none]
      · rw [there, also, Option.bind_some]
        exact (List.getElem?_append_left (List.getElem?_eq_some_iff.1 here).1).trans here
  · have keeps (signal : Signal) :
        ({ signal with driven := value, forced := none } : Signal).path = signal.path := rfl
    have set : simulator.setSignal path value =
        simulator.amend path fun signal => { signal with driven := value, forced := none } := by
      rw [setSignal, amend, position]
    rw [set, signal?_amend keeps, found, Option.map_some, carries]

end MemorySimulator

/-! ## Operations -/

namespace Operation

variable (path : String) (simulator : MemorySimulator)

/-- An operation on an object goes on with the position of its path. -/
theorem withObject_memory {α : Type}
    (next : ObjectReference → MemorySimulator → Except ApplyError α × MemorySimulator) :
    withObject path simulator next =
      match simulator.indexOf? path with
      | none => (.error (.unknownObject path), simulator)
      | some index => next index simulator := by
  unfold withObject
  rw [show Simulator.lookup simulator path = simulator.lookup path from rfl,
    MemorySimulator.lookup]
  cases simulator.indexOf? path <;> rfl

theorem apply_lookup :
    (Operation.lookup path).apply simulator =
      match simulator.signal? path with
      | none => (.error (.unknownObject path), simulator)
      | some _ => (.ok (.reply (.found path)), simulator) := by
  rw [apply, withObject_memory]
  rcases simulator.position_cases path with ⟨position, missing⟩ | ⟨_, _, position, found, _⟩
  · rw [position, missing]
  · rw [position, found]

theorem apply_read :
    (Operation.read path).apply simulator =
      match simulator.signal? path with
      | none => (.error (.unknownObject path), simulator)
      | some signal => (.ok (.reply (.value path signal.current)), simulator) := by
  rw [apply, withObject_memory]
  rcases simulator.position_cases path with
    ⟨position, missing⟩ | ⟨index, signal, position, found, _, _, refers⟩
  · rw [position, missing]
  · rw [position, found]
    dsimp only
    rw [show Simulator.read simulator index path = simulator.read index path from rfl,
      MemorySimulator.read, refers]
    rfl

/-- A change of the signal that a position refers to is a change of the signal of its path. -/
theorem set_eq_amend {index : Nat} {signal : Signal} (change : Signal → Signal)
    (position : simulator.indexOf? path = some index)
    (here : simulator.signals[index]? = some signal) :
    { simulator with signals := simulator.signals.set index (change signal) } =
      simulator.amend path change := by
  have modified : simulator.signals.set index (change signal) =
      simulator.signals.modify index change := by
    refine List.ext_getElem? fun other => ?_
    rw [List.getElem?_set', List.getElem?_modify]
    split
    · rename_i same
      rw [← same, here]
      rfl
    · simp
  rw [MemorySimulator.amend, position, modified]

theorem apply_release :
    (Operation.release path).apply simulator =
      match simulator.signal? path with
      | none => (.error (.unknownObject path), simulator)
      | some signal =>
        (.ok (.reply (.value path signal.driven)), simulator.amend path Signal.release) := by
  rw [apply, withObject_memory]
  rcases simulator.position_cases path with
    ⟨position, missing⟩ | ⟨index, signal, position, found, here, _, refers⟩
  · rw [position, missing]
  · rw [position, found]
    dsimp only
    rw [show Simulator.release simulator index path = simulator.release index path from rfl,
      MemorySimulator.release, refers]
    dsimp only
    rw [set_eq_amend path simulator Signal.release position here]
    rfl

/-- A value is checked before its path is looked up. -/
theorem assign_memory (value : SignalValue) (mode : WriteMode) :
    assign path value mode simulator =
      match value.validate path with
      | .error error => (.error error, simulator)
      | .ok () =>
        match simulator.signal? path with
        | none => (.error (.unknownObject path), simulator)
        | some _ => (.ok (.reply .ack), simulator.amend path (·.write value mode)) := by
  unfold assign
  cases value.validate path with
  | error error => rfl
  | ok =>
    dsimp only
    rw [withObject_memory]
    rcases simulator.position_cases path with
      ⟨position, missing⟩ | ⟨index, signal, position, found, here, _, refers⟩
    · rw [position, missing]
    · rw [position, found]
      dsimp only
      rw [show Simulator.write simulator index path value mode =
        simulator.write index path value mode from rfl, MemorySimulator.write, refers]
      dsimp only
      rw [set_eq_amend path simulator (·.write value mode) position here]

end Operation

end Cosimulation
