import Mathlib.Data.List.Nodup
import Cosimulation.Proofs.Simulator.Memory
/-!
# References into a simulator in memory

A reference is the position of a signal.  Calls only ever append signals and never change a path
(`Grows.run`), so a path keeps the position that it was given and a reference stays good for the
path that it was found by (`grants_of_indexOf?`), and only for that one (`refuses_of_path`).

A simulator need not search its signals for a path.  `IndexedSimulator` keeps a table of positions
beside them and finds signals by the table alone; the two never disagree
(`IndexedSimulator.agrees_run`).
-/

namespace Cosimulation

set_option autoImplicit false

namespace MemorySimulator

/-! ## Calls -/

/-- A call to a simulator in memory, from the bridge or from the simulation. -/
inductive Call where
  | setSignal (path : String) (value : SignalValue)
  | lookup (path : String)
  | read (reference : ObjectReference) (path : String)
  | write (reference : ObjectReference) (path : String) (value : SignalValue) (mode : WriteMode)
  | release (reference : ObjectReference) (path : String)
  | advance (ticks : UInt64)
  | print (line : String)
  | finish

/-- The simulator after a call. -/
def after (simulator : MemorySimulator) : Call → MemorySimulator
  | .setSignal path value => simulator.setSignal path value
  | .lookup path => (simulator.lookup path).2
  | .read reference path => (simulator.read reference path).2
  | .write reference path value mode => (simulator.write reference path value mode).2
  | .release reference path => (simulator.release reference path).2
  | .advance ticks => simulator.advance ticks
  | .print line => simulator.print line
  | .finish => simulator.finish

/-- The simulator after a row of calls. -/
def run (simulator : MemorySimulator) (calls : List Call) : MemorySimulator :=
  calls.foldl after simulator

/-! ## What calls do to the paths -/

/-- The paths of the signals, by position. -/
def paths (simulator : MemorySimulator) : List String :=
  simulator.signals.map Signal.path

/-- What calls do to the paths: none is lost, moved or repeated. -/
structure Grows (before after : MemorySimulator) : Prop where
  kept : before.paths <+: after.paths
  distinct : before.paths.Nodup → after.paths.Nodup

variable {simulator : MemorySimulator} {path : String} {reference : ObjectReference}

theorem Grows.of_paths_eq {before after : MemorySimulator} (same : after.paths = before.paths) :
    Grows before after :=
  ⟨same ▸ List.prefix_rfl, fun distinct => same ▸ distinct⟩

theorem Grows.trans {first second third : MemorySimulator} (one : Grows first second)
    (two : Grows second third) : Grows first third :=
  ⟨one.kept.trans two.kept, two.distinct ∘ one.distinct⟩

/-- A signal that keeps its path may be replaced. -/
theorem paths_set {signal : Signal} (found : simulator.referred reference path = .ok signal)
    {changed : Signal} (keeps : changed.path = signal.path) :
    ({ simulator with signals := simulator.signals.set reference changed } :
      MemorySimulator).paths = simulator.paths := by
  unfold referred at found
  split at found
  · rename_i here
    split at found
    · cases found
      refine List.ext_getElem? fun position => ?_
      rw [paths, paths, List.getElem?_map, List.getElem?_map, List.getElem?_set']
      split
      · rename_i same
        rw [← same, here]
        exact congrArg some keeps
      · rfl
    · cases found
  · cases found

/-- A path has no position exactly when no signal carries it. -/
theorem indexOf?_eq_none_iff : simulator.indexOf? path = none ↔ path ∉ simulator.paths := by
  rw [indexOf?_eq, List.findIdx?_eq_none_iff]
  simp only [decide_eq_false_iff_not]
  exact ⟨fun missing found => missing path found rfl,
    fun missing other found same => missing (same ▸ found)⟩

theorem grows_setSignal (path : String) (value : SignalValue) :
    Grows simulator (simulator.setSignal path value) := by
  rcases simulator.position_cases path with ⟨position, _⟩ | ⟨index, signal, position, _, here, _⟩
  · have appended : (simulator.setSignal path value).paths = simulator.paths ++ [path] := by
      rw [setSignal, position, paths, List.map_append]
      rfl
    refine ⟨appended ▸ List.prefix_append .., fun distinct => ?_⟩
    rw [appended]
    rw [← List.concat_eq_append]
    exact distinct.concat (indexOf?_eq_none_iff.1 position)
  · refine .of_paths_eq ?_
    rw [setSignal, position]
    refine List.ext_getElem? fun other => ?_
    simp only [paths, List.getElem?_map, List.getElem?_modify]
    split <;> cases simulator.signals[other]? <;> rfl

/-- Only setting a signal changes the paths. -/
theorem paths_after {call : Call} (other : ∀ path value, call ≠ .setSignal path value) :
    (simulator.after call).paths = simulator.paths := by
  cases call with
  | setSignal path value => exact absurd rfl (other path value)
  | lookup path =>
    rw [after, lookup]
    split <;> rfl
  | read reference path => rfl
  | write reference path value mode =>
    rw [after, write]
    split
    · rfl
    · rename_i found
      exact paths_set found (by cases mode <;> rfl)
  | release reference path =>
    rw [after, release]
    split
    · rfl
    · rename_i found
      exact paths_set found rfl
  | advance ticks => rfl
  | print line => rfl
  | finish => rfl

/-- **No call loses, moves or repeats a path.** -/
theorem Grows.after (simulator : MemorySimulator) (call : Call) :
    Grows simulator (simulator.after call) := by
  cases call with
  | setSignal path value => exact grows_setSignal path value
  | _ => exact .of_paths_eq (paths_after nofun)

theorem Grows.run (simulator : MemorySimulator) (calls : List Call) :
    Grows simulator (simulator.run calls) := by
  induction calls generalizing simulator with
  | nil => exact .of_paths_eq rfl
  | cons call calls ih => exact (Grows.after simulator call).trans (ih _)

theorem nodup_paths_run (invocation : Invocation) (calls : List Call) :
    ((launch invocation).run calls).paths.Nodup :=
  (Grows.run _ calls).distinct List.nodup_nil

/-! ## What a reference is good for -/

/-- While no path is repeated, the position of a path is the one at which it stands. -/
theorem indexOf?_eq_some_iff (distinct : simulator.paths.Nodup) :
    simulator.indexOf? path = some reference ↔ simulator.paths[reference]? = some path := by
  have here {index : Nat} (position : simulator.indexOf? path = some index) :
      simulator.paths[index]? = some path := by
    rcases simulator.position_cases path with ⟨missing, _⟩ | ⟨_, _, found, _, here, carries, _⟩
    · cases missing.symm.trans position
    · cases found.symm.trans position
      rw [paths, List.getElem?_map, here, ← carries]
      rfl
  refine ⟨here, fun stands => ?_⟩
  cases position : simulator.indexOf? path with
  | none => exact absurd (List.mem_of_getElem? stands) (indexOf?_eq_none_iff.1 position)
  | some index =>
    obtain ⟨inside, _⟩ := List.getElem?_eq_some_iff.1 stands
    rw [(List.getElem?_inj inside distinct).1 (stands.trans (here position).symm)]

/-- **A path keeps its position.** -/
theorem Grows.indexOf? {before after : MemorySimulator} (grows : Grows before after)
    (distinct : before.paths.Nodup) (position : before.indexOf? path = some reference) :
    after.indexOf? path = some reference := by
  rw [indexOf?_eq_some_iff distinct] at position
  rw [indexOf?_eq_some_iff (grows.distinct distinct)]
  obtain ⟨inside, _⟩ := List.getElem?_eq_some_iff.1 position
  rw [← position]
  exact (List.prefix_iff_getElem?.1 grows.kept _ inside).trans
    (List.getElem?_eq_getElem inside).symm

/-- One simulator is another in which the signal of a path has been replaced. -/
structure Replaces (path : String) (signal : Signal) (before after : MemorySimulator) : Prop where
  replaced : after.signal? path = some signal
  others : ∀ other, other ≠ path → after.signal? other = before.signal? other
  paths : after.paths = before.paths
  time : after.time = before.time
  output : after.output = before.output
  finished : after.finished = before.finished
  invocation : after.invocation = before.invocation

/-- What a reference does together with the path that it is good for. -/
structure Grants (simulator : MemorySimulator) (reference : ObjectReference) (path : String)
    (signal : Signal) : Prop where
  carries : signal.path = path
  found : simulator.signal? path = some signal
  lookup : simulator.lookup path = (.ok reference, simulator)
  read : simulator.read reference path = (.ok signal.current, simulator)
  write : ∀ value mode, ∃ next, simulator.write reference path value mode = (.ok (), next) ∧
    Replaces path (signal.write value mode) simulator next
  release : ∃ next, simulator.release reference path = (.ok signal.driven, next) ∧
    Replaces path signal.release simulator next

/-- What a reference does together with a path that it is not good for: nothing. -/
structure Refuses (simulator : MemorySimulator) (reference : ObjectReference) (path : String) :
    Prop where
  read : simulator.read reference path = (.error (.unknownObject path), simulator)
  write : ∀ value mode, simulator.write reference path value mode =
    (.error (.unknownObject path), simulator)
  release : simulator.release reference path = (.error (.unknownObject path), simulator)

/-- Replacing the signal that a reference stands for replaces the signal of its path. -/
theorem replaces_set {signal : Signal} (position : simulator.indexOf? path = some reference)
    (found : simulator.signal? path = some signal)
    (refers : simulator.referred reference path = .ok signal)
    (here : simulator.signals[reference]? = some signal) {change : Signal → Signal}
    (keeps : ∀ signal, (change signal).path = signal.path) :
    Replaces path (change signal) simulator
      { simulator with signals := simulator.signals.set reference (change signal) } where
  replaced := by
    rw [Operation.set_eq_amend path simulator change position here, signal?_amend keeps, if_pos rfl,
      found, Option.map_some]
  others other different := by
    rw [Operation.set_eq_amend path simulator change position here, signal?_amend keeps,
      if_neg different]
  paths := paths_set refers (keeps signal)
  time := rfl
  output := rfl
  finished := rfl
  invocation := rfl

/-- **The position of a path is a reference that is good for it.** -/
theorem grants_of_indexOf? (position : simulator.indexOf? path = some reference) :
    ∃ signal, simulator.Grants reference path signal := by
  rcases simulator.position_cases path with
    ⟨missing, _⟩ | ⟨index, signal, behind, found, here, carries, refers⟩
  · cases missing.symm.trans position
  · cases behind.symm.trans position
    have assigned (change : Signal → Signal) (keeps : ∀ signal, (change signal).path = signal.path) :=
      replaces_set position found refers here keeps
    refine ⟨signal, carries, found, ?_, ?_, fun value mode => ⟨_, ?_, assigned (·.write value mode)
      fun _ => by cases mode <;> rfl⟩, _, ?_, assigned Signal.release fun _ => rfl⟩
    · rw [lookup, position]
    · rw [read, refers]
      rfl
    · rw [write, refers]
    · rw [release, refers]

/-- **A reference is not good for a path that does not stand at its position.** -/
theorem refuses_of_path (elsewhere : simulator.paths[reference]? ≠ some path) :
    simulator.Refuses reference path := by
  have refused : simulator.referred reference path = .error (.unknownObject path) := by
    unfold referred
    split
    · rename_i here
      refine if_neg fun same => elsewhere ?_
      rw [paths, List.getElem?_map, here, ← same]
      rfl
    · rfl
  refine ⟨?_, fun value mode => ?_, ?_⟩
  · rw [read, refused]
    rfl
  · rw [write, refused]
  · rw [release, refused]

end MemorySimulator

/-! ## A table of positions -/

/-- A simulator in memory that keeps a table of the positions of its signals. -/
structure IndexedSimulator where
  simulator : MemorySimulator
  positions : Std.HashMap String Nat

namespace IndexedSimulator

/-- The simulator that was launched with an invocation, with an empty table. -/
def launch (invocation : Invocation) : IndexedSimulator :=
  ⟨.launch invocation, ∅⟩

/-- Drives anew the signal to which the table leads, or adds a signal and an entry for it. -/
def setSignal (indexed : IndexedSimulator) (path : String) (value : SignalValue) :
    IndexedSimulator :=
  let { simulator, positions } := indexed
  match positions[path]? with
  | some index =>
    ⟨{ simulator with
        signals := simulator.signals.modify index fun signal =>
          { signal with driven := value, forced := none } }, positions⟩
  | none =>
    ⟨{ simulator with signals := simulator.signals ++ [⟨path, value, none⟩] },
      positions.insert path simulator.signals.length⟩

/-- The entry of a path. -/
def lookup (indexed : IndexedSimulator) (path : String) : Except ApplyError ObjectReference :=
  match indexed.positions[path]? with
  | some index => .ok index
  | none => .error (.unknownObject path)

/-- The current value of the signal to which the table leads. -/
def value? (indexed : IndexedSimulator) (path : String) : Option SignalValue :=
  indexed.positions[path]?.bind fun index => indexed.simulator.signals[index]?.map Signal.current

/-- Whether the signal to which the table leads is forced. -/
def isForced (indexed : IndexedSimulator) (path : String) : Bool :=
  indexed.positions[path]?.any fun index =>
    indexed.simulator.signals[index]?.any fun signal => signal.forced.isSome

/-- The simulator after a call.  Only a new signal changes the table. -/
def after (indexed : IndexedSimulator) : MemorySimulator.Call → IndexedSimulator
  | .setSignal path value => indexed.setSignal path value
  | call => { indexed with simulator := indexed.simulator.after call }

/-- The simulator after a row of calls. -/
def run (indexed : IndexedSimulator) (calls : List MemorySimulator.Call) : IndexedSimulator :=
  calls.foldl after indexed

/-- The table leads to the signals that a search would find. -/
structure Agrees (indexed : IndexedSimulator) (simulator : MemorySimulator) : Prop where
  same : indexed.simulator = simulator
  finds : ∀ path, indexed.positions[path]? = simulator.indexOf? path

variable {indexed : IndexedSimulator} {simulator : MemorySimulator}

/-- A signal that is set leads the table and the search to the same position. -/
theorem Agrees.setSignal (agrees : indexed.Agrees simulator) (path : String) (value : SignalValue) :
    (indexed.setSignal path value).Agrees (simulator.setSignal path value) := by
  obtain ⟨memory, positions⟩ := indexed
  obtain ⟨same, finds⟩ := agrees
  dsimp only at same finds
  subst same
  cases position : memory.indexOf? path with
  | some index =>
    have driven : IndexedSimulator.setSignal ⟨memory, positions⟩ path value =
        ⟨memory.setSignal path value, positions⟩ := by
      rw [IndexedSimulator.setSignal, MemorySimulator.setSignal, position]
      dsimp only
      rw [finds, position]
    rw [driven]
    refine ⟨rfl, fun other => ?_⟩
    rw [finds, MemorySimulator.indexOf?_setSignal]
    split
    · rename_i here
      rw [← here, position, Option.some_or]
    · rw [Option.or_none]
  | none =>
    have added : IndexedSimulator.setSignal ⟨memory, positions⟩ path value =
        ⟨memory.setSignal path value, positions.insert path memory.signals.length⟩ := by
      rw [IndexedSimulator.setSignal, MemorySimulator.setSignal, position]
      dsimp only
      rw [finds, position]
    rw [added]
    refine ⟨rfl, fun other => ?_⟩
    rw [Std.HashMap.getElem?_insert, finds, MemorySimulator.indexOf?_setSignal]
    simp only [beq_iff_eq]
    split
    · rename_i here
      rw [← here, position, Option.none_or]
    · rw [Option.or_none]

theorem Agrees.after (agrees : indexed.Agrees simulator) (call : MemorySimulator.Call) :
    (indexed.after call).Agrees (simulator.after call) := by
  have kept (others : ∀ path value, call ≠ .setSignal path value) :
      ({ indexed with simulator := simulator.after call } : IndexedSimulator).Agrees
        (simulator.after call) := by
    refine ⟨rfl, fun path => (agrees.finds path).trans ?_⟩
    rw [MemorySimulator.indexOf?_eq, MemorySimulator.indexOf?_eq]
    exact congrArg (List.findIdx? _) (MemorySimulator.paths_after others).symm
  cases call with
  | setSignal path value => exact agrees.setSignal path value
  | _ =>
    rw [← agrees.same] at kept ⊢
    exact kept nofun

/-- **The table always agrees with the search.** -/
theorem agrees_run (invocation : Invocation) (calls : List MemorySimulator.Call) :
    ((launch invocation).run calls).Agrees ((MemorySimulator.launch invocation).run calls) := by
  have start : (launch invocation).Agrees (MemorySimulator.launch invocation) :=
    ⟨rfl, fun _ => Std.HashMap.getElem?_empty⟩
  generalize launch invocation = indexed, MemorySimulator.launch invocation = simulator at start
  induction calls generalizing indexed simulator with
  | nil => exact start
  | cons call calls ih => exact ih _ _ (start.after call)

/-- What is found by the table is what is found by a search. -/
theorem Agrees.found (agrees : indexed.Agrees simulator) (path : String) :
    indexed.lookup path = (simulator.lookup path).1 ∧
      indexed.value? path = simulator.value? path ∧
      indexed.isForced path = simulator.isForced path := by
  obtain ⟨memory, positions⟩ := indexed
  obtain ⟨rfl, finds⟩ := agrees
  rw [lookup, value?, isForced, finds, MemorySimulator.lookup, MemorySimulator.value?,
    MemorySimulator.isForced, MemorySimulator.signal?]
  cases memory.indexOf? path with
  | none => exact ⟨rfl, rfl, rfl⟩
  | some index => exact ⟨rfl, rfl, rfl⟩

/-- **References stay valid.**  However a simulator in memory that was launched has been called, its
table leads from a path exactly to the position at which the path stands; so no path stands at two
positions, and none leads out of range.  What the table finds is what the simulator finds.  A
reference that a path was found by is, in every later state, the one that the path is found by; it
grants access to the signal of the path, and to nothing else, and it is refused with any other path
and without effect, as every reference out of range is. -/
theorem references_stay_valid (invocation : Invocation) (calls : List MemorySimulator.Call) :
    let indexed := (launch invocation).run calls
    let simulator := (MemorySimulator.launch invocation).run calls
    indexed.simulator = simulator ∧
      (∀ path index, indexed.positions[path]? = some index ↔
        ∃ signal : Signal, simulator.signals[index]? = some signal ∧ signal.path = path) ∧
      simulator.paths.Nodup ∧
      (∀ outside path, simulator.signals.length ≤ outside → simulator.Refuses outside path) ∧
      ∀ path, (indexed.lookup path = (simulator.lookup path).1 ∧
          indexed.value? path = simulator.value? path ∧
          indexed.isForced path = simulator.isForced path) ∧
        ∀ reference, (simulator.lookup path).1 = .ok reference →
          ∀ later : List MemorySimulator.Call,
            let reached := simulator.run later
            (∃ signal, reached.Grants reference path signal) ∧
              ∀ other, other ≠ path → reached.Refuses reference other := by
  intro indexed simulator
  have agrees : indexed.Agrees simulator := agrees_run invocation calls
  have distinct : simulator.paths.Nodup := MemorySimulator.nodup_paths_run invocation calls
  refine ⟨agrees.same, fun path index => ?_, distinct, fun outside path beyond => ?_,
    fun path => ⟨agrees.found path, fun reference found later => ?_⟩⟩
  · rw [agrees.finds, MemorySimulator.indexOf?_eq_some_iff distinct, MemorySimulator.paths,
      List.getElem?_map, Option.map_eq_some_iff]
  · refine MemorySimulator.refuses_of_path ?_
    rw [MemorySimulator.paths, List.getElem?_map, List.getElem?_eq_none beyond]
    nofun
  · intro reached
    have grows : MemorySimulator.Grows simulator reached := .run simulator later
    have position : simulator.indexOf? path = some reference := by
      rw [MemorySimulator.lookup] at found
      split at found
      · rename_i index position
        cases found
        exact position
      · cases found
    have still : reached.indexOf? path = some reference := grows.indexOf? distinct position
    have stands := (MemorySimulator.indexOf?_eq_some_iff (grows.distinct distinct)).1 still
    refine ⟨MemorySimulator.grants_of_indexOf? still, fun other different => ?_⟩
    refine MemorySimulator.refuses_of_path fun also => different ?_
    exact Option.some.inj (also.symm.trans stands)

end IndexedSimulator

end Cosimulation
