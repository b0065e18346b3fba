import Cosimulation.Proofs.Simulator.Memory
/-!
# What the replies say, told from the history

A simulator in memory keeps a table that the operations change.  Told without a table, the reply to
an operation depends on the settings before the session and on the operations before it: a path has
the value that was written to it last, unless a force stands, and a force stands until the next
release.  `reply` is that account, and `Agrees.apply` says that it is what applying operations to a
simulator in memory comes to.

A history lists the operations with the latest one first.
-/

namespace Cosimulation

set_option autoImplicit false

namespace Reference

/-! ## The account -/

/-- What is wrong with a value that is to be written, if anything is. -/
def defect? : SignalValue → Option String
  | .int _ => none
  | .bits digits =>
    if digits = "" then some "empty bit string"
    else (digits.toList.find? fun char => char ∉ ['0', '1', 'x', 'X', 'z', 'Z']).map fun char =>
      s!"invalid digit '{char}' in bit string"

/-- The value that a path was set to last before the session, if it was set at all. -/
def initial? (settings : List (String × SignalValue)) (path : String) : Option SignalValue :=
  (settings.reverse.find? fun setting => setting.1 = path).map Prod.snd

/-- The value that was written to a path last. -/
def lastWrite? (path : String) : List Operation → Option SignalValue
  | [] => none
  | .write target value :: past =>
    if target = path ∧ defect? value = none then some value else lastWrite? path past
  | _ :: past => lastWrite? path past

/-- The value that a path was forced to last, if it has not been released since. -/
def standingForce? (path : String) : List Operation → Option SignalValue
  | [] => none
  | .force target value :: past =>
    if target = path ∧ defect? value = none then some value else standingForce? path past
  | .release target :: past => if target = path then none else standingForce? path past
  | _ :: past => standingForce? path past

/-- The value that the design drives at a path. -/
def settled? (settings : List (String × SignalValue)) (past : List Operation) (path : String) :
    Option SignalValue :=
  (initial? settings path).map fun first => (lastWrite? path past).getD first

/-- The value that a reader sees at a path. -/
def visible? (settings : List (String × SignalValue)) (past : List Operation) (path : String) :
    Option SignalValue :=
  (settled? settings past path).map fun driven => (standingForce? path past).getD driven

/-- The time that has passed. -/
def clock : List Operation → UInt64
  | [] => 0
  | .advance ticks :: past => timeAfter (clock past) ticks
  | _ :: past => clock past

/-- The lines that were printed, first one first. -/
def printed : List Operation → List String
  | [] => []
  | .print line :: past => printed past ++ [line]
  | _ :: past => printed past

/-- The reply where there must be an object. -/
def present (path : String) : Option Reply → Status
  | none => .error "unknown_object" s!"Object not found: {path}"
  | some reply => .ok reply

/-- The reply to writing or forcing a value. -/
def assigned (settings : List (String × SignalValue)) (path : String) (value : SignalValue) :
    Status :=
  match defect? value with
  | some reason => .error "invalid_value" s!"Invalid value for {path}: {reason}"
  | none => present path ((initial? settings path).map fun _ => .ack)

/-- **The reply to an operation**, told from what was set before the session and what was asked for
in it. -/
def reply (settings : List (String × SignalValue)) (past : List Operation) : Operation → Status
  | .ping => .ok (.pong (clock past))
  | .lookup path => present path ((initial? settings path).map fun _ => .found path)
  | .read path => present path ((visible? settings past path).map (.value path))
  | .write path value => assigned settings path value
  | .force path value => assigned settings path value
  | .release path => present path ((settled? settings past path).map (.value path))
  | .time => .ok (.time (clock past))
  | .advance ticks => .ok (.time (timeAfter (clock past) ticks))
  | .print _ => .ok .ack
  | .finish => .ok .ack

/-- The response to a command. -/
def response (settings : List (String × SignalValue)) (past : List Operation) (command : Command) :
    Response :=
  ⟨command.requestId, reply settings past command.operation⟩

/-- The responses to a row of commands, up to the first that ends the run. -/
def answers (settings : List (String × SignalValue)) (past : List Operation) :
    List Command → List Response
  | [] => []
  | command :: rest =>
    response settings past command ::
      if command.operation = .finish then []
      else answers settings (command.operation :: past) rest

/-- The history behind a row of commands, up to the first that ends the run. -/
def history (past : List Operation) : List Command → List Operation
  | [] => past
  | command :: rest =>
    if command.operation = .finish then .finish :: past
    else history (command.operation :: past) rest

/-! ## The simulator -/

/-- The simulator in which signals are set before the session. -/
def launched (invocation : Invocation) (settings : List (String × SignalValue)) : MemorySimulator :=
  settings.foldl (fun simulator setting => simulator.setSignal setting.1 setting.2)
    (.launch invocation)

/-- The signal of a path, told from the history. -/
def signal? (settings : List (String × SignalValue)) (past : List Operation) (path : String) :
    Option Signal :=
  (settled? settings past path).map fun driven => ⟨path, driven, standingForce? path past⟩

/-- A simulator in memory that has come to where the history says. -/
structure Agrees (settings : List (String × SignalValue)) (past : List Operation)
    (simulator : MemorySimulator) : Prop where
  signals : ∀ path, simulator.signal? path = signal? settings past path
  time : simulator.time = clock past
  output : simulator.output = printed past
  finished : simulator.finished = decide (Operation.finish ∈ past)

theorem initial?_cons (setting : String × SignalValue) (settings : List (String × SignalValue))
    (path : String) :
    initial? (setting :: settings) path =
      (initial? settings path).or (if setting.1 = path then some setting.2 else none) := by
  unfold initial?
  rw [List.reverse_cons, List.find?_append, Option.map_or, List.find?_singleton]
  by_cases same : setting.1 = path <;> simp [same]

theorem signal?_foldl_setSignal (settings : List (String × SignalValue))
    (simulator : MemorySimulator) (path : String) :
    (settings.foldl (fun simulator setting => simulator.setSignal setting.1 setting.2)
      simulator).signal? path =
      ((initial? settings path).map fun value => ⟨path, value, none⟩).or (simulator.signal? path) := by
  induction settings generalizing simulator with
  | nil => rfl
  | cons setting settings ih =>
    rw [List.foldl_cons, ih, MemorySimulator.signal?_setSignal, initial?_cons, Option.map_or,
      Option.or_assoc]
    by_cases same : setting.1 = path
    · simp [same]
    · simp [same, Ne.symm same]

/-- Setting signals changes nothing but signals. -/
theorem foldl_setSignal_same (settings : List (String × SignalValue))
    (simulator : MemorySimulator) :
    let last := settings.foldl (fun simulator setting => simulator.setSignal setting.1 setting.2)
      simulator
    last.time = simulator.time ∧ last.output = simulator.output ∧
      last.finished = simulator.finished := by
  induction settings generalizing simulator with
  | nil => exact ⟨rfl, rfl, rfl⟩
  | cons setting settings ih =>
    have rest := ih (simulator.setSignal setting.1 setting.2)
    have first : (simulator.setSignal setting.1 setting.2).time = simulator.time ∧
        (simulator.setSignal setting.1 setting.2).output = simulator.output ∧
        (simulator.setSignal setting.1 setting.2).finished = simulator.finished := by
      unfold MemorySimulator.setSignal
      split <;> exact ⟨rfl, rfl, rfl⟩
    exact ⟨rest.1.trans first.1, rest.2.1.trans first.2.1, rest.2.2.trans first.2.2⟩

/-- The simulator agrees with the empty history when the session begins. -/
theorem agrees_launched (invocation : Invocation) (settings : List (String × SignalValue)) :
    Agrees settings [] (launched invocation settings) := by
  obtain ⟨time, output, finished⟩ := foldl_setSignal_same settings (.launch invocation)
  refine ⟨fun path => ?_, time, output, finished⟩
  rw [launched, signal?_foldl_setSignal]
  have empty : (MemorySimulator.launch invocation).signal? path = none := rfl
  rw [empty, Option.or_none, signal?, settled?, Option.map_map]
  rfl

/-! ## Operations agree with the account -/

/-- The check of a value finds its defect. -/
theorem validate_eq (value : SignalValue) (path : String) :
    value.validate path =
      match defect? value with
      | none => .ok ()
      | some reason => .error (.invalidValue path reason) := by
  cases value with
  | int => rfl
  | bits digits =>
    have foreign : (fun char => !isFourState char) =
        fun char => decide (char ∉ ['0', '1', 'x', 'X', 'z', 'Z']) := by
      funext char
      simp [isFourState, Bool.and_assoc]
    simp only [SignalValue.validate, defect?, foreign]
    by_cases empty : digits = ""
    · rw [if_pos empty, if_pos (by simpa using empty)]
    · rw [if_neg empty, if_neg (by simpa using empty)]
      cases digits.toList.find? _ <;> rfl

variable {settings : List (String × SignalValue)} {past : List Operation}
  {simulator : MemorySimulator}

/-- An operation that only looks leaves the simulator in agreement. -/
theorem Agrees.look (agrees : Agrees settings past simulator) (operation : Operation)
    (signals : ∀ path, signal? settings (operation :: past) path = signal? settings past path)
    (time : clock (operation :: past) = clock past)
    (output : printed (operation :: past) = printed past) (goesOn : operation ≠ .finish) :
    Agrees settings (operation :: past) simulator where
  signals path := (agrees.signals path).trans (signals path).symm
  time := agrees.time.trans time.symm
  output := agrees.output.trans output.symm
  finished := by simp [agrees.finished, Ne.symm goesOn]

/-- A change of one signal leaves the simulator in agreement. -/
theorem Agrees.amend (agrees : Agrees settings past simulator) {operation : Operation}
    {path : String} {change : Signal → Signal}
    (keeps : ∀ signal, (change signal).path = signal.path)
    (here : signal? settings (operation :: past) path = (signal? settings past path).map change)
    (elsewhere : ∀ other, other ≠ path →
      signal? settings (operation :: past) other = signal? settings past other)
    (time : clock (operation :: past) = clock past)
    (output : printed (operation :: past) = printed past) (goesOn : operation ≠ .finish) :
    Agrees settings (operation :: past) (simulator.amend path change) where
  signals other := by
    rw [MemorySimulator.signal?_amend keeps]
    split
    · rename_i same
      rw [same, here, agrees.signals]
    · rename_i different
      rw [elsewhere other different, agrees.signals]
  time := by rw [MemorySimulator.amend_time, agrees.time, time]
  output := by rw [MemorySimulator.amend_output, agrees.output, output]
  finished := by simp [agrees.finished, Ne.symm goesOn]

/-- The operation that writes a value in a mode. -/
def assignment (path : String) (value : SignalValue) : WriteMode → Operation
  | .deposit => .write path value
  | .force => .force path value

/-- An assignment of a value with a defect changes no signal. -/
theorem signal?_assignment_of_defect {value : SignalValue} {reason : String}
    (defect : defect? value = some reason) (path : String) (mode : WriteMode) (other : String) :
    signal? settings (assignment path value mode :: past) other = signal? settings past other := by
  cases mode <;> simp [signal?, settled?, assignment, lastWrite?, standingForce?, defect]

/-- An assignment of a proper value changes the signal of its path. -/
theorem signal?_assignment {value : SignalValue} (proper : defect? value = none) (path : String)
    (mode : WriteMode) (other : String) :
    signal? settings (assignment path value mode :: past) other =
      if other = path then (signal? settings past path).map (·.write value mode)
      else signal? settings past other := by
  by_cases same : other = path
  · subst same
    cases mode <;>
      simp [signal?, settled?, assignment, lastWrite?, standingForce?, proper, Signal.write,
        Function.comp_def]
  · cases mode <;>
      simp [signal?, settled?, assignment, lastWrite?, standingForce?, same, Ne.symm same]

/-- What came of an operation is what the account says. -/
def Accounted (settings : List (String × SignalValue)) (past : List Operation)
    (before : MemorySimulator) (operation : Operation) :
    Except ApplyError Applied × MemorySimulator → Prop
  | (.ok (.reply result), after) =>
    reply settings past operation = .ok result ∧ operation ≠ .finish ∧
      Agrees settings (operation :: past) after
  | (.ok (.advance ticks), after) => operation = .advance ticks ∧ after = before
  | (.ok .finish, after) => operation = .finish ∧ after = before
  | (.error error, after) =>
    reply settings past operation = .error error.kind error.message ∧ operation ≠ .finish ∧
      Agrees settings (operation :: past) after

/-- Writing and forcing agree with the account. -/
theorem Agrees.assign (agrees : Agrees settings past simulator) (path : String)
    (value : SignalValue) (mode : WriteMode) :
    Accounted settings past simulator (assignment path value mode)
      (Operation.assign path value mode simulator) := by
  have time : clock (assignment path value mode :: past) = clock past := by cases mode <;> rfl
  have output : printed (assignment path value mode :: past) = printed past := by
    cases mode <;> rfl
  have goesOn : assignment path value mode ≠ .finish := by cases mode <;> simp [assignment]
  have replied : reply settings past (assignment path value mode) =
      assigned settings path value := by cases mode <;> rfl
  rw [Operation.assign_memory, validate_eq, agrees.signals]
  unfold assigned at replied
  cases defect : defect? value with
  | some reason =>
    rw [defect] at replied
    exact ⟨replied, goesOn,
      agrees.look _ (signal?_assignment_of_defect defect path mode) time output goesOn⟩
  | none =>
    have changes (other : String) : signal? settings (assignment path value mode :: past) other = _ :=
      signal?_assignment defect path mode other
    rw [defect] at replied
    dsimp only
    cases found : signal? settings past path with
    | none =>
      have missing : initial? settings path = none := by simpa [signal?, settled?] using found
      rw [missing] at replied
      refine ⟨replied, goesOn, agrees.look _ (fun other => ?_) time output goesOn⟩
      rw [changes]
      split
      · rename_i same
        rw [same, found, Option.map_none]
      · rfl
    | some signal =>
      obtain ⟨driven, settled, _⟩ := Option.map_eq_some_iff.1 found
      obtain ⟨first, present, _⟩ := Option.map_eq_some_iff.1 settled
      rw [present] at replied
      refine ⟨replied, goesOn, agrees.amend (fun _ => by cases mode <;> rfl) ?_
        (fun other different => ?_) time output goesOn⟩
      · rw [changes, if_pos rfl]
      · rw [changes, if_neg different]

/-- Releasing changes the signal of its path. -/
theorem signal?_release (path other : String) :
    signal? settings (.release path :: past) other =
      if other = path then (signal? settings past path).map Signal.release
      else signal? settings past other := by
  by_cases same : other = path
  · subst same
    simp [signal?, settled?, lastWrite?, standingForce?, Signal.release, Function.comp_def]
  · simp [signal?, settled?, lastWrite?, standingForce?, same, Ne.symm same]

/-- Releasing agrees with the account. -/
theorem Agrees.release (agrees : Agrees settings past simulator) (path : String) :
    Accounted settings past simulator (.release path)
      ((Operation.release path).apply simulator) := by
  have changes (other : String) : signal? settings (.release path :: past) other = _ :=
    signal?_release path other
  rw [Operation.apply_release, agrees.signals]
  cases found : signal? settings past path with
  | none =>
    have missing : settled? settings past path = none := by simpa [signal?] using found
    refine ⟨by rw [reply, missing]; rfl, by simp, agrees.look _ (fun other => ?_) rfl rfl (by simp)⟩
    rw [changes]
    split
    · rename_i same
      rw [same, found, Option.map_none]
    · rfl
  | some signal =>
    obtain ⟨value, driven, rfl⟩ := Option.map_eq_some_iff.1 found
    refine ⟨by rw [reply, driven]; rfl, by simp, agrees.amend (fun _ => rfl) ?_
      (fun other different => ?_) rfl rfl (by simp)⟩
    · rw [changes, if_pos rfl]
    · rw [changes, if_neg different]

theorem timeAfter_zero (time : UInt64) : timeAfter time 0 = time := by
  simp [timeAfter, time.toNat_lt]

/-- When the time of an advance has passed, the simulator is in agreement. -/
theorem Agrees.advance (agrees : Agrees settings past simulator) (ticks : UInt64) :
    Agrees settings (.advance ticks :: past) (simulator.advance ticks) where
  signals := agrees.signals
  time := congrArg (timeAfter · ticks) agrees.time
  output := agrees.output
  finished := agrees.finished.trans (by simp)

/-- When the run has been ended, the simulator is in agreement. -/
theorem Agrees.finish (agrees : Agrees settings past simulator) :
    Agrees settings (.finish :: past) simulator.finish where
  signals := agrees.signals
  time := agrees.time
  output := agrees.output
  finished := by simp [MemorySimulator.finish]

/-- **Applying an operation agrees with the account.** -/
theorem Agrees.apply (agrees : Agrees settings past simulator) (operation : Operation) :
    Accounted settings past simulator operation (operation.apply simulator) := by
  cases operation with
  | ping =>
    refine ⟨?_, by simp, agrees.look _ (fun _ => rfl) rfl rfl (by simp)⟩
    rw [reply, ← agrees.time]
  | lookup path =>
    have after := agrees.look (.lookup path) (fun _ => rfl) rfl rfl (by simp)
    rw [Operation.apply_lookup, agrees.signals, signal?, settled?]
    cases first : initial? settings path with
    | none => exact ⟨by rw [reply, first]; rfl, by simp, after⟩
    | some => exact ⟨by rw [reply, first]; rfl, by simp, after⟩
  | read path =>
    have after := agrees.look (.read path) (fun _ => rfl) rfl rfl (by simp)
    rw [Operation.apply_read, agrees.signals, signal?]
    cases driven : settled? settings past path with
    | none => exact ⟨by rw [reply, visible?, driven]; rfl, by simp, after⟩
    | some => exact ⟨by rw [reply, visible?, driven]; rfl, by simp, after⟩
  | write path value => exact agrees.assign path value .deposit
  | force path value => exact agrees.assign path value .force
  | release path => exact agrees.release path
  | time =>
    refine ⟨?_, by simp, agrees.look _ (fun _ => rfl) rfl rfl (by simp)⟩
    rw [reply, ← agrees.time]
  | advance ticks =>
    rw [Operation.apply]
    split
    · rename_i zero
      subst zero
      have still : clock (.advance 0 :: past) = clock past := timeAfter_zero _
      refine ⟨?_, by simp, agrees.look _ (fun _ => rfl) still rfl (by simp)⟩
      rw [reply, timeAfter_zero, ← agrees.time]
    · exact ⟨rfl, rfl⟩
  | print line =>
    refine ⟨rfl, by simp, agrees.signals, agrees.time, ?_, ?_⟩
    · exact congrArg (· ++ [line]) agrees.output
    · exact agrees.finished.trans (by simp)
  | finish => exact ⟨rfl, rfl⟩

end Reference

end Cosimulation
