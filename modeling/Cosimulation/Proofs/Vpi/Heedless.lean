import Cosimulation.Proofs.Vpi.Process
/-!
# Calls that do not look at the record

A simulator keeps a record of the calls made to it, and it knows what it will call while the run is
being ended.  None of its answers depends on either.  All that a call does to the record is to add to
it, always the same, and only ending the run looks at what is to be called meanwhile (`Heedless`).

That is shown for each call that the bridge makes (`heedless_lookup` to `heedless_register`), by
putting it together from calls that are heedless already (`Heedless.bind`).
-/

namespace Cosimulation

set_option autoImplicit false

namespace VpiHost

/-- The simulator with another record. -/
def withCalls (host : VpiHost) (calls : List VpiCall) : VpiHost := { host with calls }

/-- The simulator with other calls into the library while the run is being ended. -/
def arm (host : VpiHost) (pending : List Reentry) : VpiHost := { host with duringFinish := pending }

/-- Skipping calls enters their returns in the record and does nothing else. -/
theorem skip_eq (host : VpiHost) (reentries : List Reentry) :
    host.skip reentries =
      host.withCalls (host.calls ++ List.replicate reentries.length (.reentered 0)) := by
  induction reentries generalizing host with
  | nil => simp [skip, withCalls]
  | cons reentry reentries ih =>
    show (host.note (.reentered 0)).skip reentries = _
    rw [ih]
    simp [withCalls, note, List.replicate_succ]

end VpiHost

/-- A call that does not end the run and looks neither at the record nor at what is called while the
run is being ended. -/
def Heedless {α : Type} (call : VpiSimulator → α × VpiSimulator) : Prop :=
  ∀ handles host, ∃ answer found next added, VpiCall.ending ∉ added ∧ ∀ pending calls,
    call ⟨handles, (VpiHost.arm host pending).withCalls calls⟩ =
      (answer, ⟨found, (VpiHost.arm next pending).withCalls (calls ++ added)⟩)

namespace Heedless

variable {α β : Type}

/-- A call that asks nothing. -/
theorem pure (answer : α) : Heedless fun simulator => (answer, simulator) := fun handles host =>
  ⟨answer, handles, host, [], List.not_mem_nil, fun pending calls => by rw [List.append_nil]⟩

/-- One heedless call after the other. -/
theorem bind {first : VpiSimulator → α × VpiSimulator} {rest : α → VpiSimulator → β × VpiSimulator}
    (heedless : Heedless first) (goesOn : ∀ answer, Heedless (rest answer)) :
    Heedless fun simulator => rest (first simulator).1 (first simulator).2 := by
  intro handles host
  obtain ⟨answer, found, next, added, passing, same⟩ := heedless handles host
  obtain ⟨last, others, final, more, also, goes⟩ := goesOn answer found next
  refine ⟨last, others, final, added ++ more, ?_, fun pending calls => ?_⟩
  · exact fun member => (List.mem_append.1 member).elim passing also
  · dsimp only
    rw [same, goes, List.append_assoc]

/-- A heedless call that can fail, and another one after it unless it does. -/
theorem attempt {first : VpiSimulator → Except ApplyError α × VpiSimulator}
    {rest : α → VpiSimulator → Except ApplyError β × VpiSimulator} (heedless : Heedless first)
    (goesOn : ∀ answer, Heedless (rest answer)) :
    Heedless fun simulator => match first simulator with
      | (.error error, simulator) => (.error error, simulator)
      | (.ok answer, simulator) => rest answer simulator := by
  intro handles host
  obtain ⟨result, found, next, added, passing, same⟩ := heedless handles host
  cases result with
  | error error =>
    refine ⟨.error error, found, next, added, passing, fun pending calls => ?_⟩
    simp only [same]
  | ok answer =>
    obtain ⟨last, others, final, more, also, goes⟩ := goesOn answer found next
    refine ⟨last, others, final, added ++ more, ?_, fun pending calls => ?_⟩
    · exact fun member => (List.mem_append.1 member).elim passing also
    · simp only [same, goes, List.append_assoc]

theorem of_eq {call other : VpiSimulator → α × VpiSimulator} (heedless : Heedless other)
    (same : ∀ simulator, call simulator = other simulator) : Heedless call :=
  (funext same : call = other) ▸ heedless

/-- What a heedless call adds to the record does not end the run. -/
theorem adds {call : VpiSimulator → α × VpiSimulator} (heedless : Heedless call)
    (simulator : VpiSimulator) : ∃ added, VpiCall.ending ∉ added ∧
    (call simulator).2.host.calls = simulator.host.calls ++ added := by
  obtain ⟨answer, found, next, added, passing, same⟩ := heedless simulator.handles simulator.host
  have goes : call simulator = (answer, ⟨found, (next.arm simulator.host.duringFinish).withCalls
      (simulator.host.calls ++ added)⟩) := same simulator.host.duringFinish simulator.host.calls
  exact ⟨added, passing, by rw [goes]; rfl⟩

end Heedless

namespace VpiSimulator

/-! ## Single calls -/

/-- A call of the host, given what it adds to the record. -/
theorem heedless_call {α : Type} {call : VpiHost → α × VpiHost} (added : VpiHost → List VpiCall)
    (passing : ∀ host, VpiCall.ending ∉ added host)
    (same : ∀ (host : VpiHost) (pending : List Reentry) (calls : List VpiCall),
      call ((host.arm pending).withCalls calls) =
        ((call host).1, ((call host).2.arm pending).withCalls (calls ++ added host))) :
    Heedless (·.call call) := by
  intro handles host
  refine ⟨(call host).1, handles, (call host).2, added host, passing host, fun pending calls => ?_⟩
  simp only [VpiSimulator.call, same]

theorem heedless_handleByName (path : String) : Heedless (·.call (·.handleByName path)) :=
  heedless_call (fun _ => [.handleByName path true]) (by simp) fun _ _ _ => rfl

theorem heedless_getValue (handle : Handle) : Heedless (·.call (·.getValue handle)) :=
  heedless_call (fun _ => [.getValue handle Vpi.binaryString]) (by simp) fun _ _ _ => rfl

theorem heedless_checkError : Heedless (·.call VpiHost.checkError) :=
  heedless_call (fun host => [.checkError true (host.errors.head?.getD 0)]) (by simp)
    fun _ _ _ => rfl

theorem heedless_putRelease (handle : Handle) : Heedless (·.call (·.putRelease handle)) := by
  refine heedless_call (fun _ => [.putValue handle .blank none Vpi.releaseFlag]) (by simp)
    fun host pending calls => ?_
  have changed (host : VpiHost) (call : VpiCall) : ((host.arm pending).withCalls calls).note call =
      ((host.note call).arm pending).withCalls (calls ++ [call]) := rfl
  by_cases top : handle = 0
  · subst top
    rfl
  · simp only [VpiHost.putRelease, VpiHost.changeObject, VpiHost.object?, top, if_false, changed]
    cases found : (host.objects.modify (handle - 1) fun object =>
      { object with forced := none })[handle - 1]? with
    | none => simp [VpiHost.note, VpiHost.arm, VpiHost.withCalls, found]
    | some object => simp [VpiHost.note, VpiHost.arm, VpiHost.withCalls, found]

theorem heedless_getTime : Heedless (·.call VpiHost.getTime) :=
  heedless_call (fun _ => [.getTime true Vpi.simulationTime]) (by simp) fun _ _ _ => rfl

/-- A call of the host that has nothing to answer. -/
theorem heedless_act (act : VpiHost → VpiHost) (added : VpiHost → List VpiCall)
    (passing : ∀ host, VpiCall.ending ∉ added host)
    (same : ∀ (host : VpiHost) (pending : List Reentry) (calls : List VpiCall),
      act ((host.arm pending).withCalls calls) =
        ((act host).arm pending).withCalls (calls ++ added host)) :
    Heedless fun simulator => ((), { simulator with host := act simulator.host }) := by
  intro handles host
  refine ⟨(), handles, act host, added host, passing host, fun pending calls => ?_⟩
  simp only [same]

theorem heedless_putDigits (handle : Handle) (digits : List UInt8) (flag : Nat) :
    Heedless fun simulator =>
      ((), { simulator with host := simulator.host.putDigits handle digits flag }) := by
  refine heedless_act (·.putDigits handle digits flag)
    (fun _ => [.putValue handle ⟨Vpi.binaryString, some digits⟩ (some (.ofTicks 0)) flag]) (by simp)
    fun host pending calls => ?_
  by_cases top : handle = 0
  · subst top
    rfl
  · simp only [VpiHost.putDigits, VpiHost.changeObject, top, if_false]
    rfl

theorem heedless_print (line : String) : Heedless fun simulator => ((), simulator.print line) := by
  let printing (host : VpiHost) : VpiHost :=
    ({ host.printf (VpiHost.printed line) with duringPrint := [] } : VpiHost).skip host.duringPrint
  refine heedless_act printing (fun host => .printf "%s" (VpiHost.printed line) ::
    List.replicate host.duringPrint.length (.reentered 0)) ?_ fun host pending calls => ?_
  · intro host member
    simp at member
  · simp only [printing, VpiHost.skip_eq]
    simp [VpiHost.withCalls, VpiHost.arm, VpiHost.printf, VpiHost.note]

/-! ## The calls of the bridge -/

theorem heedless_check (operation path : String) : Heedless (·.check operation path) := by
  refine (heedless_checkError.bind fun level => Heedless.pure
    (if level = 0 then .ok () else
      .error (.rejected operation path s!"simulator reported an error (level {level})"))).of_eq ?_
  intro simulator
  by_cases fine : simulator.host.checkError.1 = 0 <;> simp [check, call, fine]

theorem heedless_lookup (path : String) : Heedless (·.lookup path) := by
  intro handles host
  cases known : handles.lookup path with
  | some handle =>
    obtain ⟨answer, found, next, added, passing, same⟩ :=
      Heedless.pure (Except.ok handle : Except ApplyError ObjectReference) handles host
    refine ⟨answer, found, next, added, passing, fun pending calls => ?_⟩
    simp only [lookup, known, same]
  | none =>
    by_cases passable : VpiHost.isPassable path
    · obtain ⟨answer, found, next, added, passing, same⟩ := heedless_handleByName path handles host
      cases answer with
      | none =>
        refine ⟨.error (.unknownObject path), found, next, added, passing, fun pending calls => ?_⟩
        simp only [lookup, known, passable, if_true, same]
      | some handle =>
        refine ⟨.ok handle, (path, handle) :: found, next, added, passing, fun pending calls => ?_⟩
        simp only [lookup, known, passable, if_true, same]
    · obtain ⟨answer, found, next, added, passing, same⟩ := Heedless.pure
        (Except.error (.unknownObject path) : Except ApplyError ObjectReference) handles host
      refine ⟨answer, found, next, added, passing, fun pending calls => ?_⟩
      simpa [lookup, known, passable] using same pending calls

theorem heedless_read (handle : Handle) (path : String) : Heedless (·.read handle path) := by
  let settled (value : VpiValue) (simulator : VpiSimulator) :
      Except ApplyError SignalValue × VpiSimulator :=
    (value.digits?.elim (.error (.rejected "read" path "object has no binary value"))
      fun digits => .ok (.bits digits), simulator)
  refine ((heedless_getValue handle).bind fun value => (heedless_check "read" path).attempt
    fun _ => (Heedless.pure _ : Heedless (settled value))).of_eq fun simulator => ?_
  simp only [read]
  generalize simulator.call (·.getValue handle) = asked
  obtain ⟨value, simulator⟩ := asked
  generalize simulator.check "read" path = checked
  obtain ⟨result, simulator⟩ := checked
  cases result with
  | error error => rfl
  | ok => cases value.digits? <;> rfl

theorem heedless_put (handle : Handle) (path digits : String) (flag : Nat) (operation : String) :
    Heedless (·.put handle path digits flag operation) := by
  by_cases passable : VpiHost.isPassable digits
  · refine ((heedless_putDigits handle (Utf8.encode digits.toList) flag).bind fun _ =>
      heedless_check operation path).of_eq fun simulator => ?_
    simp only [put, passable, if_true]
  · refine (Heedless.pure (.error (.invalidValue path "bit string contains a NUL byte"))).of_eq
      fun simulator => ?_
    simp [put, passable]

theorem heedless_write (handle : Handle) (path : String) (value : SignalValue) (mode : WriteMode) :
    Heedless (·.write handle path value mode) := by
  cases mode with
  | deposit => exact heedless_put handle path (value.toBits 1) Vpi.noDelay "write"
  | force => exact heedless_put handle path (value.toBits 1) Vpi.forceFlag "force"

theorem heedless_release (handle : Handle) (path : String) :
    Heedless (·.release handle path) := by
  let settles (value : VpiValue) : VpiSimulator → Except ApplyError SignalValue × VpiSimulator :=
    value.digits?.elim (·.read handle path) fun digits simulator => (.ok (.bits digits), simulator)
  have settled (value : VpiValue) : Heedless (settles value) := by
    simp only [settles]
    cases value.digits? with
    | some digits => exact .pure _
    | none => exact heedless_read handle path
  refine ((heedless_putRelease handle).bind fun value =>
    (heedless_check "release" path).attempt fun _ => settled value).of_eq fun simulator => ?_
  simp only [release]
  generalize simulator.call (·.putRelease handle) = asked
  obtain ⟨value, simulator⟩ := asked
  generalize simulator.check "release" path = checked
  obtain ⟨result, simulator⟩ := checked
  cases result with
  | error error => rfl
  | ok =>
    simp only [settles]
    cases value.digits? <;> rfl

theorem heedless_time : Heedless (·.time) :=
  heedless_getTime.bind fun now => .pure now.ticks

theorem heedless_callBack (reason : Nat) (delay : Option VpiTime) (entry : EntryPoint) :
    Heedless (·.call (·.callBack reason delay entry)) := by
  let asked := VpiCall.registerCallback reason delay entry.code
  refine heedless_call (fun host => if reason ∈ host.refused then [asked] else
    [asked, .freeObject (1001 + host.callbacks.length)]) (fun host => ?_)
    fun host pending calls => ?_
  · split <;> simp [asked]
  · by_cases refused : reason ∈ host.refused <;>
      simp [VpiHost.callBack, VpiHost.registerCallback, VpiHost.freeObject, VpiHost.note,
        VpiHost.arm, VpiHost.withCalls, refused, asked]

theorem heedless_declareTask (name : String) : Heedless (·.call (·.declareTask name)) := by
  refine heedless_call (fun _ => if VpiHost.isPassable name then
    [.registerTask Vpi.systemTask 0 name] else []) (fun host => ?_) fun host pending calls => ?_
  · split <;> simp
  · by_cases passable : VpiHost.isPassable name <;> by_cases refused : host.refusesTasks <;>
      simp [VpiHost.declareTask, VpiHost.registerTask, VpiHost.note, VpiHost.arm, VpiHost.withCalls,
        passable, refused]

theorem heedless_register (registration : Registration) : Heedless (·.register registration) := by
  have scheduled : Heedless (·.call (·.schedule registration)) := by
    obtain ⟨trigger, entry⟩ := registration
    cases trigger with
    | startOfSimulation => exact heedless_callBack Vpi.startOfSimulation none entry
    | endOfSimulation => exact heedless_callBack Vpi.endOfSimulation none entry
    | afterDelay ticks => exact heedless_callBack Vpi.afterDelay (some (.ofTicks ticks)) entry
    | systemTask name => exact heedless_declareTask name
  refine (scheduled.bind fun accepted => Heedless.pure (if accepted then .ok () else
    .error (.registrationRejected registration.trigger.display))).of_eq fun simulator => ?_
  simp only [register]
  generalize simulator.call (·.schedule registration) = asked
  obtain ⟨accepted, simulator⟩ := asked
  cases accepted <;> rfl

/-! ## The record of a bridge's calls -/

/-- The record goes on without the run being ended. -/
def Adds (first second : VpiSimulator) : Prop :=
  ∃ added, VpiCall.ending ∉ added ∧ second.host.calls = first.host.calls ++ added

theorem Adds.refl (simulator : VpiSimulator) : Adds simulator simulator :=
  ⟨[], List.not_mem_nil, (List.append_nil _).symm⟩

theorem Adds.trans {first second third : VpiSimulator} (adds : Adds first second)
    (also : Adds second third) : Adds first third := by
  obtain ⟨added, passing, same⟩ := adds
  obtain ⟨more, quiet, goesOn⟩ := also
  refine ⟨added ++ more, fun member => (List.mem_append.1 member).elim passing quiet, ?_⟩
  rw [goesOn, same, List.append_assoc]

/-- **No call of the bridge but the one that does so ends the run.** -/
theorem confines_adds : Simulator.Confines Adds where
  refl := Adds.refl
  trans := Adds.trans
  lookup simulator path := (heedless_lookup path).adds simulator
  read simulator handle path := (heedless_read handle path).adds simulator
  write simulator handle path value mode := (heedless_write handle path value mode).adds simulator
  release simulator handle path := (heedless_release handle path).adds simulator
  time simulator := heedless_time.adds simulator
  print simulator line := (heedless_print line).adds simulator

end VpiSimulator

end Cosimulation
