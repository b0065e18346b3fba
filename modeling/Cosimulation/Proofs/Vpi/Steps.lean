import Cosimulation.Proofs.Vpi.Heedless
/-!
# Steps of a simulator behind the interface

A bridge uses its simulator one step at a time (`VpiSimulator.Step`), and in between the simulator may
come to answer differently.  Some of the calls that this makes to the host are followed here: those
that look for an object, that assign digits to one, and that register a callback or let go of its
handle.  They make up the trace of the host.

Most steps leave the trace and the handles alone, except that writing assigns digits (`Makes`,
`after_cases`).  Looking up a path asks for it unless its handle is known (`looks_lookup`), and
registering makes one request, if it can be handed over (`takes_register`).
-/

namespace Cosimulation

set_option autoImplicit false

/-- Whether a call assigns a value, at once or as a force. -/
def VpiCall.isAssignment : VpiCall → Bool
  | .putValue _ _ _ flag => flag = Vpi.noDelay || flag = Vpi.forceFlag
  | _ => false

/-- Whether a call looks for an object, assigns a value to one, or has to do with a registration. -/
def VpiCall.isTraced : VpiCall → Bool
  | .handleByName .. | .registerCallback .. | .registerTask .. | .freeObject _ => true
  | call => call.isAssignment

/-- The call that assigns digits to an object. -/
def VpiCall.assignment (handle : Handle) (digits : String) (flag : Nat) : VpiCall :=
  .putValue handle ⟨Vpi.binaryString, some (Utf8.encode digits.toList)⟩ (some (.ofTicks 0)) flag

namespace VpiHost

/-- The calls made so far that look for an object, assign digits to one, or have to do with a
registration. -/
def trace (host : VpiHost) : List VpiCall := host.calls.filter VpiCall.isTraced

/-- The paths of the objects, by position. -/
def paths (host : VpiHost) : List String := host.objects.map VpiObject.path

/-- The host that has accepted a callback, when the handle that it gave is let go of. -/
def accept (host : VpiHost) (reason : Nat) (delay : Option VpiTime) (entry : EntryPoint) : VpiHost :=
  { host.note (.registerCallback reason delay entry.code) with
    callbacks := host.callbacks ++ [entry.code] }.freeObject (1001 + host.callbacks.length)

/-- Changing an object changes nothing but the objects, and not their paths if it leaves its path
alone. -/
theorem changeObject_eq (host : VpiHost) (handle : Handle) {change : VpiObject → VpiObject}
    (keeps : ∀ object, (change object).path = object.path) :
    ∃ objects, host.changeObject handle change = { host with objects } ∧
      objects.map VpiObject.path = host.paths := by
  unfold changeObject
  split
  · exact ⟨host.objects, rfl, rfl⟩
  · refine ⟨_, rfl, List.ext_getElem? fun position => ?_⟩
    rw [paths, List.getElem?_map, List.getElem?_modify, List.getElem?_map]
    cases host.objects[position]? with
    | none => rfl
    | some object => split <;> simp [keeps]

end VpiHost

/-- The reason and the delay of a callback.  A system task is not a callback. -/
def Trigger.callback? : Trigger → Option (Nat × Option UInt64)
  | .startOfSimulation => some (Vpi.startOfSimulation, none)
  | .endOfSimulation => some (Vpi.endOfSimulation, none)
  | .afterDelay ticks => some (Vpi.afterDelay, some ticks)
  | .systemTask _ => none

namespace WriteMode

/-- How the interface is told of a way of writing. -/
def flag : WriteMode → Nat
  | .deposit => Vpi.noDelay
  | .force => Vpi.forceFlag

theorem isTraced_assignment (mode : WriteMode) (handle : Handle) (digits : String) :
    (VpiCall.assignment handle digits mode.flag).isTraced = true := by
  cases mode <;> rfl

end WriteMode

namespace VpiSimulator

/-! ## What a call of the bridge makes -/

/-- The handles, the paths of the objects and the accepted callbacks stay as they are, and the trace
goes on with some calls. -/
structure Makes (before : VpiSimulator) (calls : List VpiCall) (after : VpiSimulator) : Prop where
  handles : after.handles = before.handles
  paths : after.host.paths = before.host.paths
  callbacks : after.host.callbacks = before.host.callbacks
  trace : after.host.trace = before.host.trace ++ calls

namespace Makes

variable {first second third : VpiSimulator} {calls more : List VpiCall}

theorem refl (simulator : VpiSimulator) : Makes simulator [] simulator :=
  ⟨rfl, rfl, rfl, (List.append_nil _).symm⟩

theorem trans (makes : Makes first calls second) (also : Makes second more third) :
    Makes first (calls ++ more) third where
  handles := also.handles.trans makes.handles
  paths := also.paths.trans makes.paths
  callbacks := also.callbacks.trans makes.callbacks
  trace := by rw [also.trace, makes.trace, List.append_assoc]

/-- Going on without traced calls. -/
theorem then_nothing (makes : Makes first calls second) (also : Makes second [] third) :
    Makes first calls third :=
  List.append_nil calls ▸ makes.trans also

/-- One more call of the host. -/
theorem of_note {simulator : VpiSimulator} {host : VpiHost} (call : VpiCall)
    (paths : host.paths = simulator.host.paths)
    (callbacks : host.callbacks = simulator.host.callbacks)
    (calls : host.calls = simulator.host.calls ++ [call]) :
    Makes simulator ([call].filter VpiCall.isTraced) { simulator with host } where
  handles := rfl
  paths := paths
  callbacks := callbacks
  trace := by rw [VpiHost.trace, calls, List.filter_append, VpiHost.trace]

theorem changeObject (simulator : VpiSimulator) (handle : Handle) {change : VpiObject → VpiObject}
    (keeps : ∀ object, (change object).path = object.path) :
    Makes simulator []
      { simulator with host := simulator.host.changeObject handle change } := by
  obtain ⟨objects, same, paths⟩ := simulator.host.changeObject_eq handle keeps
  rw [same]
  exact ⟨rfl, paths, rfl, (List.append_nil _).symm⟩

theorem skip (simulator : VpiSimulator) (reentries : List Reentry) :
    Makes simulator [] { simulator with host := simulator.host.skip reentries } := by
  have untraced : (List.replicate reentries.length (VpiCall.reentered 0)).filter
      VpiCall.isTraced = [] := by
    simp [VpiCall.isTraced, VpiCall.isAssignment]
  rw [VpiHost.skip_eq]
  exact ⟨rfl, rfl, rfl, (List.filter_append ..).trans (congrArg _ untraced)⟩

/-- What is read off traced calls goes on with what is read off the calls made. -/
theorem filterMap_calls {α : Type} {watch : VpiCall → Option α}
    (traced : ∀ call, call.isTraced = false → watch call = none)
    (makes : Makes first calls second) :
    second.host.calls.filterMap watch =
      first.host.calls.filterMap watch ++ calls.filterMap watch := by
  have seen (host : VpiHost) : host.trace.filterMap watch = host.calls.filterMap watch := by
    rw [VpiHost.trace, List.filterMap_filter]
    refine congrArg (List.filterMap · host.calls) (funext fun call => ?_)
    cases untraced : call.isTraced with
    | true => rfl
    | false => exact (traced call untraced).symm
  rw [← seen, makes.trace, List.filterMap_append, seen]

end Makes

variable (simulator : VpiSimulator)

theorem makes_check (operation path : String) :
    Makes simulator [] (simulator.check operation path).2 := by
  have checked : Makes simulator [] { simulator with host := simulator.host.checkError.2 } :=
    .of_note (.checkError true simulator.host.checkError.1) rfl rfl rfl
  unfold check
  dsimp only [call]
  split <;> exact checked

theorem makes_read (handle : Handle) (path : String) :
    Makes simulator [] (simulator.read handle path).2 := by
  have asked : Makes simulator [] { simulator with host := (simulator.host.getValue handle).2 } :=
    .of_note (.getValue handle Vpi.binaryString) rfl rfl rfl
  have checked := asked.then_nothing (makes_check _ "read" path)
  unfold read
  dsimp only [call]
  split
  · rename_i found
    rwa [found] at checked
  · rename_i found
    rw [found] at checked
    split <;> exact checked

/-- Assigning digits makes one traced call, if the digits can be handed over. -/
theorem makes_write (handle : Handle) (path : String) (value : SignalValue) (mode : WriteMode) :
    Makes simulator
      (if VpiHost.isPassable (value.toBits 1) then
        [.assignment handle (value.toBits 1) mode.flag] else [])
      (simulator.write handle path value mode).2 := by
  let digits := value.toBits 1
  let put := VpiCall.assignment handle digits mode.flag
  have noted : Makes simulator [put] { simulator with host := simulator.host.note put } := by
    have traced : [put].filter VpiCall.isTraced = [put] :=
      List.filter_eq_self.2 fun call member => List.mem_singleton.1 member ▸
        mode.isTraced_assignment handle digits
    exact traced ▸ .of_note put rfl rfl rfl
  have assigned : Makes simulator [put]
      { simulator with
        host := simulator.host.putDigits handle (Utf8.encode digits.toList) mode.flag } :=
    noted.then_nothing (.changeObject _ handle fun object => by split <;> rfl)
  have puts (operation : String) : Makes simulator
      (if VpiHost.isPassable digits then [put] else [])
      (simulator.put handle path digits mode.flag operation).2 := by
    unfold VpiSimulator.put
    split
    · exact assigned.then_nothing (makes_check _ operation path)
    · exact .refl simulator
  cases mode with
  | deposit => exact puts "write"
  | force => exact puts "force"

theorem makes_release (handle : Handle) (path : String) :
    Makes simulator [] (simulator.release handle path).2 := by
  have noted : Makes simulator [] { simulator with
      host := simulator.host.note (.putValue handle .blank none Vpi.releaseFlag) } :=
    .of_note (.putValue handle .blank none Vpi.releaseFlag) rfl rfl rfl
  have asked : Makes simulator [] { simulator with host := (simulator.host.putRelease handle).2 } := by
    have changed := noted.then_nothing (.changeObject _ handle
      (fun _ => rfl : ∀ object : VpiObject, { object with forced := none }.path = object.path))
    unfold VpiHost.putRelease
    dsimp only
    split <;> exact changed
  have checked := asked.then_nothing (makes_check _ "release" path)
  unfold release
  dsimp only [call]
  split
  · rename_i found
    rwa [found] at checked
  · rename_i found
    rw [found] at checked
    split
    · exact checked
    · exact checked.then_nothing (makes_read _ handle path)

theorem makes_time : Makes simulator [] simulator.time.2 :=
  .of_note (.getTime true Vpi.simulationTime) rfl rfl rfl

theorem makes_print (line : String) : Makes simulator [] (simulator.print line) := by
  have printed : Makes simulator [] { simulator with
      host := { simulator.host.printf (VpiHost.printed line) with duringPrint := [] } } :=
    .of_note (.printf "%s" (VpiHost.printed line)) rfl rfl rfl
  exact printed.then_nothing (.skip _ _)

theorem makes_finish : Makes simulator [] simulator.finish := by
  have ended : Makes simulator [] { simulator with
      host := { simulator.host.control with duringFinish := [] } } :=
    .of_note .ending rfl rfl rfl
  exact ended.then_nothing (.skip _ _)

theorem makes_invocation : Makes simulator [] simulator.invocation.2 :=
  .of_note .getVlogInfo rfl rfl rfl

/-! ## Looking up and registering -/

/-- How looking up a path goes. -/
inductive Looks (simulator : VpiSimulator) (path : String) :
    Except ApplyError ObjectReference × VpiSimulator → Prop where
  /-- Its handle was found before. -/
  | known {handle : Handle} : simulator.handles.lookup path = some handle →
      Looks simulator path (.ok handle, simulator)
  /-- It cannot be handed over. -/
  | torn : simulator.handles.lookup path = none → VpiHost.isPassable path = false →
      Looks simulator path (.error (.unknownObject path), simulator)
  /-- The host finds it. -/
  | found {handle : Handle} : simulator.handles.lookup path = none → VpiHost.isPassable path →
      (simulator.host.handleByName path).1 = some handle →
      Looks simulator path (.ok handle, ⟨(path, handle) :: simulator.handles,
        simulator.host.note (.handleByName path true)⟩)
  /-- The host does not find it. -/
  | missing : simulator.handles.lookup path = none → VpiHost.isPassable path →
      (simulator.host.handleByName path).1 = none →
      Looks simulator path (.error (.unknownObject path),
        { simulator with host := simulator.host.note (.handleByName path true) })

/-- **How looking up a path goes.** -/
theorem looks_lookup (path : String) : simulator.Looks path (simulator.lookup path) := by
  unfold lookup
  cases known : simulator.handles.lookup path with
  | some handle => exact .known known
  | none =>
    by_cases passable : VpiHost.isPassable path
    · dsimp only
      rw [if_pos passable]
      cases answered : (simulator.host.handleByName path).1 with
      | some handle =>
        have asked : simulator.call (·.handleByName path) =
            (some handle, { simulator with host := simulator.host.note (.handleByName path true) }) :=
          Prod.ext answered rfl
        rw [asked]
        exact .found known passable answered
      | none =>
        have asked : simulator.call (·.handleByName path) =
            (none, { simulator with host := simulator.host.note (.handleByName path true) }) :=
          Prod.ext answered rfl
        rw [asked]
        exact .missing known passable answered
    · dsimp only
      rw [if_neg passable]
      exact .torn known (Bool.eq_false_iff.2 passable)

/-- How registering goes. -/
inductive Takes (simulator : VpiSimulator) (entry : EntryPoint) :
    Trigger → Except ConfigurationError Unit × VpiSimulator → Prop where
  /-- A callback is accepted, and its handle let go of. -/
  | accepted {trigger : Trigger} {reason : Nat} {delay : Option UInt64} :
      trigger.callback? = some (reason, delay) → reason ∉ simulator.host.refused →
      Takes simulator entry trigger (.ok (), { simulator with
        host := simulator.host.accept reason (delay.map VpiTime.ofTicks) entry })
  /-- A callback is refused. -/
  | refused {trigger : Trigger} {reason : Nat} {delay : Option UInt64} :
      trigger.callback? = some (reason, delay) → reason ∈ simulator.host.refused →
      Takes simulator entry trigger (.error (.registrationRejected trigger.display), { simulator with
        host := simulator.host.note
          (.registerCallback reason (delay.map VpiTime.ofTicks) entry.code) })
  /-- A system task is declared. -/
  | declared {name : String} : VpiHost.isPassable name → simulator.host.refusesTasks = false →
      Takes simulator entry (.systemTask name) (.ok (), { simulator with
        host := { simulator.host.note (.registerTask Vpi.systemTask 0 name) with
          tasks := simulator.host.tasks ++ [name] } })
  /-- A system task is refused. -/
  | undeclared {name : String} : VpiHost.isPassable name → simulator.host.refusesTasks = true →
      Takes simulator entry (.systemTask name)
        (.error (.registrationRejected (Trigger.systemTask name).display), { simulator with
          host := simulator.host.note (.registerTask Vpi.systemTask 0 name) })
  /-- The name of a system task cannot be handed over. -/
  | torn {name : String} : VpiHost.isPassable name = false →
      Takes simulator entry (.systemTask name)
        (.error (.registrationRejected (Trigger.systemTask name).display), simulator)

/-- **How registering goes.** -/
theorem takes_register (registration : Registration) :
    simulator.Takes registration.entry registration.trigger (simulator.register registration) := by
  obtain ⟨trigger, entry⟩ := registration
  have called {reason : Nat} {delay : Option UInt64}
      (callback : trigger.callback? = some (reason, delay))
      (scheduled : simulator.host.schedule ⟨trigger, entry⟩ =
        simulator.host.callBack reason (delay.map VpiTime.ofTicks) entry) :
      simulator.Takes entry trigger (simulator.register ⟨trigger, entry⟩) := by
    rw [register, VpiSimulator.call, scheduled, VpiHost.callBack, VpiHost.registerCallback]
    by_cases refused : reason ∈ simulator.host.refused
    · rw [if_pos refused]
      exact .refused callback refused
    · rw [if_neg refused]
      exact .accepted callback refused
  cases trigger with
  | startOfSimulation => exact called rfl rfl
  | endOfSimulation => exact called rfl rfl
  | afterDelay ticks => exact called rfl rfl
  | systemTask name =>
    have scheduled : simulator.host.schedule ⟨.systemTask name, entry⟩ =
        simulator.host.declareTask name := rfl
    rw [register, VpiSimulator.call, scheduled, VpiHost.declareTask]
    by_cases passable : VpiHost.isPassable name
    · rw [if_pos passable, VpiHost.registerTask]
      cases refused : simulator.host.refusesTasks with
      | true => exact .undeclared passable refused
      | false => exact .declared passable refused
    · rw [if_neg passable]
      exact .torn (Bool.eq_false_iff.2 passable)

/-! ## Steps -/

/-- A step of the bridge with its simulator. -/
inductive Step where
  | invocation
  | lookup (path : String)
  | read (handle : ObjectReference) (path : String)
  | write (handle : ObjectReference) (path : String) (value : SignalValue) (mode : WriteMode)
  | release (handle : ObjectReference) (path : String)
  | time
  | print (line : String)
  | finish
  | register (registration : Registration)
  /-- The simulator comes to answer differently. -/
  | rescript (change : VpiHost → VpiHost)

/-- The simulator after a step. -/
def after (simulator : VpiSimulator) : Step → VpiSimulator
  | .invocation => simulator.invocation.2
  | .lookup path => (simulator.lookup path).2
  | .read handle path => (simulator.read handle path).2
  | .write handle path value mode => (simulator.write handle path value mode).2
  | .release handle path => (simulator.release handle path).2
  | .time => simulator.time.2
  | .print line => simulator.print line
  | .finish => simulator.finish
  | .register registration => (simulator.register registration).2
  | .rescript change => { simulator with host := simulator.host.rescript change }

/-- The calls by which a step assigns digits. -/
def Step.assignments : Step → List VpiCall
  | .write handle _ value mode =>
    if VpiHost.isPassable (value.toBits 1) then [.assignment handle (value.toBits 1) mode.flag]
    else []
  | _ => []

theorem Step.mem_assignments {step : Step} {call : VpiCall} (member : call ∈ step.assignments) :
    ∃ handle digits flag, call = .assignment handle digits flag := by
  cases step with
  | write handle path value mode =>
    rw [assignments] at member
    split at member
    · exact ⟨_, _, _, List.mem_singleton.1 member⟩
    · cases member
  | _ => cases member

/-- **What a step makes**, unless it looks up a path or registers something, or the simulator comes to
answer differently. -/
theorem after_cases (step : Step) :
    (∃ path, step = .lookup path) ∨ (∃ registration, step = .register registration) ∨
      (∃ change, step = .rescript change) ∨
      Makes simulator step.assignments (simulator.after step) := by
  cases step with
  | lookup path => exact .inl ⟨path, rfl⟩
  | register registration => exact .inr (.inl ⟨registration, rfl⟩)
  | rescript change => exact .inr (.inr (.inl ⟨change, rfl⟩))
  | invocation => exact .inr (.inr (.inr simulator.makes_invocation))
  | read handle path => exact .inr (.inr (.inr (simulator.makes_read handle path)))
  | write handle path value mode =>
    exact .inr (.inr (.inr (simulator.makes_write handle path value mode)))
  | release handle path => exact .inr (.inr (.inr (simulator.makes_release handle path)))
  | time => exact .inr (.inr (.inr simulator.makes_time))
  | print line => exact .inr (.inr (.inr (simulator.makes_print line)))
  | finish => exact .inr (.inr (.inr simulator.makes_finish))

/-- The simulator after a row of steps. -/
def run (simulator : VpiSimulator) (steps : List Step) : VpiSimulator :=
  steps.foldl after simulator

end VpiSimulator

end Cosimulation
