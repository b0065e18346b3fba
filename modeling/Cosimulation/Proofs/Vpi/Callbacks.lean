import Mathlib.Algebra.Group.Nat.Defs
import Cosimulation.Proofs.Vpi.Steps
import Cosimulation.Vpi.Plugin
/-!
# Callbacks come back as they were registered

A callback goes through the simulator as a number for its entry point and two words for its delay.
On the way back other functions read them: the routine that every callback arrives at, and the
simulator's clock, whose words the bridge puts together again.

The two words of a delay add up to it (`VpiTime.toNat_ofTicks`), and so do words in general
(`VpiTime.toNat_ticks`).  Hence a clock to which the words of a delay are added, with a carry from
one word to the other, is ahead by that delay (`VpiTime.ticks_sum`).

The handle of a callback is let go of as soon as it is given.  Accepted callbacks are numbered, so an
account of the handles let go of is an account of the callbacks accepted (`Frees`, `frees_run`): no
handle is let go of twice.
-/

namespace Cosimulation

set_option autoImplicit false

/-! ## Times in two words -/

namespace VpiTime

theorem toNat_ticks (time : VpiTime) :
    time.ticks.toNat = time.high.toNat * 2 ^ 32 + time.low.toNat := by
  have low := time.low.toNat_lt
  have high := time.high.toNat_lt
  have places : UInt64.toNat 32 % 64 = 32 := rfl
  rw [ticks, UInt64.toNat_or, UInt64.toNat_shiftLeft, UInt32.toNat_toUInt64, UInt32.toNat_toUInt64,
    places, Nat.mod_eq_of_lt (by rw [Nat.shiftLeft_eq]; omega), ← Nat.shiftLeft_add_eq_or_of_lt low,
    Nat.shiftLeft_eq]

theorem toNat_high_ofTicks (ticks : UInt64) :
    (ofTicks ticks).high.toNat = ticks.toNat / 2 ^ 32 := by
  have most := ticks.toNat_lt
  have places : UInt64.toNat 32 % 64 = 32 := rfl
  rw [ofTicks, UInt64.toNat_toUInt32, UInt64.toNat_shiftRight, places, Nat.shiftRight_eq_div_pow]
  omega

theorem toNat_low_ofTicks (ticks : UInt64) : (ofTicks ticks).low.toNat = ticks.toNat % 2 ^ 32 :=
  UInt64.toNat_toUInt32 ticks

/-- The two words of a number of ticks add up to it. -/
theorem toNat_ofTicks (ticks : UInt64) :
    (ofTicks ticks).high.toNat * 2 ^ 32 + (ofTicks ticks).low.toNat = ticks.toNat := by
  rw [toNat_high_ofTicks, toNat_low_ofTicks, Nat.div_add_mod']

@[simp] theorem ticks_ofTicks (count : UInt64) : (ofTicks count).ticks = count :=
  UInt64.toNat_inj.1 ((toNat_ticks _).trans (toNat_ofTicks count))

/-- Words that were put together are taken apart again. -/
theorem ofTicks_ticks (high low : UInt32) :
    ofTicks (ticks ⟨Vpi.simulationTime, high, low⟩) = ⟨Vpi.simulationTime, high, low⟩ := by
  have least := low.toNat_lt
  have whole := toNat_ticks ⟨Vpi.simulationTime, high, low⟩
  dsimp only at whole
  have upper : (ofTicks (ticks ⟨Vpi.simulationTime, high, low⟩)).high = high := by
    rw [← UInt32.toNat_inj, toNat_high_ofTicks, whole]
    omega
  have lower : (ofTicks (ticks ⟨Vpi.simulationTime, high, low⟩)).low = low := by
    rw [← UInt32.toNat_inj, toNat_low_ofTicks, whole]
    omega
  exact congrArg₂ (VpiTime.mk Vpi.simulationTime) upper lower

/-- The sum of two times, word by word, with a carry from the lower words to the higher ones. -/
def sum (one other : VpiTime) : VpiTime where
  kind := one.kind
  high := one.high + other.high + if one.low.toNat + other.low.toNat < 2 ^ 32 then 0 else 1
  low := one.low + other.low

theorem ticks_sum (one other : VpiTime) : (one.sum other).ticks = one.ticks + other.ticks := by
  have low := one.low.toNat_lt
  have other_low := other.low.toNat_lt
  rw [← UInt64.toNat_inj, UInt64.toNat_add, toNat_ticks, toNat_ticks, toNat_ticks]
  simp only [sum, UInt32.toNat_add]
  by_cases carries : one.low.toNat + other.low.toNat < 2 ^ 32
  · rw [if_pos carries, UInt32.toNat_zero]
    omega
  · rw [if_neg carries, UInt32.toNat_one]
    omega

/-- A full lower word carries into the higher one. -/
example : (ofTicks 4294967295).sum (ofTicks 1) = ⟨Vpi.simulationTime, 1, 0⟩ := by decide

end VpiTime

/-! ## One registration -/

/-- The handle that a call lets go of. -/
def VpiCall.freed? : VpiCall → Option Handle
  | .freeObject handle => some handle
  | _ => none

theorem VpiCall.freed?_eq_none {call : VpiCall} (untraced : call.isTraced = false) :
    call.freed? = none := by
  cases call with
  | freeObject => cases untraced
  | _ => rfl

namespace VpiHost

/-- The handles let go of so far. -/
def freed (host : VpiHost) : List Handle := host.calls.filterMap VpiCall.freed?

end VpiHost

namespace VpiSimulator

variable (simulator : VpiSimulator)

/-- How a host takes a request: it is the only one that is made, `answer` is the handle that the host
gives for it unless it refuses, and the handles let go of are `freed`. -/
structure Hands (registration : Registration) (request : VpiCall) (answer : Option Handle)
    (freed : List Handle) : Prop where
  handle : answer ≠ some 0
  calls : (simulator.register registration).2.host.calls =
    simulator.host.calls ++ request :: freed.map .freeObject
  outcome : (simulator.register registration).1 =
    if answer.isSome then .ok ()
    else .error (.registrationRejected registration.trigger.display)

/-- A callback is handed over in one call, and the handle given for it is let go of. -/
theorem hands_callback {trigger : Trigger} {reason : Nat} {delay : Option UInt64}
    (callback : trigger.callback? = some (reason, delay)) (entry : EntryPoint) :
    let time := delay.map VpiTime.ofTicks
    let answer := (simulator.host.registerCallback reason time entry.code).1
    simulator.Hands ⟨trigger, entry⟩ (.registerCallback reason time entry.code) answer
      answer.toList := by
  intro time answer
  have takes := simulator.takes_register ⟨trigger, entry⟩
  generalize same : simulator.register ⟨trigger, entry⟩ = registered at takes
  cases takes with
  | accepted also willing =>
    cases callback.symm.trans also
    have given : answer = some (1001 + simulator.host.callbacks.length) :=
      congrArg Prod.fst (if_neg willing)
    rw [given]
    refine ⟨by simp, ?_, by rw [same]; rfl⟩
    rw [same]
    exact List.append_assoc ..
  | refused also unwilling =>
    cases callback.symm.trans also
    have nothing : answer = none := congrArg Prod.fst (if_pos unwilling)
    rw [nothing]
    exact ⟨by simp, by rw [same]; rfl, by rw [same]; rfl⟩
  | declared | undeclared | torn => cases callback

/-- A system task is handed over in one call, if its name can be, and its handle is kept. -/
theorem hands_systemTask {name : String} (passable : VpiHost.isPassable name)
    (entry : EntryPoint) :
    simulator.Hands ⟨.systemTask name, entry⟩ (.registerTask Vpi.systemTask 0 name)
      (simulator.host.registerTask name).1 [] := by
  have takes := simulator.takes_register ⟨.systemTask name, entry⟩
  generalize same : simulator.register ⟨.systemTask name, entry⟩ = registered at takes
  cases takes with
  | declared _ willing =>
    have given : (simulator.host.registerTask name).1 =
        some (2001 + simulator.host.tasks.length) := by
      rw [VpiHost.registerTask, willing]
      rfl
    rw [given]
    exact ⟨by simp, by rw [same]; rfl, by rw [same]; rfl⟩
  | undeclared _ unwilling =>
    have nothing : (simulator.host.registerTask name).1 = none := by
      rw [VpiHost.registerTask, unwilling]
      rfl
    rw [nothing]
    exact ⟨by simp, by rw [same]; rfl, by rw [same]; rfl⟩
  | torn torn => cases passable.symm.trans torn
  | accepted callback | refused callback => cases callback

/-- A system task whose name cannot be handed over is rejected without a call. -/
theorem register_of_not_passable {name : String} (torn : VpiHost.isPassable name = false)
    (entry : EntryPoint) :
    simulator.register ⟨.systemTask name, entry⟩ =
      (.error (.registrationRejected (Trigger.systemTask name).display), simulator) := by
  have takes := simulator.takes_register ⟨.systemTask name, entry⟩
  generalize simulator.register ⟨.systemTask name, entry⟩ = registered at takes
  cases takes with
  | torn => rfl
  | declared passable | undeclared passable => cases passable.symm.trans torn
  | accepted callback | refused callback => cases callback

/-! ## Handles let go of -/

/-- Between two states every callback that got accepted had its handle let go of, once and in its
turn, and no other handle was let go of. -/
def Frees (before after : VpiSimulator) : Prop :=
  ∃ codes, after.host.callbacks = before.host.callbacks ++ codes ∧
    after.host.freed =
      before.host.freed ++ List.range' (1001 + before.host.callbacks.length) codes.length

namespace Frees

variable {first second third : VpiSimulator}

/-- Without an accepted callback no handle is let go of. -/
theorem of_none (callbacks : second.host.callbacks = first.host.callbacks)
    (freed : second.host.freed = first.host.freed) : Frees first second :=
  ⟨[], by rw [callbacks, List.append_nil], by rw [freed, List.length_nil, List.range'_zero,
    List.append_nil]⟩

theorem refl (simulator : VpiSimulator) : Frees simulator simulator :=
  .of_none rfl rfl

theorem trans (frees : Frees first second) (also : Frees second third) : Frees first third := by
  obtain ⟨codes, callbacks, freed⟩ := frees
  obtain ⟨more, accepted, released⟩ := also
  refine ⟨codes ++ more, by rw [accepted, callbacks, List.append_assoc], ?_⟩
  rw [released, freed, callbacks, List.append_assoc, List.length_append, List.length_append,
    ← Nat.add_assoc, List.range'_append_1]

theorem of_makes {calls : List VpiCall} (makes : Makes first calls second)
    (nothing : calls.filterMap VpiCall.freed? = []) : Frees first second := by
  have freed := makes.filterMap_calls fun _ => VpiCall.freed?_eq_none
  rw [nothing, List.append_nil] at freed
  exact .of_none makes.callbacks freed

end Frees

theorem frees_lookup (path : String) : Frees simulator (simulator.lookup path).2 := by
  have asked : (simulator.host.note (.handleByName path true)).freed = simulator.host.freed := by
    simp [VpiHost.freed, VpiHost.note, VpiCall.freed?]
  have looks := simulator.looks_lookup path
  generalize simulator.lookup path = looked at looks
  cases looks with
  | known | torn => exact .refl simulator
  | found | missing => exact .of_none rfl asked

theorem frees_register (registration : Registration) :
    Frees simulator (simulator.register registration).2 := by
  obtain ⟨trigger, entry⟩ := registration
  have takes := simulator.takes_register ⟨trigger, entry⟩
  generalize simulator.register ⟨trigger, entry⟩ = registered at takes
  cases takes with
  | accepted =>
    refine ⟨[entry.code], rfl, ?_⟩
    simp [VpiHost.accept, VpiHost.freeObject, VpiHost.freed, VpiHost.note, VpiCall.freed?,
      List.filterMap_cons]
  | refused | declared | undeclared =>
    exact .of_none rfl (by simp [VpiHost.freed, VpiHost.note, VpiCall.freed?])
  | torn => exact .refl simulator

theorem frees_after (step : Step) : Frees simulator (simulator.after step) := by
  rcases simulator.after_cases step with
    ⟨path, rfl⟩ | ⟨registration, rfl⟩ | ⟨change, rfl⟩ | makes
  · exact simulator.frees_lookup path
  · exact simulator.frees_register registration
  · exact .of_none rfl rfl
  · refine .of_makes makes ?_
    rw [List.filterMap_eq_nil_iff]
    intro call member
    obtain ⟨handle, digits, flag, rfl⟩ := Step.mem_assignments member
    rfl

/-- **However a bridge uses its simulator, the handles let go of are those of the accepted callbacks,
each once.** -/
theorem frees_run (steps : List Step) : Frees simulator (simulator.run steps) := by
  induction steps generalizing simulator with
  | nil => exact .refl simulator
  | cons step steps ih => exact (simulator.frees_after step).trans (ih (simulator.after step))

/-- Whatever a bridge does after registering a callback, its handle is let go of once. -/
theorem count_freed {trigger : Trigger} {reason : Nat} {delay : Option UInt64}
    (callback : trigger.callback? = some (reason, delay)) {entry : EntryPoint} {handle : Handle}
    (given : handle ∈ (simulator.host.registerCallback reason (delay.map VpiTime.ofTicks)
      entry.code).1)
    (steps : List Step) :
    ((simulator.register ⟨trigger, entry⟩).2.run steps).host.freed.count handle =
      simulator.host.freed.count handle + 1 := by
  let registered := (simulator.register ⟨trigger, entry⟩).2
  have calls := (simulator.hands_callback callback entry).calls
  rw [Option.mem_def.1 given] at calls
  have released : registered.host.freed = simulator.host.freed ++ [handle] := by
    rw [VpiHost.freed, calls, List.filterMap_append]
    rfl
  obtain ⟨codes, accepted, freed⟩ := simulator.frees_register ⟨trigger, entry⟩
  obtain ⟨more, _, later⟩ := registered.frees_run steps
  -- the handle is the one that the account of this registration ends with
  have next : [handle] = List.range' (1001 + simulator.host.callbacks.length) codes.length :=
    List.append_cancel_left (released.symm.trans freed)
  have one : codes.length = 1 := by
    have lengths := congrArg List.length next
    rwa [List.length_singleton, List.length_range', eq_comm] at lengths
  rw [one, List.range'_one, List.singleton_inj] at next
  have passed : handle ∉ List.range' (1001 + registered.host.callbacks.length) more.length := by
    rw [accepted, List.length_append, one, List.mem_range'_1, next]
    omega
  rw [later, released, List.count_append, List.count_append, List.count_singleton_self,
    List.count_eq_zero_of_not_mem passed]

/-! ## The way back -/

/-- The simulator when its clock shows two words. -/
def showing (words : VpiTime) : VpiSimulator :=
  { simulator with host := { simulator.host with time := words.ticks } }

theorem time_showing (words : VpiTime) : (simulator.showing words).time.1 = words.ticks :=
  VpiTime.ticks_ofTicks words.ticks

theorem getTime_showing (high low : UInt32) :
    (simulator.showing ⟨Vpi.simulationTime, high, low⟩).host.getTime.1 =
      ⟨Vpi.simulationTime, high, low⟩ :=
  VpiTime.ofTicks_ticks high low

/-- A callback that arrives with the number of an entry point calls that entry point of the installed
bridge. -/
theorem onCallback_code (run : Run VpiSimulator) (entry : EntryPoint) :
    (Plugin.ofRun run).onCallback (some entry.code) =
      ((run.invoke entry).1, .ofRun (run.invoke entry).2) := by
  rw [Plugin.onCallback, Plugin.callback, EntryPoint.ofCode?_code]
  rfl

/-- **A callback comes back as it was registered.**  It is handed over in one call, with the number of
its entry point and, for a delay, with two words that add up to it.  Registering succeeds exactly if
the host gives a handle, which is then let go of, once however the bridge goes on.  When a callback
arrives with the number that was registered, that entry point of the installed bridge is called.  The
handle of a system task is kept, and a system task whose name cannot be handed over is rejected
without a call.

The bridge reads the words of the clock as one number, so a host that adds the words of a delay to
its clock, with a carry, is ahead by that delay. -/
theorem callbacks_come_back (registration : Registration) (run : Run VpiSimulator) :
    let host := simulator.host
    let entry := registration.entry
    let registered := simulator.register registration
    (∀ reason delay, registration.trigger.callback? = some (reason, delay) →
      let time := delay.map VpiTime.ofTicks
      let answer := (host.registerCallback reason time entry.code).1
      simulator.Hands registration (.registerCallback reason time entry.code) answer
          answer.toList ∧
        (∀ handle ∈ answer, ∀ steps,
          (registered.2.run steps).host.freed.count handle = host.freed.count handle + 1) ∧
        (Plugin.ofRun run).onCallback (some entry.code) =
          ((run.invoke entry).1, .ofRun (run.invoke entry).2)) ∧
    (∀ name, registration.trigger = .systemTask name →
      if VpiHost.isPassable name then
        simulator.Hands registration (.registerTask Vpi.systemTask 0 name)
          (host.registerTask name).1 []
      else registered =
        (.error (.registrationRejected registration.trigger.display), simulator)) ∧
    (∀ ticks,
      let words := VpiTime.ofTicks ticks
      let elapsed := simulator.showing (host.getTime.1.sum words)
      words.high.toNat * 2 ^ 32 + words.low.toNat = ticks.toNat ∧
        words.high.toNat < 2 ^ 32 ∧ words.low.toNat < 2 ^ 32 ∧
        elapsed.host.getTime.1 = host.getTime.1.sum words ∧
        elapsed.time.1 = simulator.time.1 + ticks) ∧
    ∀ high low,
      let shown := simulator.showing ⟨Vpi.simulationTime, high, low⟩
      shown.host.getTime.1 = ⟨Vpi.simulationTime, high, low⟩ ∧
        shown.time.1.toNat = high.toNat * 2 ^ 32 + low.toNat := by
  obtain ⟨trigger, entry⟩ := registration
  refine ⟨fun reason delay callback => ⟨simulator.hands_callback callback entry, ?_, ?_⟩, ?_,
    fun ticks => ?_, fun high low => ⟨simulator.getTime_showing high low, ?_⟩⟩
  · exact fun handle given steps => simulator.count_freed callback given steps
  · exact onCallback_code run entry
  · rintro name rfl
    dsimp only
    by_cases passable : VpiHost.isPassable name
    · rw [if_pos passable]
      exact simulator.hands_systemTask passable entry
    · rw [if_neg passable]
      exact simulator.register_of_not_passable (Bool.eq_false_iff.2 passable) entry
  · have elapsed := simulator.time_showing (simulator.host.getTime.1.sum (.ofTicks ticks))
    rw [VpiTime.ticks_sum, VpiTime.ticks_ofTicks] at elapsed
    exact ⟨VpiTime.toNat_ofTicks ticks, UInt32.toNat_lt _, UInt32.toNat_lt _,
      simulator.getTime_showing _ _, elapsed⟩
  · rw [time_showing, VpiTime.toNat_ticks]

end VpiSimulator

end Cosimulation
