import Cosimulation.Proofs.Bridge.Calls
/-!
# An advance is answered when its delay has elapsed

A host in memory fires every delay that it has accepted at most once, and not before the time of the
delay has passed.  Whatever else happens, and whenever the bridge is called for service in between,
a live session then waits exactly as long as there is a delay that has not fired, and that is the
delay of the advance that waits.  So the answer to an advance does not come too early, unless the
simulation ends or the host has rejected the delay.

What the observer has noted down says so at every moment (`Timeline.Told`): the commands that were
decoded are those that were answered, in their order, and behind them those that the session still
owes an answer.
-/

namespace Cosimulation

set_option autoImplicit false

/-- The time that lies some ticks after another one, as a number. -/
theorem toNat_timeAfter (time ticks : UInt64) :
    (timeAfter time ticks).toNat = min (time.toNat + ticks.toNat) (UInt64.size - 1) := by
  have last : (UInt64.ofNat (UInt64.size - 1)).toNat = UInt64.size - 1 := rfl
  unfold timeAfter
  split
  · rename_i early
    rw [UInt64.toNat_add, Nat.mod_eq_of_lt early]
    omega
  · rw [last]
    omega

namespace Timeline

variable {timeline : Timeline}

/-- What holds of a timeline at every moment. -/
structure Told (timeline : Timeline) : Prop where
  coherent : timeline.run.bridge.Coherent
  /-- Before the start nothing was decoded, and no delay asked for. -/
  unstarted : timeline.run.bridge.phase = .loaded →
    timeline.commands = [] ∧ timeline.unfired = []
  /-- The commands are those that were answered and those that are still owed an answer. -/
  answers : ∃ asked owed, timeline.commands = asked ++ owed ∧
    List.Forall₂ Timely asked timeline.responses ∧
    ∀ dispatcher, timeline.run.bridge.session? = some dispatcher →
      Waits dispatcher.pending owed timeline.unfired

/-- What is noted down of a call follows from what it comes to. -/
structure Allows (timeline : Timeline) (entry : EntryPoint) : Prop where
  coherent : timeline.run.bridge.Coherent
  unstarted : timeline.run.bridge.phase = .loaded →
    timeline.commands = [] ∧ timeline.unfired = []
  comes : ∃ asked owed, timeline.commands = asked ++ owed ∧
    List.Forall₂ Timely asked timeline.responses ∧
    ∃ answered rest delays, Comes (timeline.next entry) (timeline.run.writtenBefore entry) owed
      (timeline.run.decoded entry) timeline.run.host timeline.unfired
      (timeline.run.invoke entry).2 answered rest delays

/-! ## What is noted down of a call -/

namespace Allows

variable {entry : EntryPoint}

/-- **What is noted down of a call is what holds at every moment.** -/
theorem told (allows : timeline.Allows entry) : (timeline.call entry).Told where
  coherent := Run.coherent_invoke allows.coherent entry
  unstarted loaded := by
    obtain ⟨unengaged, same⟩ := Run.unchanged_of_loaded allows.coherent loaded
    obtain ⟨unasked, spent⟩ := allows.unstarted (same ▸ loaded)
    have accepted : accepted timeline.run (timeline.run.invoke entry).2 = [] := by
      rw [same]
      exact (MemoryHost.Accepts.refl _).accepted_eq
    constructor
    · show timeline.commands ++ _ = _
      rw [unasked, Run.decoded_of_unengaged unengaged]
      rfl
    · show timeline.unfired ++ _ = _
      rw [spent, accepted]
      rfl
  answers := by
    obtain ⟨asked, owed, commands, matched, answered, rest, delays, comes⟩ := allows.comes
    obtain ⟨fragment, progress⟩ := comes.progress
    obtain ⟨more, split, also⟩ := progress.matched
    have answers : timeline.run.answered entry = answered :=
      Run.answered_of_comes (timeline.next entry) comes
    have accepted : accepted timeline.run (timeline.run.invoke entry).2 = delays :=
      comes.accepts.accepted_eq
    refine ⟨asked ++ more, rest, ?_, ?_, fun dispatcher live => ?_⟩
    · show timeline.commands ++ _ = _
      rw [commands, List.append_assoc, split, List.append_assoc]
    · show List.Forall₂ Timely _ (timeline.responses ++ _)
      rw [answers]
      exact List.rel_append matched (List.forall₂_map_right_iff.2 also)
    · show Waits _ _ (timeline.unfired ++ _)
      rw [accepted]
      exact comes.waits dispatcher live

/-- **The clock stands still during a call.** -/
theorem clock_call (allows : timeline.Allows entry) :
    (timeline.call entry).clock = timeline.clock := by
  obtain ⟨_, _, _, _, _, _, _, comes⟩ := allows.comes
  exact comes.accepts.time

end Allows

namespace Told

/-- What holds depends on the mode, the phase and the session of the bridge, and on the notes. -/
theorem of_same (told : timeline.Told) (other : Timeline)
    (mode : other.run.bridge.configuration.mode = timeline.run.bridge.configuration.mode)
    (phase : other.run.bridge.phase = timeline.run.bridge.phase)
    (session : other.run.bridge.session? = timeline.run.bridge.session?)
    (commands : other.commands = timeline.commands) (responses : other.responses = timeline.responses)
    (unfired : other.unfired = timeline.unfired) : other.Told where
  coherent := told.coherent.of_same mode phase session
  unstarted loaded := by
    rw [commands, unfired]
    exact told.unstarted (phase ▸ loaded)
  answers := by
    rw [commands, responses, unfired, session]
    exact told.answers

/-- A call that takes no turns. -/
theorem allows_of_unengaged (told : timeline.Told) {entry : EntryPoint}
    (unengaged : timeline.run.engaged entry = none) : timeline.Allows entry := by
  obtain ⟨asked, owed, commands, matched, waits⟩ := told.answers
  exact ⟨told.coherent, told.unstarted, asked, owed, commands, matched,
    Run.comes_of_unengaged (timeline.next entry) told.coherent unengaged rfl waits⟩

/-- **The start**: nothing has been asked and answered before. -/
theorem allows_startup (told : timeline.Told) : timeline.Allows .startup := by
  cases engaged : timeline.run.engaged .startup with
  | none => exact told.allows_of_unengaged engaged
  | some found =>
    obtain ⟨resuming, serving⟩ := found
    rcases Run.engaged_cases engaged with ⟨_, rfl, loaded, connection, host, _, same⟩ | ⟨starts, _⟩
    · obtain ⟨unasked, spent⟩ := told.unstarted loaded
      obtain ⟨asked, owed, commands, matched, _⟩ := told.answers
      obtain ⟨rfl, rfl⟩ := List.append_eq_nil_iff.1 (commands.symm.trans unasked)
      refine ⟨told.coherent, told.unstarted, [], [], commands, matched, ?_⟩
      rw [spent]
      refine Run.comes_of_engaged (timeline.next .startup) told.coherent engaged rfl rfl ?_ nofun
      intro dispatcher live
      rw [same] at live
      cases live
      exact ⟨rfl, fun _ => rfl⟩
    · cases resuming <;> cases starts

/-- **Service**: nothing as long as an advance waits, and otherwise turns. -/
theorem allows_service (told : timeline.Told) : timeline.Allows .service := by
  rcases timeline.run.live_or_idle with ⟨dispatcher, connection, link⟩ | idle
  · have live := Run.session?_of_live link
    have engaged : timeline.run.engaged .service = some (false, timeline.run) :=
      Run.engaged_of_live live false
    obtain ⟨asked, owed, commands, matched, waits⟩ := told.answers
    have waits := waits dispatcher live
    refine ⟨told.coherent, told.unstarted, asked, owed, commands, matched, ?_⟩
    by_cases ready : dispatcher.pending = none
    · obtain ⟨rfl, spent⟩ := waits.nothing ready
      rw [spent]
      refine Run.comes_of_engaged (timeline.next .service) told.coherent engaged rfl rfl ?_ nofun
      intro other also
      obtain rfl := Option.some.inj (live.symm.trans also)
      exact ⟨(Dispatcher.owed_of_ready ready).symm, fun _ => ready⟩
    · exact ⟨_, _, _,
        Run.comes_of_suspended (timeline.next .service) told.coherent live ready rfl waits⟩
  · exact told.allows_of_unengaged (if_pos idle)

/-- **A delay that is over fires**: it is that of the advance that waits. -/
theorem allows_fire (told : timeline.Told) {place : Nat} {delay : Delay}
    (found : timeline.unfired[place]? = some delay)
    (elapsed : timeAfter delay.since delay.ticks ≤ timeline.clock) :
    Allows { timeline with unfired := timeline.unfired.eraseIdx place } .resume := by
  obtain ⟨asked, owed, commands, matched, waits⟩ := told.answers
  let spent : Timeline := { timeline with unfired := timeline.unfired.eraseIdx place }
  have unstarted (loaded : timeline.run.bridge.phase = .loaded) :
      timeline.commands = [] ∧ spent.unfired = [] := by
    rw [(told.unstarted loaded).2] at found
    cases found
  refine ⟨told.coherent, unstarted, asked, owed, commands, matched, ?_⟩
  rcases timeline.run.live_or_idle with ⟨dispatcher, connection, link⟩ | idle
  · have live := Run.session?_of_live link
    have engaged : timeline.run.engaged .resume = some (true, timeline.run) :=
      Run.engaged_of_live live true
    have waits := waits dispatcher live
    have owes := waits.owes
    obtain ⟨advance, call, rfl, rfl, nothing⟩ := waits.fires found
    rw [nothing]
    refine Run.comes_of_engaged (spent.next .resume) told.coherent engaged rfl rfl ?_ ?_
    · intro other also
      obtain rfl := Option.some.inj (live.symm.trans also)
      exact ⟨owes, nofun⟩
    · intro asked member
      obtain rfl := List.mem_singleton.1 member
      refine timely_dueIn fun ticks same => .inl ?_
      cases same
      exact elapsed
  · exact Run.comes_of_unengaged (spent.next .resume) told.coherent (if_pos idle) rfl
      fun dispatcher live => by cases idle.symm.trans live

/-! ## Moments -/

/-- A timeline whose entry points were registered, or could not be. -/
theorem of_registered (told : timeline.Told) {run : Run MemoryHost}
    (registered : ∃ ledger host, run = ⟨{ timeline.run.bridge with ledger }, host⟩) :
    Told { timeline with run } := by
  obtain ⟨ledger, host, rfl⟩ := registered
  exact told.of_same _ rfl rfl rfl rfl rfl rfl

/-- **Whatever happens, it goes on to hold**, and only the passing of time moves the clock. -/
theorem after (told : timeline.Told) (moment : Moment) :
    (timeline.after moment).Told ∧
      ((∀ ticks change, moment ≠ .elapse ticks change) →
        (timeline.after moment).clock = timeline.clock) := by
  cases moment with
  | register =>
    exact ⟨told.of_registered (timeline.run.registerAll_eq _),
      fun _ => congrArg MemorySimulator.time (timeline.run.simulator_registerAll _)⟩
  | startup => exact ⟨told.allows_startup.told, fun _ => told.allows_startup.clock_call⟩
  | bootstrap =>
    have still := timeline.run.simulator_register .endOfSimulation .shutdown
    have registered := told.of_registered (timeline.run.register_eq .endOfSimulation .shutdown)
    unfold Timeline.after Run.bootstrap
    dsimp only
    generalize timeline.run.register .endOfSimulation .shutdown = outcome at still registered
    obtain ⟨error | _, run⟩ := outcome
    · exact ⟨registered.of_same _ rfl rfl rfl rfl rfl rfl, fun _ =>
        (run.reached_report MemoryHost.confines_accepts _).time.trans
          (congrArg MemorySimulator.time still)⟩
    · exact ⟨registered.allows_startup.told,
        fun _ => registered.allows_startup.clock_call.trans (congrArg MemorySimulator.time still)⟩
  | service => exact ⟨told.allows_service.told, fun _ => told.allows_service.clock_call⟩
  | fire place =>
    unfold Timeline.after
    dsimp only
    split
    · rename_i delay found
      split
      · rename_i elapsed
        have allows := told.allows_fire found elapsed
        exact ⟨allows.told, fun _ => allows.clock_call⟩
      · exact ⟨told, fun _ => rfl⟩
    · exact ⟨told, fun _ => rfl⟩
  | shutdown =>
    have allows : timeline.Allows .shutdown := told.allows_of_unengaged rfl
    exact ⟨allows.told, fun _ => allows.clock_call⟩
  | elapse ticks change =>
    exact ⟨told.of_same _ rfl rfl rfl rfl rfl rfl, fun other => absurd rfl (other ticks change)⟩
  | channel change =>
    exact ⟨told.of_same _ rfl rfl (Link.session?_mapChannel _ change) rfl rfl rfl, fun _ => rfl⟩

/-- **What holds of a bridge that has been loaded, whatever has happened since.** -/
theorem follow (configuration : Configuration) (invocation : Invocation) (host : MemoryHost)
    (moments : List Moment) : ((Timeline.load configuration invocation host).follow moments).Told := by
  have go (moments : List Moment) : ∀ timeline : Timeline, timeline.Told →
      (timeline.follow moments).Told := by
    induction moments with
    | nil => exact fun _ told => told
    | cons moment moments ih => exact fun _ told => ih _ (told.after moment).1
  exact go moments _
    { coherent := .of_idle rfl
      unstarted := fun _ => ⟨rfl, rfl⟩
      answers := ⟨[], [], rfl, .nil, nofun⟩ }

end Told

/-- **An advance is answered when its own delay has elapsed.**  Whatever the host and the controller
do: between two calls a live session is suspended exactly if one delay has not fired, which is the
delay of the advance that waits; as many answers are missing as there are such delays; and a call for
service then changes nothing at all.  The answer to an advance carries the time at which it is given,
and that is not before its time has passed, unless the simulation ends or the host has rejected the
delay.  During a call no time passes. -/
theorem answers_when_delay_elapsed (configuration : Configuration) (invocation : Invocation)
    (host : MemoryHost) (moments : List Moment) :
    let timeline := (Timeline.load configuration invocation host).follow moments
    (∀ dispatcher, timeline.run.bridge.session? = some dispatcher →
      (dispatcher.isSuspended = true ↔ timeline.unfired.length = 1) ∧
      timeline.unfired.map Delay.ticks = (dispatcher.pending.map PendingAdvance.ticks).toList ∧
      timeline.commands.length = timeline.responses.length + timeline.unfired.length ∧
      (dispatcher.isSuspended = true →
        timeline.run.invoke .service = (.success, timeline.run))) ∧
    (∀ (place : Nat) (asked : During Command) (answer : During Response),
      timeline.commands[place]? = some asked → timeline.responses[place]? = some answer →
      answer.content.requestId = asked.content.requestId ∧
      ∀ ticks, asked.content.operation = .advance ticks → ticks ≠ 0 →
        answer.content = .ok asked.content.requestId (.time answer.call.clock) ∧
          (min (asked.call.clock.toNat + ticks.toNat) (UInt64.size - 1) ≤ answer.call.clock.toNat ∨
            answer.call.entry = .shutdown ∨
            answer.call = asked.call ∧ .afterDelay ticks ∈ answer.call.rejected)) ∧
    ∀ moment, (∀ ticks change, moment ≠ .elapse ticks change) →
      (timeline.after moment).clock = timeline.clock := by
  intro timeline
  have told : timeline.Told := .follow configuration invocation host moments
  obtain ⟨answered, owed, commands, matched, waits⟩ := told.answers
  refine ⟨fun dispatcher live => ?_, ?_, fun moment => (told.after moment).2⟩
  · have waits := waits dispatcher live
    refine ⟨waits.suspended_iff, waits.ticks, ?_, fun suspended => ?_⟩
    · rw [commands, List.length_append, matched.length_eq, waits.length]
    · have waiting : dispatcher.pending ≠ none := Option.isSome_iff_ne_none.1 suspended
      exact Run.service_of_atRest (Run.atRest_of_suspended told.coherent live waiting)
  · intro place asked answer heard given
    obtain ⟨inside, rfl⟩ := List.getElem?_eq_some_iff.1 given
    have early : place < answered.length := matched.length_eq ▸ inside
    rw [commands, List.getElem?_append_left early, List.getElem?_eq_getElem early] at heard
    cases heard
    have timely : Timely _ _ := matched.get early inside
    refine ⟨timely.matching, fun ticks asks positive => ?_⟩
    rw [← toNat_timeAfter, ← UInt64.le_iff_toNat_le]
    exact timely.timed ticks asks positive

end Timeline

end Cosimulation
