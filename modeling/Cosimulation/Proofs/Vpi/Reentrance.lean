import Cosimulation.Proofs.Bridge.Spent
import Cosimulation.Proofs.Vpi.Coupling
import Cosimulation.Proofs.Vpi.Heedless
import Cosimulation.Proofs.Vpi.Installing
/-!
# Calls that arrive while the run is being ended

When a bridge ends the run, the simulator may call into the library before that call has returned,
for instance to tell that the simulation ends.  The bridge is busy then and not in its place, so that
the entry points do nothing (`foldl_reenter_vacant`): such calls are skipped, and they never come
again.  Nothing is lost by it: the process goes on as if they had been delivered after
the call of the bridge (`skipping_loses_nothing`).

Two processes are followed side by side, one of which is called into.  Until the run is ended they
differ in nothing but what they have yet to skip, and from then on in the front of their records
(`VpiHost.Skips`, `VpiSimulator.couples_skips`).  A bridge that has ended the run is spent when it
returns (`Run.adds_or_spent_invoke`), and processes whose bridges are spent look the same from then
on, although the delivered calls may have told one of them that the simulation has ended
(`Plugin.Spent`, `observe_of_spent`).
-/

namespace Cosimulation

set_option autoImplicit false

/-! ## Two simulators -/

namespace VpiHost

/-- Two simulators that differ in the front of their records only. -/
inductive Apart (front other : List VpiCall) : VpiHost → VpiHost → Prop where
  | intro (host : VpiHost) (back : List VpiCall) :
      Apart front other (host.withCalls (front ++ back)) (host.withCalls (other ++ back))

/-- Two simulators of which one will call into the library while the run is being ended.  The run was
not ended since the record was `before`. -/
inductive Armed (before : List VpiCall) (inner : List Reentry) : VpiHost → VpiHost → Prop where
  | intro (host : VpiHost) {since : List VpiCall} : VpiCall.ending ∉ since →
      Armed before inner ((host.arm inner).withCalls (before ++ since))
        ((host.arm []).withCalls (before ++ since))

/-- What is entered in both records leaves them apart as they are. -/
theorem Apart.note {front other : List VpiCall} {first second : VpiHost}
    (apart : Apart front other first second) (call : VpiCall) :
    Apart front other (first.note call) (second.note call) := by
  cases apart with
  | intro host back =>
    have joined (calls : List VpiCall) :
        (host.withCalls (calls ++ back)).note call = host.withCalls (calls ++ (back ++ [call])) := by
      simp [VpiHost.note, withCalls]
    rw [joined, joined]
    exact .intro host _

theorem Armed.note {before : List VpiCall} {inner : List Reentry} {first second : VpiHost}
    (armed : Armed before inner first second) {call : VpiCall} (passing : call ≠ .ending) :
    Armed before inner (first.note call) (second.note call) := by
  cases armed with
  | @intro host since quiet =>
    have joined (pending : List Reentry) :
        ((host.arm pending).withCalls (before ++ since)).note call =
          (host.arm pending).withCalls (before ++ (since ++ [call])) := by
      simp [VpiHost.note, withCalls]
    rw [joined, joined]
    refine .intro host fun member => ?_
    rcases List.mem_append.1 member with member | member
    · exact quiet member
    · exact passing (List.mem_singleton.1 member).symm

/-- The record up to the end of the run, with the calls behind it that were skipped. -/
def ended (before front : List VpiCall) (skipped : Nat) : List VpiCall :=
  before ++ front ++ .ending :: List.replicate skipped (.reentered 0)

/-- Two simulators, of which one calls into the library while the run is being ended: the run is
still to be ended, or the calls were skipped. -/
inductive Skips (before : List VpiCall) (inner : List Reentry) (first second : VpiHost) : Prop where
  | armed : Armed before inner first second → Skips before inner first second
  | finished {front : List VpiCall} : VpiCall.ending ∉ front →
      Apart (ended before front inner.length) (ended before front 0) first second →
      Skips before inner first second

end VpiHost

/-- Two simulators with the same handles over related hosts. -/
inductive VpiSimulator.Over (related : VpiHost → VpiHost → Prop) :
    VpiSimulator → VpiSimulator → Prop where
  | intro (handles : List (String × Handle)) {first second : VpiHost} : related first second →
      Over related ⟨handles, first⟩ ⟨handles, second⟩

namespace Heedless

variable {α : Type} {call : VpiSimulator → α × VpiSimulator} (heedless : Heedless call)
include heedless

/-- A heedless call keeps two simulators apart as they are. -/
theorem coupled {before : List VpiCall} {inner : List Reentry} {first second : VpiSimulator}
    (hosts : VpiSimulator.Over (VpiHost.Skips before inner) first second) :
    Coupled (VpiSimulator.Over (VpiHost.Skips before inner)) (call first) (call second) := by
  cases hosts with
  | intro handles skips =>
    cases skips with
    | armed armed =>
      cases armed with
      | @intro host since quiet =>
        obtain ⟨answer, found, next, added, passing, same⟩ := heedless handles host
        rw [same, same, List.append_assoc]
        refine .intro answer (.intro found (.armed (.intro next fun member => ?_)))
        exact (List.mem_append.1 member).elim quiet passing
    | finished quiet apart =>
      cases apart with
      | intro host back =>
        obtain ⟨answer, found, next, added, _, same⟩ := heedless handles host
        have goes (calls : List VpiCall) : call ⟨handles, host.withCalls calls⟩ =
            (answer, ⟨found, (next.arm host.duringFinish).withCalls (calls ++ added)⟩) :=
          same host.duringFinish calls
        rw [goes, goes, List.append_assoc, List.append_assoc]
        exact .intro answer (.intro found (.finished quiet (.intro _ _)))

end Heedless

namespace VpiSimulator

variable {before : List VpiCall} {inner : List Reentry} {first second : VpiSimulator}

/-- Ending the run is where the calls are skipped. -/
theorem over_finish (hosts : Over (VpiHost.Skips before inner) first second) :
    Over (VpiHost.Skips before inner) first.finish second.finish := by
  have finished (handles : List (String × Handle)) (host : VpiHost) :
      (VpiSimulator.mk handles host).finish = ⟨handles, (host.arm []).withCalls
        (host.calls ++ .ending :: List.replicate host.duringFinish.length (.reentered 0))⟩ := by
    simp [finish, VpiHost.skip_eq, VpiHost.control, VpiHost.note, VpiHost.withCalls, VpiHost.arm]
  cases hosts with
  | intro handles skips =>
    rw [finished, finished]
    refine .intro handles ?_
    cases skips with
    | armed armed =>
      cases armed with
      | @intro host since quiet =>
        have apart : VpiHost.Apart (VpiHost.ended before since inner.length)
            (VpiHost.ended before since 0) _ _ := .intro (host.arm []) []
        simp only [VpiHost.ended, List.append_nil, List.replicate_zero] at apart
        exact .finished quiet apart
    | finished quiet apart =>
      cases apart with
      | intro host back =>
        refine .finished quiet ?_
        have joined (calls more : List VpiCall) :
            (host.withCalls (calls ++ back)).calls ++ more = calls ++ (back ++ more) :=
          List.append_assoc calls back more
        rw [joined, joined]
        exact .intro (host.arm []) _

/-- **Two simulators of which one is called into while the run is being ended** cannot be told apart
by their calls. -/
theorem couples_skips (before : List VpiCall) (inner : List Reentry) (quiet : Bool) :
    Host.Couples quiet quiet (Run.Regardless (Over (VpiHost.Skips before inner))) where
  answers _ :=
    { lookup := fun path hosts => (heedless_lookup path).coupled hosts
      read := fun handle path hosts => (heedless_read handle path).coupled hosts
      write := fun handle path value mode hosts => (heedless_write handle path value mode).coupled hosts
      release := fun handle path hosts => (heedless_release handle path).coupled hosts
      time := fun hosts => heedless_time.coupled hosts }
  print line hosts := ((heedless_print line).coupled hosts).state
  inform line hosts := by
    cases quiet with
    | true => exact hosts
    | false => exact ((heedless_print line).coupled hosts).state
  finish hosts := over_finish hosts
  alert _ hosts := hosts
  register registration hosts := (heedless_register registration).coupled hosts
  dial path hosts := by
    have reached {first second : VpiHost} (skips : VpiHost.Skips before inner first second) :
        first.directory = second.directory := by
      cases skips with
      | armed armed => cases armed; rfl
      | finished _ apart => cases apart; rfl
    cases hosts with
    | @intro handles first second skips =>
      show Coupled _ (first.directory.dial path, _) (second.directory.dial path, _)
      rw [reached skips]
      exact .intro _ (.intro handles skips)

end VpiSimulator

/-! ## Two processes -/

namespace Plugin

/-- Two processes whose bridges are spent.  They differ in the front of their records and in how far
their bridges know the simulation to have come. -/
inductive Spent (front other : List VpiCall) : Plugin → Plugin → Prop where
  | intro (bridge : Bridge) (handles : List (String × Handle)) {phase also : Phase}
      {first second : VpiHost} : VpiHost.Apart front other first second →
      Bridge.Spent { bridge with phase } → Bridge.Spent { bridge with phase := also } →
      Spent front other ⟨first, some ⟨{ bridge with phase }, handles⟩⟩
        ⟨second, some ⟨{ bridge with phase := also }, handles⟩⟩

/-- A call of a spent bridge returns success and leaves the host alone. -/
theorem withBridge_of_spent {bridge : Bridge} (spent : bridge.Spent)
    (handles : List (String × Handle)) (host : VpiHost) (entry : EntryPoint) :
    (Plugin.mk host (some ⟨bridge, handles⟩)).withBridge (·.invoke entry) =
      (.success, ⟨host, some ⟨{ bridge with phase := bridge.phase.next entry }, handles⟩⟩) := by
  have called : (Run.mk bridge (VpiSimulator.mk handles host)).invoke entry =
      (.success, ⟨{ bridge with phase := bridge.phase.next entry }, ⟨handles, host⟩⟩) :=
    Run.invoke_of_spent spent entry
  simp only [withBridge, called, ofRun]

theorem answer_of_spent {bridge : Bridge} (spent : bridge.Spent)
    (handles : List (String × Handle)) (host : VpiHost) (reentry : Reentry) :
    ∃ phase, (Plugin.mk host (some ⟨bridge, handles⟩)).answer reentry =
        (.success, ⟨host, some ⟨{ bridge with phase }, handles⟩⟩) ∧
      Bridge.Spent { bridge with phase } := by
  have invoked (entry : EntryPoint) :
      ∃ phase, (Plugin.mk host (some ⟨bridge, handles⟩)).withBridge (·.invoke entry) =
          (.success, ⟨host, some ⟨{ bridge with phase }, handles⟩⟩) ∧
        Bridge.Spent { bridge with phase } :=
    ⟨_, withBridge_of_spent spent handles host entry, spent.next entry⟩
  cases reentry with
  | service => exact invoked .service
  | callback code =>
    simp only [answer, callback]
    split
    · exact invoked _
    · exact ⟨bridge.phase, rfl, spent⟩

/-- **Spent bridges cannot be told apart.** -/
theorem couples_spent (front other : List VpiCall) : Couples (Spent front other) where
  vacant spent := by
    cases spent
    simp
  duringPrint spent := by
    cases spent with
    | intro bridge handles apart => cases apart; rfl
  told spent := by
    cases spent with
    | intro bridge handles apart => cases apart; rfl
  note _ spent := by
    cases spent with
    | intro bridge handles apart spent also => exact .intro bridge handles (apart.note _) spent also
  unprint spent := by
    cases spent with
    | intro bridge handles apart spent also =>
      cases apart with
      | intro host back => exact .intro bridge handles (.intro { host with duringPrint := [] } back) spent also
  invoke entry spent := by
    cases spent with
    | intro bridge handles apart spent also =>
      rw [withBridge_of_spent spent, withBridge_of_spent also]
      exact .intro _ (.intro bridge handles apart (spent.next entry) (also.next entry))
  announce spent vacant := by cases spent; cases vacant
  bootstrap spent vacant := by cases spent; cases vacant

end Plugin

/-! ## Bridges that may end the run -/

namespace Run

open VpiSimulator (Adds confines_adds)

variable {run : Run VpiSimulator}

/-- A call leaves its bridge spent, or it has not ended the run. -/
theorem adds_or_spent_invoke (coherent : run.bridge.Coherent) (entry : EntryPoint) :
    Adds run.host (run.invoke entry).2.host ∨ (run.invoke entry).2.bridge.Spent := by
  have called := reached_or_spent_invoke confines_adds (fun host _ => Adds.refl host)
    (fun host ticks => (VpiSimulator.heedless_register ⟨.afterDelay ticks, .resume⟩).adds host)
    coherent entry
  rwa [run.host_dialled, ite_self] at called

theorem adds_or_spent_bootstrap (coherent : run.bridge.Coherent) :
    Adds run.host run.bootstrap.2.host ∨ run.bootstrap.2.bridge.Spent := by
  have asked := (VpiSimulator.heedless_register ⟨.endOfSimulation, .shutdown⟩).adds run.host
  change Adds run.host (Scheduler.register run.host ⟨.endOfSimulation, .shutdown⟩).2 at asked
  rcases run.bootstrap_cases with ⟨error, host, registered, same⟩ | ⟨ledger, host, registered, same⟩
  · rw [registered] at asked
    rw [same]
    exact .inl (asked.trans (confines_adds.print host _))
  · rw [registered] at asked
    rw [same]
    let registered : Run VpiSimulator := ⟨{ run.bridge with ledger }, host⟩
    have still : registered.bridge.Coherent := coherent.of_same rfl rfl rfl
    exact (adds_or_spent_invoke still .startup).imp_left asked.trans

theorem coherent_announce {run : Run VpiSimulator} (coherent : run.bridge.Coherent) :
    (Plugin.announce run).2.bridge.Coherent := by
  have registered := coherent_after coherent .register
  change run.registerCallbacks.2.bridge.Coherent at registered
  unfold Plugin.announce
  generalize run.registerCallbacks = done at registered
  obtain ⟨result, next⟩ := done
  cases result <;> exact registered

theorem adds_announce (run : Run VpiSimulator) : Adds run.host (Plugin.announce run).2.host := by
  have registered := reached_registerAll confines_adds
    (fun host registration => (VpiSimulator.heedless_register registration).adds host) run
    [(.startOfSimulation, .startup), (.endOfSimulation, .shutdown),
      (.systemTask run.bridge.configuration.serviceTask, .service)]
  change Adds run.host run.registerCallbacks.2.host at registered
  unfold Plugin.announce
  generalize run.registerCallbacks = done at registered
  obtain ⟨result, next⟩ := done
  cases result with
  | ok => exact registered
  | error error => exact registered.trans (confines_adds.print next.host _)

end Run

namespace Plugin

/-- Two processes, of which one is called into while the run is being ended.  Until then they differ
in nothing else, and then their bridges are spent. -/
inductive Skips (before : List VpiCall) (inner : List Reentry) : Plugin → Plugin → Prop where
  | armed (installed : Option Installation) {first second : VpiHost} :
      VpiHost.Armed before inner first second →
      (∀ installation, installed = some installation → installation.bridge.Coherent) →
      Skips before inner ⟨first, installed⟩ ⟨second, installed⟩
  | finished {front : List VpiCall} {first second : Plugin} : VpiCall.ending ∉ front →
      Spent (VpiHost.ended before front inner.length) (VpiHost.ended before front 0) first second →
      Skips before inner first second

variable {before : List VpiCall} {inner : List Reentry}

/-- Two runs of the same bridge, when control is back with the simulators: the run was not ended, or
the bridge is spent. -/
theorem skips_of_same {first second : Run VpiSimulator}
    (same : Run.Same (VpiSimulator.Over (VpiHost.Skips before inner)) first second)
    (coherent : second.bridge.Coherent)
    (outcome : (∃ since, VpiCall.ending ∉ since ∧ second.host.host.calls = before ++ since) ∨
      second.bridge.Spent) : Skips before inner (ofRun first) (ofRun second) := by
  cases same with
  | intro bridge hosts =>
    cases hosts with
    | intro handles skips =>
      cases skips with
      | armed armed =>
        refine .armed (some ⟨bridge, handles⟩) armed ?_
        rintro _ ⟨⟩
        exact coherent
      | @finished front quiet apart =>
        rcases outcome with ⟨since, passing, record⟩ | spent
        · cases apart with
          | intro host back =>
            have ends : VpiCall.ending ∈ since := by
              have joined : before ++ since = before ++ (front ++ .ending :: back) := by
                rw [← record]
                simp [VpiHost.withCalls, VpiHost.ended]
              rw [List.append_cancel_left joined]
              simp
            exact absurd ends passing
        · exact .finished quiet (.intro bridge handles apart spent spent)

theorem same_of_armed (bridge : Bridge) (handles : List (String × Handle)) {first second : VpiHost}
    (armed : VpiHost.Armed before inner first second) :
    Run.Same (VpiSimulator.Over (VpiHost.Skips before inner)) ⟨bridge, ⟨handles, first⟩⟩
      ⟨bridge, ⟨handles, second⟩⟩ :=
  .intro bridge (.intro handles (.armed armed))

/-- The same, for what calls of the two bridges have returned. -/
theorem coupled_of_same {first second : HostStatus × Run VpiSimulator}
    (called : Coupled (Run.Same (VpiSimulator.Over (VpiHost.Skips before inner))) first second)
    (coherent : second.2.bridge.Coherent) {host other : VpiHost}
    (armed : VpiHost.Armed before inner other host) {handles : List (String × Handle)}
    (outcome : VpiSimulator.Adds ⟨handles, host⟩ second.2.host ∨ second.2.bridge.Spent) :
    Coupled (Skips before inner) (first.1, ofRun first.2) (second.1, ofRun second.2) := by
  rw [called.value]
  refine .intro _ (skips_of_same called.state coherent (outcome.imp_left fun adds => ?_))
  obtain ⟨added, passing, same⟩ := adds
  cases armed with
  | @intro host since quiet =>
    refine ⟨since ++ added, fun member => (List.mem_append.1 member).elim quiet passing, ?_⟩
    rw [same, ← List.append_assoc]
    rfl

/-- **Two processes of which one is called into while the run is being ended** go the same way. -/
theorem couples_skips (before : List VpiCall) (inner : List Reentry) :
    Couples (Skips before inner) where
  vacant skips := by
    cases skips with
    | armed => rfl
    | finished _ spent => exact (couples_spent _ _).vacant spent
  duringPrint skips := by
    cases skips with
    | armed installed armed => cases armed; rfl
    | finished _ spent => exact (couples_spent _ _).duringPrint spent
  told skips := by
    cases skips with
    | armed installed armed => cases armed; rfl
    | finished _ spent => exact (couples_spent _ _).told spent
  note passing skips := by
    cases skips with
    | armed installed armed coherent => exact .armed installed (armed.note passing) coherent
    | finished quiet spent => exact .finished quiet ((couples_spent _ _).note passing spent)
  unprint skips := by
    cases skips with
    | armed installed armed coherent =>
      cases armed with
      | intro host quiet => exact .armed installed (.intro { host with duringPrint := [] } quiet) coherent
    | finished quiet spent => exact .finished quiet ((couples_spent _ _).unprint spent)
  invoke entry skips := by
    cases skips with
    | armed installed armed coherent =>
      cases installed with
      | none => exact .intro _ (.armed none armed coherent)
      | some installation =>
        have same := same_of_armed installation.bridge installation.handles armed
        have sound : installation.bridge.Coherent := coherent installation rfl
        exact coupled_of_same (Run.same_invoke (VpiSimulator.couples_skips before inner) same entry)
          (Run.coherent_invoke sound entry) armed (Run.adds_or_spent_invoke sound entry)
    | finished quiet spent =>
      exact ((couples_spent _ _).invoke entry spent).imp (.finished quiet)
  announce skips vacant configuration invocation := by
    cases skips with
    | armed installed armed =>
      have same := same_of_armed (.load configuration invocation) [] armed
      have sound : (Bridge.load configuration invocation).Coherent := .of_idle rfl
      exact (coupled_of_same (Run.same_announce (VpiSimulator.couples_skips before inner) same)
        (Run.coherent_announce sound) armed (.inl (Run.adds_announce _))).state
    | finished _ spent => cases spent; cases vacant
  bootstrap skips vacant configuration invocation := by
    cases skips with
    | armed installed armed =>
      have same := same_of_armed (.load configuration invocation) [] armed
      have sound : (Bridge.load configuration invocation).Coherent := .of_idle rfl
      exact coupled_of_same (Run.same_bootstrap (VpiSimulator.couples_skips before inner) same)
        (Run.coherent_after sound .bootstrap) armed (Run.adds_or_spent_bootstrap sound)
    | finished _ spent => cases spent; cases vacant

end Plugin

/-! ## What the simulator sees -/

/-- A call into the library that arrives again from within one. -/
def Reentry.call : Reentry → Plugin.Call
  | .service => .service
  | .callback code => .callback (some code)

/-- What a simulator sees of a step: what it is returned, which calls are made to it meanwhile, and
the connection as it stands behind the step, with all that was read from it and written to it and with
the times that it was shut down. -/
structure Observation where
  returned : Option HostStatus
  calls : List VpiCall
  connection : Option Connection
  deriving DecidableEq, Repr

namespace Plugin

/-- The connection to the controller, if there is or was one. -/
def connection? (plugin : Plugin) : Option Connection :=
  plugin.installed.bind (·.bridge.link.connection?)

/-- What a step returns. -/
def returned (plugin : Plugin) : Step → Option HostStatus
  | .call call => (plugin.call call).1
  | .rescript _ | .channel _ => none

/-- What the simulator sees of a step. -/
def observed (plugin : Plugin) (step : Step) : Observation where
  returned := plugin.returned step
  calls := (plugin.after step).host.calls.drop plugin.host.calls.length
  connection := (plugin.after step).connection?

/-- What the simulator sees of a row of steps. -/
def observe (plugin : Plugin) : List Step → List Observation
  | [] => []
  | step :: steps => plugin.observed step :: (plugin.after step).observe steps

section Spent

variable {front other : List VpiCall} {first second : Plugin} (spent : Spent front other first second)
include spent

theorem connection?_of_spent : first.connection? = second.connection? := by
  cases spent
  rfl

theorem spent_after (step : Step) :
    first.returned step = second.returned step ∧
      Spent front other (first.after step) (second.after step) := by
  cases step with
  | call call =>
    have called := coupled_call (couples_spent front other) spent call
    exact ⟨called.value, called.state⟩
  | rescript change =>
    refine ⟨rfl, ?_⟩
    cases spent with
    | intro bridge handles apart spent also =>
      cases apart with
      | intro host back =>
        exact .intro bridge handles (.intro (host.rescript change) back) spent also
  | channel change =>
    refine ⟨rfl, ?_⟩
    cases spent with
    | intro bridge handles apart spent also =>
      have session := Link.session?_mapChannel bridge.link change
      exact .intro { bridge with link := bridge.link.mapChannel change } handles apart
        (spent.of_same session rfl) (also.of_same session rfl)

/-- A step adds the same to both records. -/
theorem observed_of_spent (step : Step) : first.observed step = second.observed step := by
  obtain ⟨returned, after⟩ := spent_after spent step
  have added : (first.after step).host.calls.drop first.host.calls.length =
      (second.after step).host.calls.drop second.host.calls.length := by
    have behind (calls back added : List VpiCall) :
        (calls ++ added).drop (calls ++ back).length = added.drop back.length := by
      rw [List.length_append, List.drop_length_add_append]
    clear returned
    generalize first.after step = next at after
    generalize second.after step = also at after
    cases spent with
    | intro _ _ apart =>
      cases apart with
      | intro host back =>
        cases after with
        | intro _ _ apart =>
          cases apart with
          | intro next added => exact (behind front back added).trans (behind other back added).symm
  simp only [observed, returned, added, connection?_of_spent after]

/-- **Spent bridges look the same**, whatever happens to them. -/
theorem observe_of_spent (steps : List Step) : first.observe steps = second.observe steps := by
  induction steps generalizing first second with
  | nil => rfl
  | cons step steps ih =>
    rw [observe, observe, observed_of_spent spent, ih (spent_after spent step).2]

theorem call_of_spent (reentry : Reentry) :
    ∃ next, second.call reentry.call = (some .success, next) ∧ next.host = second.host ∧
      next.connection? = second.connection? ∧ Spent front other first next := by
  have answers : second.call reentry.call =
      (some (second.answer reentry).1, (second.answer reentry).2) := by
    cases reentry <;> rfl
  rw [answers]
  cases spent with
  | @intro bridge handles phase also first second apart spent others =>
    obtain ⟨phase, answered, still⟩ := answer_of_spent others handles second reentry
    rw [answered]
    exact ⟨_, rfl, rfl, rfl, .intro bridge handles apart spent still⟩

/-- **Calls of a spent bridge** return success and do nothing that the simulator sees. -/
theorem deliver_of_spent (inner : List Reentry) :
    second.observe (inner.map fun reentry => .call reentry.call) =
        List.replicate inner.length ⟨some .success, [], second.connection?⟩ ∧
      Spent front other first (second.follow (inner.map fun reentry => .call reentry.call)) := by
  induction inner generalizing second with
  | nil => exact ⟨rfl, spent⟩
  | cons reentry inner ih =>
    obtain ⟨next, answered, same, connection, still⟩ := call_of_spent spent reentry
    obtain ⟨seen, last⟩ := ih still
    have after : second.after (.call reentry.call) = next := congrArg Prod.snd answered
    have observed : second.observed (.call reentry.call) =
        ⟨some .success, [], second.connection?⟩ := by
      simp [Plugin.observed, returned, after, answered, same, connection]
    refine ⟨?_, ?_⟩
    · rw [List.map_cons, observe, observed, after, seen, connection, List.length_cons,
        List.replicate_succ]
    · rw [List.map_cons, follow, List.foldl_cons, after]
      exact last

end Spent

/-- To skip calls is what the entry points do while the bridge is not in its place. -/
theorem foldl_reenter_vacant (host : VpiHost) (inner : List Reentry) :
    inner.foldl reenter ⟨host, none⟩ = ⟨host.skip inner, none⟩ := by
  induction inner generalizing host with
  | nil => rfl
  | cons reentry inner ih =>
    have skipped : (Plugin.mk host none).reenter reentry = ⟨host.note (.reentered 0), none⟩ := by
      cases reentry with
      | service => rfl
      | callback code =>
        rw [reenter_eq]
        simp only [answer, callback]
        split <;> rfl
    rw [List.foldl_cons, skipped, ih]
    rfl

/-- **Calls that are skipped while the run is being ended are not missed.**  A process has gone through
any row of steps, and then something is called in it.  In one case the simulator calls into the
library while that call ends the run, and in the other it makes the same calls one after the other
when the call has returned.  To skip them is what the entry points do while the bridge, which is busy,
is not in its place.

Either the call does not end the run, and then it goes the same way in both cases.  Or it ends the
run, and then both return the same.  In the first case the record shows, behind the end of the run,
that each of the calls has returned success before anything else was called, and apart from these
returns the records, the simulators and the connections are the same.  In the second case each call
returns success, calls nothing and leaves the connection alone.  From then on the simulator sees the
same in both cases, whatever happens: what it is returned, which calls are made to it, and what is
read from the connection, written to it and done to shut it down. -/
theorem skipping_loses_nothing (script : VpiHost) (steps : List Step) (outer : Call)
    (inner : List Reentry) :
    let plugin := (Plugin.loaded (VpiHost.idle.rescript fun _ => script)).follow steps
    let skipping := (plugin.onHost (·.arm inner)).call outer
    let finishing := (plugin.onHost (·.arm [])).call outer
    let row := inner.map fun reentry => Step.call reentry.call
    (∀ host, inner.foldl reenter ⟨host, none⟩ = ⟨host.skip inner, none⟩) ∧
    skipping.1 = finishing.1 ∧
    ((∃ since, VpiCall.ending ∉ since ∧ finishing.2.host.calls = plugin.host.calls ++ since ∧
        skipping.2 = finishing.2.onHost (·.arm inner)) ∨
      ∃ front back, VpiCall.ending ∉ front ∧
        finishing.2.host.calls = plugin.host.calls ++ front ++ .ending :: back ∧
        skipping.2.host = finishing.2.host.withCalls (plugin.host.calls ++ front ++
          .ending :: (List.replicate inner.length (.reentered 0) ++ back)) ∧
        skipping.2.connection? = finishing.2.connection? ∧
        finishing.2.observe row =
          List.replicate inner.length ⟨some .success, [], finishing.2.connection?⟩ ∧
        ∀ later, skipping.2.observe later = (finishing.2.follow row).observe later) := by
  intro plugin skipping finishing row
  have skips : Skips plugin.host.calls inner (plugin.onHost (·.arm inner))
      (plugin.onHost (·.arm [])) := by
    have quiet : VpiCall.ending ∉ ([] : List VpiCall) := List.not_mem_nil
    have armed : VpiHost.Armed plugin.host.calls inner
      ((plugin.host.arm inner).withCalls (plugin.host.calls ++ [])) _ := .intro plugin.host quiet
    rw [List.append_nil] at armed
    exact .armed plugin.installed armed (coherent_follow script steps)
  have called := coupled_call (couples_skips plugin.host.calls inner) skips outer
  refine ⟨fun host => foldl_reenter_vacant host inner, called.value, ?_⟩
  have state : Skips plugin.host.calls inner skipping.2 finishing.2 := called.state
  generalize skipping.2 = first at state ⊢
  generalize finishing.2 = second at state ⊢
  cases state with
  | armed installed armed =>
    cases armed with
    | @intro host since quiet => exact .inl ⟨since, quiet, rfl, rfl⟩
  | @finished front _ _ quiet spent =>
    obtain ⟨seen, delivered⟩ := deliver_of_spent spent inner
    have same := connection?_of_spent spent
    refine .inr ?_
    cases spent with
    | intro bridge handles apart =>
      cases apart with
      | intro host back =>
        refine ⟨front, back, quiet, ?_, ?_, same, seen, observe_of_spent delivered⟩
        · simp [VpiHost.withCalls, VpiHost.ended]
        · simp [VpiHost.withCalls, VpiHost.ended]

end Plugin

end Cosimulation
