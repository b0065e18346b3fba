import Cosimulation.Proofs.Bridge.Run
/-!
# Draining is serving one by one

A bridge that drains serves in one call what a bridge that serves one command in a call serves in
several: the first call and then so many calls for service.  The two bridges differ in their mode only
(`inMode`), and nothing but the taking of turns looks at the mode (`settle_inMode`).  Draining goes on
as long as turns serve commands, each of which takes a frame; a turn that serves none leaves the
bridge at rest (`AtRest`), where surplus calls for service do nothing (`services_of_atRest`).
-/

namespace Cosimulation

set_option autoImplicit false

variable {σ : Type} [Host σ]

namespace Run

/-! ## The mode of a run -/

omit [Host σ] in
/-- The run of a bridge that is the same but for its mode. -/
def inMode (run : Run σ) (mode : DispatchMode) : Run σ :=
  { run with bridge.configuration.mode := mode }

omit [Host σ] in
/-- Putting the live session back in its place changes nothing. -/
theorem restore_self {run : Run σ} {dispatcher : Dispatcher} {connection : Connection}
    (live : run.bridge.link = .live dispatcher connection) :
    run.restore ⟨dispatcher, connection, run.host⟩ = run := by
  unfold restore
  rw [← live]

/-- No session is live, or it is open and suspended: service has nothing to do. -/
def AtRest (run : Run σ) : Prop :=
  ∀ dispatcher, run.bridge.session? = some dispatcher →
    dispatcher.closeReason = none ∧ dispatcher.pending ≠ none

omit [Host σ] in
/-- A bridge whose session is suspended is at rest. -/
theorem atRest_of_suspended {run : Run σ} (coherent : run.bridge.Coherent) {dispatcher : Dispatcher}
    (live : run.bridge.session? = some dispatcher) (waiting : dispatcher.pending ≠ none) :
    run.AtRest := by
  intro other also
  obtain rfl := Option.some.inj (live.symm.trans also)
  exact ⟨coherent.opened _ live, waiting⟩

/-- **At rest, a call for service does nothing.** -/
theorem service_of_atRest {run : Run σ} (rest : run.AtRest) : run.service = (.success, run) := by
  rcases run.live_or_idle with ⟨dispatcher, connection, live⟩ | idle
  · obtain ⟨opened, waiting⟩ := rest dispatcher (session?_of_live live)
    have turn : firstTurn false ⟨dispatcher, connection, run.host⟩ =
        (.suspended, ⟨dispatcher, connection, run.host⟩) :=
      Exchange.cycle_of_suspended opened waiting
    unfold service
    rw [run.pump_of_live live, turns_of_stopped _ (by rw [turn]; nofun), turn, restore_self live]
    rfl
  · exact run.pump_of_idle idle false

/-- What a call of the bridge that drains has done, a row of calls of the other one has done too. -/
structure Quiesces (drained : HostStatus × Run σ) (calls : List HostStatus × Run σ) : Prop where
  same : calls.2.inMode .drain = drained.2
  fatal : drained.1 = .fatal ↔ .fatal ∈ calls.1
  once : calls.1.count .fatal ≤ 1

omit [Host σ] in
theorem Quiesces.behind {drained : HostStatus × Run σ} {calls : List HostStatus × Run σ}
    (quiesces : Quiesces drained calls) : Quiesces drained (.success :: calls.1, calls.2) where
  same := quiesces.same
  fatal := by simpa using quiesces.fatal
  once := by simpa using quiesces.once

/-- The payloads of the complete frames that are still to be read by the session on which an entry
point takes turns. -/
def ahead (run : Run σ) (entry : EntryPoint) : List (List UInt8) :=
  match run.engaged entry with
  | some (_, serving) =>
    match serving.bridge.link with
    | .live _ connection => connection.channel.frames
    | _ => []
  | none => []

end Run

end Cosimulation
