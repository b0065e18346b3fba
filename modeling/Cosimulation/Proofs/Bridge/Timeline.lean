import Cosimulation.Proofs.Bridge.Run
import Cosimulation.Proofs.Session.Conversation
/-!
# Timelines

A host in memory calls the bridge when it likes: at the start and the end, for service, and when a
delay that it has accepted is over.  Between two calls its clock goes forward and everything else of
it may change, but for the record of what it has accepted; and the controller's end of the channel
may do what it likes.  A `Timeline` is such a run of a bridge, together with what an observer notes
down of it: the delays that were accepted and have not fired, the commands that were decoded and the
responses that were written, each with the call in which it was.

What a call decodes is read off the turns that it takes (`turnEvents`, `run_turnEvents`), and what it
answers off the bytes that it writes.
-/

namespace Cosimulation

set_option autoImplicit false

namespace Run

/-! ## What is decoded and written in a call -/

section Calls

variable {σ : Type} [Host σ]

/-- The turns of a call as events of the session: in drain mode there are no more of them than frames
still to be read, behind the first. -/
def turnEvents (mode : DispatchMode) (resuming : Bool) (exchange : Exchange σ) : List (Event σ) :=
  (if resuming then .resume else .cycle) ::
    match mode with
    | .single => []
    | .drain => List.replicate exchange.connection.channel.frames.length .cycle

/-- **The turns of a call are those events.** -/
theorem run_turnEvents (mode : DispatchMode) (resuming : Bool) (exchange : Exchange σ) :
    exchange.run (turnEvents mode resuming exchange) = (turns mode resuming exchange).2 := by
  have first (events : List (Event σ)) :
      exchange.run ((if resuming then .resume else .cycle) :: events) =
        (firstTurn resuming exchange).2.run events := by
    cases resuming <;> rfl
  unfold turnEvents
  rw [first]
  cases mode with
  | single => rfl
  | drain =>
    dsimp only
    by_cases served : (firstTurn resuming exchange).1 = .served
    · have turn : firstTurn resuming exchange = (.served, (firstTurn resuming exchange).2) :=
        Prod.ext served rfl
      rw [turns_drain_of_served turn, frames_of_firstTurn turn]
      exact Exchange.run_cycles_eq_drain _ (Nat.le_refl _)
    · have resting := Exchange.resting_of_leaves (leaves_firstTurn resuming exchange) served
      rw [turns_of_stopped .drain served]
      exact (Exchange.run_cycles_of_resting resting _).1

/-- The commands that the call of an entry point decodes. -/
def decoded (run : Run σ) (entry : EntryPoint) : List Command :=
  match run.engaged entry with
  | some (resuming, serving) =>
    match serving.bridge.link with
    | .live dispatcher connection =>
      let exchange := Exchange.mk dispatcher connection serving.host
      exchange.heard (turnEvents serving.bridge.configuration.mode resuming exchange)
    | _ => []
  | none => []

/-- The bytes that were written before the call of an entry point, or before it established the
connection. -/
def writtenBefore (run : Run σ) (entry : EntryPoint) : List UInt8 :=
  match run.engaged entry with
  | some (_, serving) => serving.bridge.link.written
  | none => run.bridge.link.written

/-- The responses that the call of an entry point writes. -/
def answered (run : Run σ) (entry : EntryPoint) : List Response :=
  let written := (run.invoke entry).2.bridge.link.written.drop (run.writtenBefore entry).length
  (Frame.split written).1.filterMap fun payload =>
    (Message.decode payload : Except ProtocolError Response).toOption

end Calls

end Run

/-! ## Timelines -/

/-- A delay that was accepted. -/
structure Delay where
  ticks : UInt64
  /-- When it was accepted. -/
  since : UInt64
  deriving DecidableEq, Repr

/-- A run of a bridge in a host in memory, and what was noted down of it. -/
structure Timeline where
  run : Run MemoryHost
  /-- The number of calls so far. -/
  calls : Nat
  /-- The delays that were accepted and have not fired, earliest first. -/
  unfired : List Delay
  commands : List (During Command)
  responses : List (During Response)

/-- What can happen next. -/
inductive Moment where
  /-- The lasting entry points are registered. -/
  | register
  /-- The simulation starts, in a host with a start routine or in one without. -/
  | startup
  | bootstrap
  | service
  /-- The delay in some place of the unfired ones fires, if it is over. -/
  | fire (place : Nat)
  | shutdown
  /-- The clock goes forward and everything else of the host changes, but for the record of what was
  accepted. -/
  | elapse (ticks : UInt64) (change : MemoryHost → MemoryHost)
  /-- Something happens on the channel of the live session. -/
  | channel (change : Channel → Channel)

namespace Timeline

/-- The timeline of a bridge that has just been loaded. -/
def load (configuration : Configuration) (invocation : Invocation) (host : MemoryHost) : Timeline :=
  ⟨⟨.load configuration invocation, host⟩, 0, [], [], []⟩

/-- The current time. -/
def clock (timeline : Timeline) : UInt64 := timeline.run.host.simulator.time

/-- The call of an entry point that is made next. -/
def next (timeline : Timeline) (entry : EntryPoint) : Call :=
  ⟨timeline.calls, entry, timeline.clock, timeline.run.host.recorder.rejected⟩

/-- The delays that the host has accepted in going from one run to another. -/
def accepted (before after : Run MemoryHost) : List UInt64 :=
  ((after.host.recorder.log.drop before.host.recorder.log.length).filterMap Recorder.delay?).map
    Prod.fst

/-- Calls an entry point and notes down what comes of it. -/
def call (timeline : Timeline) (entry : EntryPoint) : Timeline :=
  let run := timeline.run
  let after := (run.invoke entry).2
  let call := timeline.next entry
  { run := after
    calls := timeline.calls + 1
    unfired := timeline.unfired ++ (accepted run after).map (⟨·, call.clock⟩)
    commands := timeline.commands ++ (run.decoded entry).map (⟨call, ·⟩)
    responses := timeline.responses ++ (run.answered entry).map (⟨call, ·⟩) }

/-- The timeline after something has happened. -/
def after (timeline : Timeline) : Moment → Timeline
  | .register => { timeline with run := timeline.run.registerCallbacks.2 }
  | .startup => timeline.call .startup
  | .bootstrap =>
    match timeline.run.register .endOfSimulation .shutdown with
    | (.ok (), run) => { timeline with run }.call .startup
    | (.error _, _) => { timeline with run := timeline.run.bootstrap.2 }
  | .service => timeline.call .service
  | .fire place =>
    match timeline.unfired[place]? with
    | some delay =>
      if timeAfter delay.since delay.ticks ≤ timeline.clock then
        { timeline with unfired := timeline.unfired.eraseIdx place }.call .resume
      else timeline
    | none => timeline
  | .shutdown => timeline.call .shutdown
  | .elapse ticks change =>
    let changed := change timeline.run.host
    { timeline with
      run.host := { changed with
        simulator.time := timeAfter timeline.clock ticks
        recorder.log := timeline.run.host.recorder.log } }
  | .channel change => { timeline with run.bridge.link := timeline.run.bridge.link.mapChannel change }

/-- The timeline after everything that has happened. -/
def follow (timeline : Timeline) (moments : List Moment) : Timeline :=
  moments.foldl after timeline

end Timeline

end Cosimulation
