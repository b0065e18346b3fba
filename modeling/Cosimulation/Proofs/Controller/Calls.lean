import Cosimulation.Proofs.Controller.Dialogue
import Cosimulation.Proofs.Frame.Directions
/-!
# The calls of a dialogue

A dialogue takes a call apart: the command is sent in one step and the response collected in a later
one, and in between bytes arrive and the session may go.  Still it is a call.  Nothing changes for the
controller if what arrives in between has arrived before the command is sent (`send_deliver`), or if
the session goes only when the response has been collected (`collect_hangUp`), and then the two halves
stand side by side and make up `Controller.call` (`call_eq`).

`Controller.Makes` is the row of calls that a controller makes one after the other, without any
dialogue: bytes arrive and the session goes between two calls only.  Every dialogue has come about by
such a row (`CalledBy.steps`), in which its calls have the results that it remembers, and which leaves
the controller as the dialogue does.
-/

namespace Cosimulation

set_option autoImplicit false

/-! ## The halves of a call, and what comes between them -/

namespace Connection

/-- A frame may be written before more bytes arrive or after it. -/
theorem writeFrame_deliver (connection : Connection) (bytes frame : List UInt8) :
    (connection.deliver bytes).writeFrame frame =
      Prod.map id (·.deliver bytes) (connection.writeFrame frame) := by
  unfold writeFrame deliver
  dsimp only
  split
  · rw [Frame.write_deliver]
    rfl
  · rfl

/-- The other end goes. -/
def hangUp (connection : Connection) : Connection :=
  { connection with channel := connection.channel.hangUp }

/-- A frame may be read before the other end goes or after it. -/
theorem readFrame_hangUp (connection : Connection) :
    connection.hangUp.readFrame = Prod.map id hangUp connection.readFrame := by
  unfold readFrame hangUp
  dsimp only
  split
  · rw [Frame.read_hangUp]
    rfl
  · rfl

end Connection

namespace Controller

/-- More bytes arrive at the controller. -/
def deliver (controller : Controller) (bytes : List UInt8) : Controller :=
  ⟨controller.connection.deliver bytes⟩

/-- The session goes. -/
def hangUp (controller : Controller) : Controller :=
  ⟨controller.connection.hangUp⟩

/-- **A command may be sent before more bytes arrive or after it.** -/
theorem send_deliver (controller : Controller) (bytes : List UInt8) (requestId : RequestId)
    (operation : Operation) :
    (controller.deliver bytes).send requestId operation =
      Prod.map id (·.deliver bytes) (controller.send requestId operation) := by
  unfold send sendRaw deliver
  split
  · rfl
  · dsimp only
    rw [Connection.writeFrame_deliver]
    generalize controller.connection.writeFrame _ = written
    obtain ⟨_ | _, _⟩ := written <;> rfl

/-- A response may be received before the session goes or after it. -/
theorem receive_hangUp (controller : Controller) :
    controller.hangUp.receive = Prod.map id hangUp controller.receive := by
  unfold receive hangUp
  dsimp only
  rw [Connection.readFrame_hangUp]
  generalize controller.connection.readFrame = read
  obtain ⟨_ | _ | payload, _⟩ := read
  · rfl
  · rfl
  · dsimp only [Prod.map, id]
    split <;> rfl

/-- **A response may be collected before the session goes or after it.** -/
theorem collect_hangUp (controller : Controller) (requestId : RequestId) :
    controller.hangUp.collect requestId = Prod.map id hangUp (controller.collect requestId) := by
  unfold collect
  rw [receive_hangUp]
  generalize controller.receive = received
  obtain ⟨_ | _ | response, _⟩ := received
  · rfl
  · rfl
  · dsimp only [Prod.map, id]
    split <;> rfl

/-! ## Rows of calls -/

/-- A controller makes calls one after the other, with the given results.  Between two calls, and
before the first and behind the last one, bytes arrive and the session may go. -/
inductive Makes (start : Controller) :
    List (Command × Except Error Response) → Controller → Prop where
  | nothing : Makes start [] start
  | call {finished : List (Command × Except Error Response)} {controller : Controller}
      (command : Command) : Makes start finished controller →
      Makes start
        (finished ++ [(command, (controller.call command.requestId command.operation).1)])
        (controller.call command.requestId command.operation).2
  | deliver {finished : List (Command × Except Error Response)} {controller : Controller}
      (bytes : List UInt8) : Makes start finished controller →
      Makes start finished (controller.deliver bytes)
  | hangUp {finished : List (Command × Except Error Response)} {controller : Controller} :
      Makes start finished controller → Makes start finished controller.hangUp

/-- A call that has been made, by its equation. -/
theorem Makes.called {start controller after : Controller} {command : Command}
    {finished : List (Command × Except Error Response)} {result : Except Error Response}
    (makes : start.Makes finished controller)
    (called : controller.call command.requestId command.operation = (result, after)) :
    start.Makes (finished ++ [(command, result)]) after := by
  have next := makes.call command
  rwa [called] at next

end Controller

namespace Dialogue

variable {σ : Type}

/-- How a dialogue has come about from the controller's side.  The calls that have come to an end were
made one after the other; if one more is under way, the controller is the one that has sent the
command of this call since, and the session may have gone in the meantime. -/
inductive CalledBy (start : Controller) (dialogue : Dialogue σ) : Prop where
  | between : dialogue.waiting = none → start.Makes dialogue.finished dialogue.controller →
      CalledBy start dialogue
  | during {command : Command} {caller sent : Controller} : dialogue.waiting = some command →
      start.Makes dialogue.finished caller →
      caller.send command.requestId command.operation = (.ok (), sent) →
      dialogue.controller = sent ∨ dialogue.controller = sent.hangUp → CalledBy start dialogue

namespace CalledBy

variable {start : Controller} {dialogue next : Dialogue σ}

/-- The controller that has made the calls; the call that waits would return what `collect` gives if
it were made by this controller. -/
theorem caller (called : dialogue.CalledBy start) :
    ∃ caller, start.Makes dialogue.finished caller ∧
      (dialogue.waiting = none → dialogue.controller = caller) ∧
      ∀ command, dialogue.waiting = some command →
        (dialogue.controller.collect command.requestId).1 =
          (caller.call command.requestId command.operation).1 := by
  cases called with
  | between free makes =>
    exact ⟨_, makes, fun _ => rfl, fun command calls => by cases free.symm.trans calls⟩
  | @during command caller sent calls makes sends now =>
    refine ⟨caller, makes, fun free => (by cases free.symm.trans calls), fun other same => ?_⟩
    cases calls.symm.trans same
    rw [Controller.call_eq, sends]
    rcases now with now | now
    · rw [now]
    · rw [now, Controller.collect_hangUp]
      rfl

/-- The calls are a matter of the controller's side alone. -/
theorem of_same (called : dialogue.CalledBy start) (waiting : next.waiting = dialogue.waiting)
    (finished : next.finished = dialogue.finished)
    (controller : next.controller = dialogue.controller) : next.CalledBy start := by
  cases called with
  | between free makes => exact .between (waiting.trans free) (by rwa [finished, controller])
  | during calls makes sends now =>
    exact .during (waiting.trans calls) (by rwa [finished]) sends (by rwa [controller])

theorem ask (called : dialogue.CalledBy start) (free : dialogue.waiting = none)
    (command : Command) : (dialogue.ask command).CalledBy start := by
  cases called with
  | during calls => cases free.symm.trans calls
  | between _ makes =>
    have call := Controller.call_eq dialogue.controller command.requestId command.operation
    unfold Dialogue.ask
    generalize sends : dialogue.controller.send command.requestId command.operation = sending
    rw [sends] at call
    obtain ⟨_ | _, controller⟩ := sending
    · exact .between free (makes.called call)
    · exact .during rfl makes sends (.inl rfl)

theorem collect (called : dialogue.CalledBy start) {command : Command}
    (calls : dialogue.waiting = some command) : (dialogue.collect command).CalledBy start := by
  cases called with
  | between free => cases free.symm.trans calls
  | @during other caller sent same makes sends now =>
    cases calls.symm.trans same
    have call : caller.call command.requestId command.operation =
        sent.collect command.requestId := by
      rw [Controller.call_eq, sends]
    have made := makes.called call
    refine .between rfl ?_
    unfold Dialogue.collect
    dsimp only
    rcases now with now | now
    · rw [now]
      exact made
    · rw [now, Controller.collect_hangUp]
      exact made.hangUp

theorem hangUp (called : dialogue.CalledBy start) : dialogue.hangUp.CalledBy start := by
  cases called with
  | between free makes => exact .between free makes.hangUp
  | during calls makes sends now =>
    -- going twice is going once
    refine .during calls makes sends (.inr ?_)
    change dialogue.controller.hangUp = _
    rcases now with now | now <;> rw [now]
    rfl

theorem carryDown (called : dialogue.CalledBy start) (count : Nat) :
    (dialogue.carryDown count).CalledBy start := by
  cases called with
  | between free makes => exact .between free (makes.deliver _)
  | @during command caller sent calls makes sends now =>
    have again := caller.send_deliver (dialogue.down.take count) command.requestId command.operation
    rw [sends] at again
    refine .during calls (makes.deliver _) again ?_
    change dialogue.controller.deliver _ = _ ∨ dialogue.controller.deliver _ = _
    rcases now with now | now <;> rw [now]
    · exact .inl rfl
    · exact .inr rfl

variable [Simulator σ]

theorem step (called : dialogue.CalledBy start) (step : dialogue.Step next) :
    next.CalledBy start := by
  cases step with
  | ask command free => exact called.ask free command
  | collect calls => exact called.collect calls
  | hangUp => exact called.hangUp
  | carryDown count => exact called.carryDown count
  | carryUp | alter | cycle | wake | shutdown => exact called.of_same rfl rfl rfl

/-- **The calls of a dialogue are calls of the controller**, whatever comes between them. -/
theorem steps (called : dialogue.CalledBy start) (steps : dialogue.Steps next) :
    next.CalledBy start := by
  induction steps with
  | refl => exact called
  | tail _ step ih => exact ih.step step

end CalledBy

end Dialogue

end Cosimulation
