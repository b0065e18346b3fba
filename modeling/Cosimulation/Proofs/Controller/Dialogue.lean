import Cosimulation.Controller
import Cosimulation.Proofs.Session.Closing
import Cosimulation.Proofs.Session.Effects
import Cosimulation.Proofs.Session.Oversize
import Mathlib.Logic.Relation
/-!
# Controller and session in dialogue

The controller and a session stand at the two ends of a connection.  What either writes is on its way
for a while and then arrives at the other end, in pieces of any size and in its order.  The
controller makes one call after the other; the host calls the session when it likes, and its state
changes in between.  A dialogue takes one of these steps after the other (`Dialogue.Step`).

Whoever reads a frame of which not everything has arrived waits for the rest, and nothing happens at
this end until it has come.  So a reading is a step only when it waits for nothing: when its result
is the same whatever else arrives (`Connection.Readable`).  The controller finds the end of the stream
when the session is closed and everything that it wrote has arrived.

A call has two halves, the sending of the command and the wait for the response (`Controller.call_eq`),
and so does resuming a session (`Exchange.resume_eq_cycle_wake`).  In a dialogue the halves are steps of
their own.
-/

namespace Cosimulation

set_option autoImplicit false

/-! ## A call in two halves -/

namespace Controller

/-- The second half of a call: waits for the response to the command that was sent. -/
def collect (controller : Controller) (id : RequestId) : Except Error Response × Controller :=
  match controller.receive with
  | (.error error, controller) => (.error error, controller)
  | (.ok none, controller) => (.error (.connection .closed), controller)
  | (.ok (some response), controller) =>
    if response.requestId = id then (.ok response, controller)
    else (.error (.protocol (.malformed (crossed response.requestId id))), controller)

/-- **A call sends the command and collects the response.** -/
theorem call_eq (controller : Controller) (id : RequestId) (operation : Operation) :
    controller.call id operation =
      match controller.send id operation with
      | (.error error, controller) => (.error error, controller)
      | (.ok (), controller) => controller.collect id := by
  unfold call
  generalize controller.send id operation = sent
  obtain ⟨_ | _, _⟩ := sent <;> rfl

end Controller

/-! ## What a session computes -/

namespace Exchange

variable {σ : Type} [Simulator σ]

/-- The command that the next cycle answers, and the response that it computes for it: what is due,
or its rejection if that is too long. -/
def computes? (exchange : Exchange σ) : Option (Command × Response) :=
  exchange.upcoming?.bind fun command =>
    (exchange.due? command).bind fun due =>
      if due.Fits exchange.dispatcher.limit then some (command, due)
      else if (rejection exchange.dispatcher.limit command due).Fits exchange.dispatcher.limit then
        some (command, rejection exchange.dispatcher.limit command due)
      else none

/-- The advance that waits, and the response that is computed for it when it is answered. -/
def owes? (exchange : Exchange σ) : Option (Command × Response) :=
  exchange.dispatcher.pending.map fun advance =>
    (⟨advance.requestId, .advance advance.ticks⟩,
      .ok advance.requestId (.time (Simulator.time exchange.simulator).1))

end Exchange

/-! ## The two ends -/

namespace Connection

/-- More bytes arrive. -/
def deliver (connection : Connection) (bytes : List UInt8) : Connection :=
  { connection with channel := connection.channel.deliver [.data bytes] }

/-- The next frame can be read without waiting: whatever else arrives, the result is the same. -/
def Readable (connection : Connection) : Prop :=
  ∀ bytes, (connection.deliver bytes).readFrame.1 = connection.readFrame.1

/-- The bytes that have been written to a connection since it was another one. -/
def writtenSince (connection before : Connection) : List UInt8 :=
  connection.channel.written.drop before.channel.written.length

end Connection

/-- A controller and a session, and what is on its way between them.  A dialogue remembers the calls
that have come to an end and the responses that the session has computed. -/
structure Dialogue (σ : Type) where
  controller : Controller
  exchange : Exchange σ
  /-- The bytes on their way to the session. -/
  up : List UInt8
  /-- The bytes on their way to the controller. -/
  down : List UInt8
  /-- The command of the call that waits for its response. -/
  waiting : Option Command
  /-- The calls that have come to an end. -/
  finished : List (Command × Except Error Response)
  /-- The responses that the session has computed. -/
  computed : List (Command × Response)

namespace Dialogue

variable {σ : Type}

/-- A dialogue at its beginning, over the two ends of a connection. -/
def begin (near far : Channel) (path peer : String) (simulator : σ) : Dialogue σ where
  controller := .accept ⟨path⟩ near
  exchange := .begin Frame.defaultLimit (.ofChannel far peer Frame.defaultLimit) simulator
  up := []
  down := []
  waiting := none
  finished := []
  computed := []

/-! ## Steps of the controller -/

/-- The controller begins a call.  If the command cannot be sent, the call is over at once. -/
def ask (dialogue : Dialogue σ) (command : Command) : Dialogue σ :=
  match dialogue.controller.send command.requestId command.operation with
  | (result, controller) =>
    let sent := { dialogue with
      controller
      up := dialogue.up ++ controller.connection.writtenSince dialogue.controller.connection }
    match result with
    | .ok () => { sent with waiting := some command }
    | .error error => { sent with finished := dialogue.finished ++ [(command, .error error)] }

/-- The controller ends a call. -/
def collect (dialogue : Dialogue σ) (command : Command) : Dialogue σ :=
  match dialogue.controller.collect command.requestId with
  | (result, controller) =>
    { dialogue with
      controller
      waiting := none
      finished := dialogue.finished ++ [(command, result)] }

/-- The controller notices that the session is gone: it cannot write any more. -/
def hangUp (dialogue : Dialogue σ) : Dialogue σ :=
  { dialogue with controller.connection.channel := dialogue.controller.connection.channel.hangUp }

/-! ## Steps of the connection -/

/-- So many bytes arrive at the session. -/
def carryUp (dialogue : Dialogue σ) (count : Nat) : Dialogue σ :=
  { dialogue with
    exchange.connection := dialogue.exchange.connection.deliver (dialogue.up.take count)
    up := dialogue.up.drop count }

/-- So many bytes arrive at the controller. -/
def carryDown (dialogue : Dialogue σ) (count : Nat) : Dialogue σ :=
  { dialogue with
    controller.connection := dialogue.controller.connection.deliver (dialogue.down.take count)
    down := dialogue.down.drop count }

/-! ## Steps of the host -/

/-- The state of the simulator changes: its clock goes on, or anything else. -/
def alter (dialogue : Dialogue σ) (change : σ → σ) : Dialogue σ :=
  { dialogue with exchange.simulator := change dialogue.exchange.simulator }

/-- The host has made a call of the session, which has computed the given response. -/
def serve (dialogue : Dialogue σ) (exchange : Exchange σ) (computed : Option (Command × Response)) :
    Dialogue σ :=
  { dialogue with
    exchange
    down := dialogue.down ++ exchange.connection.writtenSince dialogue.exchange.connection
    computed := dialogue.computed ++ computed.toList }

variable [Simulator σ]

/-- A cycle, or the second half of resuming. -/
def cycle (dialogue : Dialogue σ) : Dialogue σ :=
  dialogue.serve dialogue.exchange.cycle.2 dialogue.exchange.computes?

/-- The first half of resuming. -/
def wake (dialogue : Dialogue σ) : Dialogue σ :=
  dialogue.serve dialogue.exchange.wake dialogue.exchange.owes?

/-- The end of the simulation. -/
def shutdown (dialogue : Dialogue σ) : Dialogue σ :=
  dialogue.serve dialogue.exchange.shutdown dialogue.exchange.owes?

/-! ## Steps -/

/-- A step of a dialogue. -/
inductive Step (dialogue : Dialogue σ) : Dialogue σ → Prop where
  /-- A call begins when no other is under way. -/
  | ask (command : Command) : dialogue.waiting = none → Step dialogue (dialogue.ask command)
  /-- A call ends when a response can be read, or when nothing comes any more. -/
  | collect {command : Command} : dialogue.waiting = some command →
      dialogue.controller.connection.Readable ∨
        dialogue.exchange.dispatcher.closeReason ≠ none ∧ dialogue.down = [] →
      Step dialogue (dialogue.collect command)
  /-- The controller cannot write any more once the session is closed. -/
  | hangUp : dialogue.exchange.dispatcher.closeReason ≠ none → Step dialogue dialogue.hangUp
  | carryUp (count : Nat) : Step dialogue (dialogue.carryUp count)
  | carryDown (count : Nat) : Step dialogue (dialogue.carryDown count)
  | alter (change : σ → σ) : Step dialogue (dialogue.alter change)
  /-- A session that is open and not suspended takes a turn when a command can be read. -/
  | cycle : dialogue.exchange.connection.Readable ∨
        dialogue.exchange.dispatcher.closeReason ≠ none ∨ dialogue.exchange.dispatcher.pending ≠ none →
      Step dialogue dialogue.cycle
  | wake : Step dialogue dialogue.wake
  | shutdown : Step dialogue dialogue.shutdown

/-- A row of steps. -/
abbrev Steps : Dialogue σ → Dialogue σ → Prop := Relation.ReflTransGen Step

end Dialogue

end Cosimulation
