import Cosimulation.Connection
import Cosimulation.Session.Application
import Cosimulation.Session.Outcome
import Cosimulation.Wire.Command
import Cosimulation.Wire.Response
/-!
# The dispatcher

A dispatcher serves the commands that arrive on a connection, one in a turn, against a simulator.
An `Exchange` holds the three together, and a turn takes one exchange to the next.

* `cycle` waits for a command, applies it and answers it.
* An advance is not answered in its own turn.  It leaves the session suspended: further cycles do
  nothing until `resume` answers the advance and goes on with the next command.
* `shutdown` ends the session from the simulator's side, answering an advance that still waits.

A command that cannot be applied is answered with its error and the session goes on.  A frame or a
command that cannot be understood, and a connection that fails, close the session for good.
-/

namespace Cosimulation

set_option autoImplicit false

/-- What a dispatcher is busy with.  Between two calls it awaits a message or is closed. -/
inductive DispatchState where
  | awaitingMessage
  | decoding
  | applying
  | responding
  | closed
  deriving DecidableEq, Repr

/-- An advance that was received and is not yet answered. -/
structure PendingAdvance where
  requestId : RequestId
  ticks : UInt64
  deriving DecidableEq, Repr

/-- The state of a session. -/
structure Dispatcher where
  state : DispatchState
  pending : Option PendingAdvance
  closeReason : Option CloseReason
  /-- The largest payload that is written. -/
  limit : Nat
  /-- The number of commands decoded. -/
  commands : Nat
  /-- The number of commands that failed. -/
  applyFailures : Nat
  deriving DecidableEq, Repr

namespace Dispatcher

/-- The state of a session that begins. -/
def start (limit : Nat) : Dispatcher :=
  ⟨.awaitingMessage, none, none, limit, 0, 0⟩

/-- Whether the session has ended. -/
def isClosed (dispatcher : Dispatcher) : Bool :=
  dispatcher.state = .closed

/-- Whether an advance waits for its time to pass. -/
def isSuspended (dispatcher : Dispatcher) : Bool :=
  dispatcher.pending.isSome

/-- The dispatcher busy with something else. -/
def enter (dispatcher : Dispatcher) (state : DispatchState) : Dispatcher :=
  { dispatcher with state }

/-- The dispatcher after one more command. -/
def countCommand (dispatcher : Dispatcher) : Dispatcher :=
  { dispatcher with commands := dispatcher.commands + 1 }

/-- The dispatcher after one more failure. -/
def countFailure (dispatcher : Dispatcher) : Dispatcher :=
  { dispatcher with applyFailures := dispatcher.applyFailures + 1 }

/-- The error of an operation whose response is too long for a frame. -/
def oversized (operation : Operation) (length maximum : Nat) : ApplyError :=
  .rejected operation.name (operation.path?.getD "")
    s!"response of {length} bytes exceeds frame limit {maximum}"

/-- The frame that answers an operation.  A response that is too long for a frame makes the
operation fail, and the failure is what is answered instead. -/
def frameFor (dispatcher : Dispatcher) (response : Response) (operation : Operation) :
    Except CloseReason (List UInt8) × Dispatcher :=
  match Frame.ofMessage dispatcher.limit response with
  | .ok frame => (.ok frame, dispatcher)
  | .error (.frameTooLarge length maximum) =>
    let failure := Response.failed response.requestId (oversized operation length maximum)
    match Frame.ofMessage dispatcher.limit failure with
    | .ok frame => (.ok frame, dispatcher.countFailure)
    | .error error => (.error (.protocol error.message), dispatcher.countFailure)
  | .error error => (.error (.protocol error.message), dispatcher)

end Dispatcher

/-- A dispatcher at work: with the connection that it serves and the simulator that it serves it
from. -/
structure Exchange (σ : Type) where
  dispatcher : Dispatcher
  connection : Connection
  simulator : σ

namespace Exchange

variable {σ : Type}

/-- Closes the session. -/
def close (exchange : Exchange σ) (reason : CloseReason) : Outcome × Exchange σ :=
  (.closed reason,
    { exchange with
      connection := exchange.connection.close
      dispatcher := { exchange.dispatcher with state := .closed, closeReason := some reason } })

/-- Answers an operation. -/
def respond (exchange : Exchange σ) (response : Response) (operation : Operation) :
    Except CloseReason Unit × Exchange σ :=
  match exchange.dispatcher.frameFor response operation with
  | (.error reason, dispatcher) => (.error reason, { exchange with dispatcher })
  | (.ok frame, dispatcher) =>
    match exchange.connection.writeFrame frame with
    | (.error error, connection) =>
      (.error (.connection error.message), { exchange with dispatcher, connection })
    | (.ok (), connection) => (.ok (), { exchange with dispatcher, connection })

/-- The exchange with its dispatcher changed. -/
def update (exchange : Exchange σ) (change : Dispatcher → Dispatcher) : Exchange σ :=
  { exchange with dispatcher := change exchange.dispatcher }

/-- Answers an operation and awaits the next message. -/
def answer (exchange : Exchange σ) (response : Response) (operation : Operation) :
    Outcome × Exchange σ :=
  match exchange.respond response operation with
  | (.error reason, exchange) => exchange.close reason
  | (.ok (), exchange) => (.served, exchange.update (·.enter .awaitingMessage))

variable [Simulator σ]

/-- Answers a finish, ends the run and closes the session. -/
def finish (exchange : Exchange σ) (id : RequestId) : Outcome × Exchange σ :=
  match exchange.respond (.ok id .ack) .finish with
  | (.error reason, exchange) => exchange.close reason
  | (.ok (), exchange) =>
    { exchange with simulator := Simulator.finish exchange.simulator }.close .finished

/-- Suspends the session until the time of an advance has passed. -/
def suspend (exchange : Exchange σ) (id : RequestId) (ticks : UInt64) : Outcome × Exchange σ :=
  (.yielded ticks,
    exchange.update fun dispatcher =>
      { dispatcher with pending := some ⟨id, ticks⟩, state := .awaitingMessage })

/-- Applies a command and answers it. -/
def execute (exchange : Exchange σ) (command : Command) : Outcome × Exchange σ :=
  match command.operation.apply exchange.simulator with
  | (applied, simulator) =>
    let exchange := { exchange with simulator }.update (·.enter .responding)
    match applied with
    | .ok (.reply reply) => exchange.answer (.ok command.requestId reply) command.operation
    | .ok (.advance ticks) => exchange.suspend command.requestId ticks
    | .ok .finish => exchange.finish command.requestId
    | .error error =>
      (exchange.update Dispatcher.countFailure).answer (.failed command.requestId error)
        command.operation

/-- Decodes a payload and executes the command in it. -/
def handle (exchange : Exchange σ) (payload : List UInt8) : Outcome × Exchange σ :=
  match Message.decode payload with
  | .error error => exchange.close (.protocol error.message)
  | .ok command =>
    (exchange.update fun dispatcher => dispatcher.countCommand.enter .applying).execute command

/-- Waits for a message and handles it. -/
def receive (exchange : Exchange σ) : Outcome × Exchange σ :=
  match exchange.connection.readFrame with
  | (result, connection) =>
    let exchange := { exchange with connection }
    match result with
    | .error error => exchange.close (CloseReason.ofReadError error)
    | .ok none => exchange.close .peerClosed
    | .ok (some payload) => (exchange.update (·.enter .decoding)).handle payload

/-- One turn: a closed session stays closed and a suspended one waits; any other handles the next
message. -/
def cycle (exchange : Exchange σ) : Outcome × Exchange σ :=
  match exchange.dispatcher.closeReason with
  | some reason => (.closed reason, exchange)
  | none =>
    if exchange.dispatcher.isSuspended then (.suspended, exchange)
    else (exchange.update (·.enter .awaitingMessage)).receive

/-- Answers the advance that waits, if there is one, with the current time. -/
def answerPending (exchange : Exchange σ) : Except CloseReason Unit × Exchange σ :=
  match exchange.dispatcher.pending with
  | none => (.ok (), exchange)
  | some advance =>
    match Simulator.time exchange.simulator with
    | (now, simulator) =>
      ({ exchange with simulator }.update fun dispatcher =>
        { dispatcher with pending := none }).respond
          (.ok advance.requestId (.time now)) (.advance advance.ticks)

/-- The turn in which the time of an advance has passed: answers it, then takes a turn. -/
def resume (exchange : Exchange σ) : Outcome × Exchange σ :=
  match exchange.dispatcher.closeReason with
  | some reason => (.closed reason, exchange)
  | none =>
    match exchange.answerPending with
    | (.error reason, exchange) => exchange.close reason
    | (.ok (), exchange) => exchange.cycle

/-- Ends the session because the simulation ends.  An advance that waits is answered first, if that
is still possible. -/
def shutdown (exchange : Exchange σ) : Exchange σ :=
  match exchange.dispatcher.closeReason with
  | some _ => exchange
  | none => (exchange.answerPending.2.close .shutdown).2

/-! ## Serving uses the channel up -/

omit [Simulator σ] in
theorem remaining_respond (exchange : Exchange σ) (response : Response) (operation : Operation) :
    (exchange.respond response operation).2.connection.remaining = exchange.connection.remaining := by
  unfold respond
  split
  · rfl
  · rename_i frame dispatcher _
    have written := Connection.remaining_writeFrame exchange.connection frame
    split
    · rename_i found
      rwa [found] at written
    · rename_i found
      rwa [found] at written

omit [Simulator σ] in
theorem remaining_answer {exchange after : Exchange σ} {response : Response} {operation : Operation}
    (h : exchange.answer response operation = (.served, after)) :
    after.connection.remaining = exchange.connection.remaining := by
  have responded := remaining_respond exchange response operation
  unfold answer at h
  split at h
  · cases h
  · rename_i found
    rw [found] at responded
    cases h
    exact responded

theorem remaining_execute {exchange after : Exchange σ} {command : Command}
    (h : exchange.execute command = (.served, after)) :
    after.connection.remaining = exchange.connection.remaining := by
  unfold execute at h
  dsimp only at h
  split at h
  · have answered := remaining_answer h
    exact answered
  · cases h
  · unfold finish at h
    split at h <;> cases h
  · have answered := remaining_answer h
    exact answered

/-- **A cycle that serves a command has taken something from the channel.** -/
theorem remaining_cycle_lt {exchange after : Exchange σ} (h : exchange.cycle = (.served, after)) :
    after.connection.remaining < exchange.connection.remaining := by
  unfold cycle at h
  split at h
  · cases h
  · split at h
    · cases h
    · unfold receive at h
      dsimp only at h
      split at h
      · cases h
      · cases h
      · rename_i payload found
        have front := Connection.remaining_readFrame_lt (Prod.ext found rfl)
        unfold handle at h
        split at h
        · cases h
        · have executed := remaining_execute h
          exact Nat.lt_of_le_of_lt (Nat.le_of_eq executed) front

/-- Takes turns until one does not serve a command. -/
def drain (exchange : Exchange σ) : Outcome × Exchange σ :=
  match h : exchange.cycle with
  | (.served, after) =>
    have := remaining_cycle_lt h
    drain after
  | (.yielded ticks, after) => (.yielded ticks, after)
  | (.suspended, after) => (.suspended, after)
  | (.closed reason, after) => (.closed reason, after)
termination_by exchange.connection.remaining

end Exchange

end Cosimulation
