import Cosimulation.Proofs.Frame.Parsing
import Cosimulation.Session.Dispatcher
/-!
# Runs of a session

A session is driven from outside: the host calls `cycle`, `resume` and `shutdown` in whatever order
it likes, and between two calls the simulator may change in any way.  A run is the row of these
events.  `decoded?` says which command an event makes the session decode, and `heard` collects them
along a run.

A cycle does one of four things, of which only the last goes past reading (`cycle_of_idle`,
`cycle_of_upcoming`): it stays closed, it stays suspended, it closes because no command comes, or it
executes the command that comes.  A command that stands at the front of what is delivered does come
(`upcoming?_of_carries`).
-/

namespace Cosimulation

set_option autoImplicit false

variable {σ : Type}

/-- What can happen to a session. -/
inductive Event (σ : Type) where
  | cycle
  | resume
  | shutdown
  /-- Between two calls of the host the simulator changes. -/
  | change (change : σ → σ)

/-- What an event does to the simulator apart from calling the session. -/
def Event.apart : Event σ → σ → σ
  | .change alter => alter
  | _ => id

namespace Exchange

/-- A session at its beginning. -/
def begin (limit : Nat) (connection : Connection) (simulator : σ) : Exchange σ :=
  ⟨.start limit, connection, simulator⟩

/-- The command that the next cycle decodes, if it decodes one. -/
def upcoming? (exchange : Exchange σ) : Option Command :=
  if exchange.dispatcher.closeReason = none ∧ exchange.dispatcher.pending = none then
    match exchange.connection.readFrame.1 with
    | .ok (some payload) => (Message.decode payload).toOption
    | _ => none
  else none

/-- Reading writes nothing. -/
theorem written_readFrame (exchange : Exchange σ) :
    exchange.connection.readFrame.2.channel.written = exchange.connection.channel.written := by
  obtain ⟨channel, ⟨taken, arrivals, rfl⟩, read⟩ := exchange.connection.onlyRead_readFrame
  rw [read]
  rfl

variable [Simulator σ]

/-- The session after an event. -/
def after (exchange : Exchange σ) : Event σ → Exchange σ
  | .cycle => exchange.cycle.2
  | .resume => exchange.resume.2
  | .shutdown => exchange.shutdown
  | .change change => { exchange with simulator := change exchange.simulator }

/-- The session after a run. -/
def run (exchange : Exchange σ) (events : List (Event σ)) : Exchange σ :=
  events.foldl after exchange

/-- The command that an event makes the session decode, if it decodes one.  A session that resumes
answers its advance first. -/
def decoded? (exchange : Exchange σ) : Event σ → Option Command
  | .cycle => exchange.upcoming?
  | .resume =>
    match exchange.dispatcher.closeReason, exchange.answerPending with
    | none, (.ok (), exchange) => exchange.upcoming?
    | _, _ => none
  | .shutdown => none
  | .change _ => none

/-- The commands that a session decodes in a run, in their order. -/
def heard (exchange : Exchange σ) : List (Event σ) → List Command
  | [] => []
  | event :: events => (exchange.decoded? event).toList ++ (exchange.after event).heard events

/-- **A closed session does nothing more**: in a run its simulator changes as it does apart from the
session, and nothing else changes. -/
theorem run_of_closing {exchange : Exchange σ} {reason : CloseReason}
    (closing : exchange.dispatcher.closeReason = some reason) (events : List (Event σ)) :
    exchange.run events =
      { exchange with
        simulator := events.foldl (fun simulator event => event.apart simulator) exchange.simulator } := by
  induction events generalizing exchange with
  | nil => rfl
  | cons event events ih =>
    have step : exchange.after event =
        { exchange with simulator := event.apart exchange.simulator } := by
      cases event with
      | cycle => simp only [after, cycle, closing, Event.apart, id]
      | resume => simp only [after, resume, closing, Event.apart, id]
      | shutdown => simp only [after, shutdown, closing, Event.apart, id]
      | change => rfl
    have still : (exchange.after event).dispatcher.closeReason = some reason := by
      rw [step]
      exact closing
    have rest := ih still
    rw [step] at rest
    exact (congrArg (fun middle => run middle events) step).trans rest

/-! ## What a cycle does -/

/-- A cycle of a session that is open and not suspended begins with reading a frame. -/
theorem cycle_eq_receive {exchange : Exchange σ} (opened : exchange.dispatcher.closeReason = none)
    (ready : exchange.dispatcher.pending = none) :
    exchange.cycle = (exchange.update (·.enter .awaitingMessage)).receive := by
  unfold cycle
  rw [opened]
  simp [Dispatcher.isSuspended, ready]

/-- A cycle in which no command comes: the session stays as it is, or closes after reading. -/
theorem cycle_of_idle {exchange : Exchange σ} (idle : exchange.upcoming? = none) :
    (∃ reason, exchange.dispatcher.closeReason = some reason ∧
      exchange.cycle = (.closed reason, exchange)) ∨
    (exchange.dispatcher.closeReason = none ∧ exchange.dispatcher.pending ≠ none ∧
      exchange.cycle = (.suspended, exchange)) ∨
    (exchange.dispatcher.closeReason = none ∧ exchange.dispatcher.pending = none ∧
      ∃ reason, exchange.cycle =
        { exchange with connection := exchange.connection.readFrame.2 }.close reason) := by
  cases closing : exchange.dispatcher.closeReason with
  | some reason => exact .inl ⟨reason, rfl, by simp only [cycle, closing]⟩
  | none =>
    by_cases ready : exchange.dispatcher.pending = none
    · refine .inr (.inr ⟨rfl, ready, ?_⟩)
      rw [cycle_eq_receive closing ready]
      rw [upcoming?, if_pos ⟨closing, ready⟩] at idle
      unfold receive
      simp only [update]
      split
      · exact ⟨_, rfl⟩
      · exact ⟨_, rfl⟩
      · rename_i payload found
        rw [found] at idle
        dsimp only at idle
        unfold handle
        cases decoded : (Message.decode payload : Except ProtocolError Command) with
        | error error => exact ⟨_, rfl⟩
        | ok command =>
          rw [decoded] at idle
          cases idle
    · refine .inr (.inl ⟨rfl, ready, ?_⟩)
      have suspended : exchange.dispatcher.isSuspended = true :=
        Option.isSome_iff_ne_none.2 ready
      simp only [cycle, closing, suspended, if_true]

/-- A cycle in which a command comes executes it. -/
theorem cycle_of_upcoming {exchange : Exchange σ} {command : Command}
    (upcoming : exchange.upcoming? = some command) :
    exchange.dispatcher.closeReason = none ∧ exchange.dispatcher.pending = none ∧
      exchange.cycle =
        ({ exchange with connection := exchange.connection.readFrame.2 }.update
          fun dispatcher => dispatcher.countCommand.enter .applying).execute command := by
  unfold upcoming? at upcoming
  split at upcoming
  · rename_i ready
    refine ⟨ready.1, ready.2, ?_⟩
    rw [cycle_eq_receive ready.1 ready.2]
    unfold receive
    simp only [update]
    split at upcoming
    · rename_i payload found
      rw [found]
      dsimp only
      unfold handle
      cases decoded : (Message.decode payload : Except ProtocolError Command) with
      | error error =>
        rw [decoded] at upcoming
        cases upcoming
      | ok decodedCommand =>
        rw [decoded] at upcoming
        cases upcoming
        rfl
    · cases upcoming
  · cases upcoming

end Exchange

/-! ## Commands that have arrived -/

/-- A frame within the limit around a payload that spells a command. -/
def Frame.Carries (limit : Nat) (frame : List UInt8) (command : Command) : Prop :=
  ∃ payload, frame = enclose payload ∧ payload.length ≤ limit ∧ payload.length ≤ maximalLength ∧
    Message.decode payload = .ok command

/-- A command that is carried by the frame at the front is the one that the next cycle decodes. -/
theorem Exchange.upcoming?_of_carries {exchange : Exchange σ} {frame rest : List UInt8}
    {command : Command} (opened : exchange.dispatcher.closeReason = none)
    (ready : exchange.dispatcher.pending = none) (connected : exchange.connection.isOpen = true)
    (chunk : exchange.connection.channel.chunk ≠ some 0)
    (delivered : exchange.connection.channel.delivered = frame ++ rest)
    (carries : Frame.Carries exchange.connection.limit frame command) :
    exchange.upcoming? = some command ∧
      ∃ channel, exchange.connection.channel.Gives frame channel ∧
        exchange.connection.readFrame.2 = { exchange.connection with channel } := by
  obtain ⟨payload, rfl, short, expressible, decoded⟩ := carries
  obtain ⟨channel, gives, readFrame⟩ :=
    Connection.readFrame_of_delivered connected chunk delivered short expressible
  refine ⟨?_, channel, gives, by rw [readFrame]⟩
  rw [upcoming?, if_pos ⟨opened, ready⟩, readFrame]
  dsimp only
  rw [decoded]
  rfl

end Cosimulation
