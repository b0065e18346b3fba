import Cosimulation.Proofs.Session.Responding
import Cosimulation.Proofs.Session.Run
import Cosimulation.Proofs.Session.Turns
import Cosimulation.Proofs.Wire.Spelling
/-!
# Answering over a faultless channel

When the writes and the flushes of a channel succeed, what a session answers with is decided by
sizes alone: the response if it fits, the failure that reports it as too long if that fits, and
otherwise the session closes without a word (`Clear.respond`).
-/

namespace Cosimulation

set_option autoImplicit false

/-! ## The channel -/

/-- The channel `after` is `before` with the given bytes written to it and flushed. -/
def Channel.Accepted (before : Channel) (bytes : List UInt8) (after : Channel) : Prop :=
  ∃ calls, after = (before.took calls bytes).flush.2

namespace Channel.Accepted

variable {before after : Channel} {bytes : List UInt8}

theorem written (accepted : before.Accepted bytes after) :
    after.written = before.written ++ bytes := by
  obtain ⟨calls, rfl⟩ := accepted
  rw [Channel.written_flush, Channel.written_took]

theorem arrivals (accepted : before.Accepted bytes after) : after.arrivals = before.arrivals := by
  obtain ⟨calls, rfl⟩ := accepted
  rw [Channel.arrivals_flush]
  rfl

theorem chunk (accepted : before.Accepted bytes after) : after.chunk = before.chunk := by
  obtain ⟨calls, rfl⟩ := accepted
  unfold Channel.flush
  split <;> rfl

theorem obliging (accepted : before.Accepted bytes after) (obliging : before.Obliging) :
    after.Obliging := by
  obtain ⟨calls, rfl⟩ := accepted
  exact (obliging.took calls bytes).flush

end Channel.Accepted

/-- Reading leaves a channel as faultless as it was. -/
theorem Channel.Gives.obliging {before after : Channel} {bytes : List UInt8}
    (gives : before.Gives bytes after) (obliging : before.Obliging) : after.Obliging := by
  rw [gives.same]
  exact ⟨obliging.progresses, obliging.flushes, obliging.present⟩

/-- Reading writes nothing. -/
theorem Channel.Gives.written {before after : Channel} {bytes : List UInt8}
    (gives : before.Gives bytes after) : after.written = before.written := by
  rw [gives.same]
  rfl

/-! ## The session -/

/-- The frame that a command is written as carries the command. -/
theorem Frame.carries_ofMessage {limit : Nat} {frame : List UInt8} {command : Command}
    (h : ofMessage limit command = .ok frame) : Carries limit frame command := by
  obtain ⟨short, expressible, same⟩ := encode_eq_ok_iff.1 h
  exact ⟨_, same, short, expressible, command.decode_payload⟩

namespace Exchange

variable {σ : Type}

/-- A session that is open and not suspended, with an open connection over a faultless channel. -/
structure Clear (limit : Nat) (exchange : Exchange σ) : Prop where
  opened : exchange.dispatcher.closeReason = none
  ready : exchange.dispatcher.pending = none
  limited : exchange.dispatcher.limit = limit
  connected : exchange.connection.isOpen = true
  obliging : exchange.connection.channel.Obliging

/-- A session at its beginning is clear if its channel is faultless. -/
theorem clear_begin (limit : Nat) (peer : String) (simulator : σ) {channel : Channel}
    (obliging : channel.Obliging) :
    Clear limit (begin limit (.ofChannel channel peer limit) simulator) :=
  ⟨rfl, rfl, rfl, rfl, obliging⟩

/-- A session at its beginning, to which one command has been sent. -/
def asked (limit : Nat) (command : Command) (simulator : σ) : Exchange σ :=
  begin limit (.ofChannel (.ofArrivals [.data (Frame.enclose (Message.payload command))])
    "controller" limit) simulator

theorem clear_asked (limit : Nat) (command : Command) (simulator : σ) :
    (asked limit command simulator).Clear limit :=
  clear_begin limit _ simulator ⟨by simp [Channel.ofArrivals], by simp [Channel.ofArrivals], rfl⟩

/-- The first command that has been sent is the one to come. -/
theorem upcoming?_begin {limit : Nat} {command : Command}
    (short : (Message.payload command).length ≤ limit) (most : limit ≤ Frame.maximalLength)
    (peer : String) (simulator : σ) :
    (begin limit (.ofChannel (.ofArrivals [.data (Frame.enclose (Message.payload command))]) peer
      limit) simulator).upcoming? = some command := by
  let start := begin limit (.ofChannel
    (.ofArrivals [.data (Frame.enclose (Message.payload command))]) peer limit) simulator
  have chunk : start.connection.channel.chunk ≠ some 0 := nofun
  have framed : Frame.ofMessage limit command = .ok (Frame.enclose (Message.payload command)) :=
    Frame.encode_eq_ok_iff.2 ⟨short, Nat.le_trans short most, rfl⟩
  exact (upcoming?_of_carries rfl rfl rfl chunk rfl (Frame.carries_ofMessage framed)).1

theorem upcoming?_asked {limit : Nat} {command : Command}
    (short : (Message.payload command).length ≤ limit) (most : limit ≤ Frame.maximalLength)
    (simulator : σ) : (asked limit command simulator).upcoming? = some command :=
  upcoming?_begin short most _ simulator

variable {limit : Nat} {exchange : Exchange σ}

/-- **What a session answers with over a faultless channel.** -/
theorem Clear.respond (clear : exchange.Clear limit) (response : Response)
    (operation : Operation) :
    (response.Fits limit ∧ ∃ channel, exchange.connection.channel.Accepted response.frame channel ∧
      exchange.respond response operation =
        (.ok (), { exchange with connection := { exchange.connection with channel } })) ∨
    (¬response.Fits limit ∧ (exchange.dispatcher.substitute response operation).Fits limit ∧
      ∃ channel, exchange.connection.channel.Accepted
          (exchange.dispatcher.substitute response operation).frame channel ∧
        exchange.respond response operation =
          (.ok (), { exchange with
            dispatcher := exchange.dispatcher.countFailure
            connection := { exchange.connection with channel } })) ∨
    (¬response.Fits limit ∧ ¬(exchange.dispatcher.substitute response operation).Fits limit ∧
      ∃ error : ProtocolError, exchange.respond response operation =
        (.error (.protocol error.message),
          { exchange with dispatcher := exchange.dispatcher.countFailure })) := by
  have chooses := exchange.dispatcher.frameFor_cases response operation
  rw [clear.limited] at chooses
  rcases chooses with ⟨fits, chosen⟩ | ⟨long, fits, chosen⟩ | ⟨long, also, error, chosen⟩
  · obtain ⟨calls, sent⟩ := send_of_obliging exchange clear.connected clear.obliging response.frame
    exact .inl ⟨fits, _, ⟨calls, rfl⟩, by rw [respond_eq, chosen]; exact sent⟩
  · obtain ⟨calls, sent⟩ := send_of_obliging
      { exchange with dispatcher := exchange.dispatcher.countFailure }
      clear.connected clear.obliging (exchange.dispatcher.substitute response operation).frame
    exact .inr (.inl ⟨long, fits, _, ⟨calls, rfl⟩, by rw [respond_eq, chosen]; exact sent⟩)
  · exact .inr (.inr ⟨long, also, error, by rw [respond_eq, chosen]⟩)

/-- What becomes of an answer over a faultless channel. -/
theorem Clear.answer_cases (clear : exchange.Clear limit) (response : Response)
    (operation : Operation) :
    (response.Fits limit ∧ ∃ channel, exchange.connection.channel.Accepted response.frame channel ∧
      exchange.answer response operation =
        (.served, { exchange with
          dispatcher := exchange.dispatcher.enter .awaitingMessage
          connection := { exchange.connection with channel } })) ∨
    (¬response.Fits limit ∧ (exchange.dispatcher.substitute response operation).Fits limit ∧
      ∃ channel, exchange.connection.channel.Accepted
          (exchange.dispatcher.substitute response operation).frame channel ∧
        exchange.answer response operation =
          (.served, { exchange with
            dispatcher := exchange.dispatcher.countFailure.enter .awaitingMessage
            connection := { exchange.connection with channel } })) ∨
    (¬response.Fits limit ∧ ¬(exchange.dispatcher.substitute response operation).Fits limit ∧
      ∃ error : ProtocolError, exchange.answer response operation =
        { exchange with dispatcher := exchange.dispatcher.countFailure }.close
          (.protocol error.message)) := by
  rcases clear.respond response operation with
    ⟨fits, channel, accepted, responded⟩ | ⟨long, fits, channel, accepted, responded⟩ |
      ⟨long, also, error, responded⟩
  · exact .inl ⟨fits, channel, accepted, by rw [Exchange.answer, responded]; rfl⟩
  · exact .inr (.inl ⟨long, fits, channel, accepted, by rw [Exchange.answer, responded]; rfl⟩)
  · exact .inr (.inr ⟨long, also, error, by rw [Exchange.answer, responded]⟩)

/-- A response that fits is sent, and the session goes on. -/
theorem Clear.answer (clear : exchange.Clear limit) {response : Response}
    (fits : response.Fits limit) (operation : Operation) :
    ∃ channel, exchange.connection.channel.Accepted response.frame channel ∧
      exchange.answer response operation =
        (.served, { exchange with
          dispatcher := exchange.dispatcher.enter .awaitingMessage
          connection := { exchange.connection with channel } }) := by
  rcases clear.answer_cases response operation with ⟨_, answered⟩ | ⟨long, _⟩ | ⟨long, _⟩
  · exact answered
  · exact absurd fits long
  · exact absurd fits long

/-- A finish is acknowledged, and then the run ends and the session closes. -/
theorem Clear.finish [Simulator σ] (clear : exchange.Clear limit) {id : RequestId}
    (fits : (Response.ok id .ack).Fits limit) :
    ∃ channel, exchange.connection.channel.Accepted (Response.ok id .ack).frame channel ∧
      exchange.finish id =
        { exchange with
          connection := { exchange.connection with channel }
          simulator := Simulator.finish exchange.simulator }.close .finished := by
  rcases clear.respond (.ok id .ack) .finish with
    ⟨_, channel, accepted, responded⟩ | ⟨long, _⟩ | ⟨long, _⟩
  · exact ⟨channel, accepted, by rw [Exchange.finish, responded]⟩
  · exact absurd fits long
  · exact absurd fits long

/-- Resuming answers the advance that waits and goes on as a cycle does. -/
theorem resume_of_answered [Simulator σ] (exchange : Exchange σ) {next : Exchange σ}
    (opened : exchange.dispatcher.closeReason = none)
    (answered : exchange.answerPending = (.ok (), next)) : exchange.resume = next.cycle := by
  rw [resume, opened]
  dsimp only
  rw [answered]

/-- Over a connection that takes everything the advance that waits is answered with the time. -/
theorem answerPending_of_obliging [Simulator σ] {advance : PendingAdvance}
    (opened : exchange.dispatcher.closeReason = none)
    (waiting : exchange.dispatcher.pending = some advance)
    (connected : exchange.connection.isOpen = true)
    (obliging : exchange.connection.channel.Obliging)
    (least : 256 ≤ exchange.dispatcher.limit) :
    let time := Response.ok advance.requestId (.time (Simulator.time exchange.simulator).1)
    time.Fits exchange.dispatcher.limit ∧
      ∃ channel, exchange.connection.channel.Accepted time.frame channel ∧
        exchange.answerPending = (.ok (), { exchange.roused with
          connection := { exchange.connection with channel } }) := by
  intro time
  have fits : time.Fits exchange.dispatcher.limit :=
    Response.fits_of_isShort least _ (.inr (.inr ⟨_, rfl⟩))
  have clear : exchange.roused.Clear exchange.dispatcher.limit :=
    ⟨opened, rfl, rfl, connected, obliging⟩
  have answered : exchange.answerPending = exchange.roused.respond time (.advance advance.ticks) := by
    unfold answerPending
    rw [waiting]
    rfl
  rcases clear.respond time (.advance advance.ticks) with
    ⟨_, channel, accepted, responded⟩ | ⟨long, _⟩ | ⟨long, _⟩
  · exact ⟨fits, channel, accepted, answered.trans responded⟩
  · exact absurd fits long
  · exact absurd fits long

end Exchange

end Cosimulation
