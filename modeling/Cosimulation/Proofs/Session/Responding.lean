import Cosimulation.Proofs.Frame.Writing
import Cosimulation.Session.Dispatcher
/-!
# Choosing and sending an answer

Responding has two halves.  First the frame is chosen: the response itself if it fits the limit, the
failure that reports it as too long if that fits, and none otherwise (`frameFor_cases`).  Then the
frame is sent, of which the channel takes a beginning, and all of it if nothing fails
(`send_cases`).
-/

namespace Cosimulation

set_option autoImplicit false

/-! ## The frame -/

namespace Frame

/-- A payload is framed exactly when it respects both bounds on its length. -/
theorem encode_eq_ok_iff {limit : Nat} {payload frame : List UInt8} :
    encode limit payload = .ok frame ↔
      payload.length ≤ limit ∧ payload.length ≤ maximalLength ∧ frame = enclose payload := by
  unfold encode
  split
  · rename_i long
    simp only [reduceCtorEq, false_iff]
    omega
  · split
    · rename_i long
      simp only [reduceCtorEq, false_iff]
      omega
    · simp only [Except.ok.injEq]
      exact ⟨fun same => ⟨by omega, by omega, same.symm⟩, fun h => h.2.2.symm⟩

end Frame

namespace Response

/-- The frame around a response. -/
def frame (response : Response) : List UInt8 :=
  Frame.enclose (Message.payload response)

/-- The frames of responses, one behind the other. -/
def frames (responses : List Response) : List UInt8 :=
  responses.flatMap frame

/-- Whether a response is short enough to be framed. -/
def Fits (limit : Nat) (response : Response) : Prop :=
  Frame.ofMessage limit response = .ok response.frame

theorem fits_iff {limit : Nat} {response : Response} :
    response.Fits limit ↔ (Message.payload response).length ≤ limit ∧
      (Message.payload response).length ≤ Frame.maximalLength := by
  simp [Fits, Frame.ofMessage, Frame.encode_eq_ok_iff, frame]

instance (limit : Nat) (response : Response) : Decidable (response.Fits limit) :=
  decidable_of_iff _ fits_iff.symm

/-- A response that does not fit is reported with its length and the bound that it breaks. -/
theorem ofMessage_of_not_fits {limit : Nat} {response : Response} (long : ¬response.Fits limit) :
    Frame.ofMessage limit response =
      .error (.frameTooLarge (Message.payload response).length
        (if limit < (Message.payload response).length then limit else Frame.maximalLength)) := by
  rw [fits_iff] at long
  unfold Frame.ofMessage Frame.encode
  split
  · rfl
  · rw [if_pos (by omega)]

end Response

namespace Dispatcher

/-- The response that is sent instead of one that is too long. -/
def substitute (dispatcher : Dispatcher) (response : Response) (operation : Operation) : Response :=
  .failed response.requestId (oversized operation (Message.payload response).length
    (if dispatcher.limit < (Message.payload response).length then dispatcher.limit
      else Frame.maximalLength))

@[simp] theorem requestId_substitute (dispatcher : Dispatcher) (response : Response)
    (operation : Operation) :
    (dispatcher.substitute response operation).requestId = response.requestId := rfl

/-- **The frame of an answer**: the response, or else its substitute, or else none. -/
theorem frameFor_cases (dispatcher : Dispatcher) (response : Response) (operation : Operation) :
    (response.Fits dispatcher.limit ∧
      dispatcher.frameFor response operation = (.ok response.frame, dispatcher)) ∨
    (¬response.Fits dispatcher.limit ∧
      (dispatcher.substitute response operation).Fits dispatcher.limit ∧
      dispatcher.frameFor response operation =
        (.ok (dispatcher.substitute response operation).frame, dispatcher.countFailure)) ∨
    (¬response.Fits dispatcher.limit ∧
      ¬(dispatcher.substitute response operation).Fits dispatcher.limit ∧
      ∃ error : ProtocolError, dispatcher.frameFor response operation =
        (.error (.protocol error.message), dispatcher.countFailure)) := by
  by_cases fits : response.Fits dispatcher.limit
  · exact .inl ⟨fits, by unfold frameFor; rw [fits]⟩
  · refine .inr ?_
    by_cases also : (dispatcher.substitute response operation).Fits dispatcher.limit
    · refine .inl ⟨fits, also, ?_⟩
      unfold frameFor
      rw [Response.ofMessage_of_not_fits fits]
      dsimp only
      rw [show Frame.ofMessage dispatcher.limit (Response.failed _ _) = _ from also]
    · refine .inr ⟨fits, also, ?_⟩
      unfold frameFor
      rw [Response.ofMessage_of_not_fits fits]
      dsimp only
      rw [show Frame.ofMessage dispatcher.limit (Response.failed _ _) = _ from
        Response.ofMessage_of_not_fits also]
      exact ⟨_, rfl⟩

end Dispatcher

/-! ## Sending it -/

/-- **Writing takes a beginning of the frame, and all of it when it succeeds.**  Nothing but the
channel changes, and that only by the writing. -/
theorem Connection.writeFrame_wrote (connection : Connection) (frame : List UInt8) :
    ∃ channel front back, frame = front ++ back ∧ connection.channel.Wrote front channel ∧
      (connection.writeFrame frame).2 = { connection with channel } ∧
      ((connection.writeFrame frame).1 = .ok () → back = []) := by
  unfold writeFrame
  by_cases opened : connection.isOpen = true
  · rw [if_pos opened]
    obtain ⟨calls, front, back, split, ⟨_, fault, failed⟩ | ⟨whole, result, wrote, _⟩⟩ :=
      Frame.write_cases frame connection.channel
    · rw [failed]
      exact ⟨_, front, back, split, .took _ calls front, rfl, nofun⟩
    · rw [wrote]
      exact ⟨_, front, back, split, (Channel.Wrote.took _ calls front).flush, rfl, fun _ => whole⟩
  · rw [if_neg opened]
    exact ⟨connection.channel, [], frame, rfl, .refl _, rfl, nofun⟩

/-- Closing writes nothing. -/
theorem Connection.written_close (connection : Connection) :
    connection.close.channel.written = connection.channel.written := by
  unfold close
  split <;> rfl

namespace Exchange

variable {σ : Type}

/-- Sends a frame. -/
def send (exchange : Exchange σ) (frame : List UInt8) : Except CloseReason Unit × Exchange σ :=
  match exchange.connection.writeFrame frame with
  | (.error error, connection) =>
    (.error (.connection error.message), { exchange with connection })
  | (.ok (), connection) => (.ok (), { exchange with connection })

/-- Responding is choosing a frame and sending it. -/
theorem respond_eq (exchange : Exchange σ) (response : Response) (operation : Operation) :
    exchange.respond response operation =
      match exchange.dispatcher.frameFor response operation with
      | (.error reason, dispatcher) => (.error reason, { exchange with dispatcher })
      | (.ok frame, dispatcher) => { exchange with dispatcher }.send frame := by
  unfold respond send
  generalize exchange.dispatcher.frameFor response operation = chosen
  obtain ⟨_ | _, _⟩ := chosen <;> rfl

/-- Sending is writing. -/
theorem send_wrote (exchange : Exchange σ) (frame : List UInt8) :
    ∃ channel front back, frame = front ++ back ∧
      exchange.connection.channel.Wrote front channel ∧
      (exchange.send frame).2 =
        { exchange with connection := { exchange.connection with channel } } ∧
      ((exchange.send frame).1 = .ok () → back = []) := by
  obtain ⟨channel, front, back, split, wrote, same, whole⟩ :=
    exchange.connection.writeFrame_wrote frame
  refine ⟨channel, front, back, split, wrote, ?_⟩
  unfold send
  generalize exchange.connection.writeFrame frame = writing at same whole
  obtain ⟨_ | _, _⟩ := writing
  · exact ⟨congrArg ({ exchange with connection := · }) same, nofun⟩
  · exact ⟨congrArg ({ exchange with connection := · }) same, fun _ => whole rfl⟩

/-- What sending leaves on the channel, in terms of the bytes written. -/
theorem send_cases (exchange : Exchange σ) (frame : List UInt8) :
    ∃ channel front back, frame = front ++ back ∧
      channel.written = exchange.connection.channel.written ++ front ∧
      (exchange.send frame).2 =
        { exchange with connection := { exchange.connection with channel } } ∧
      ((exchange.send frame).1 = .ok () → back = []) := by
  obtain ⟨channel, front, back, split, wrote, same, whole⟩ := exchange.send_wrote frame
  exact ⟨channel, front, back, split, wrote.written, same, whole⟩

/-- Responding changes the number of failures and the channel, and nothing else. -/
theorem respond_keeps (exchange : Exchange σ) (response : Response) (operation : Operation) :
    ∃ failures channel, (exchange.respond response operation).2 =
      { exchange with
        dispatcher := { exchange.dispatcher with applyFailures := failures }
        connection := { exchange.connection with channel } } := by
  rw [respond_eq]
  rcases exchange.dispatcher.frameFor_cases response operation with
    ⟨_, chosen⟩ | ⟨_, _, chosen⟩ | ⟨_, _, error, chosen⟩
  · rw [chosen]
    obtain ⟨channel, _, _, _, _, same, _⟩ := send_cases exchange response.frame
    exact ⟨_, channel, same⟩
  · rw [chosen]
    obtain ⟨channel, _, _, _, _, same, _⟩ :=
      send_cases { exchange with dispatcher := exchange.dispatcher.countFailure }
        (exchange.dispatcher.substitute response operation).frame
    exact ⟨_, channel, same⟩
  · rw [chosen]
    exact ⟨_, exchange.connection.channel, rfl⟩

/-- A frame is sent whole on an open connection over an obliging channel. -/
theorem send_of_obliging (exchange : Exchange σ) (opened : exchange.connection.isOpen = true)
    (obliging : exchange.connection.channel.Obliging) (frame : List UInt8) :
    ∃ calls, exchange.send frame =
      (.ok (), { exchange with connection := { exchange.connection with
        channel := (exchange.connection.channel.took calls frame).flush.2 } }) := by
  obtain ⟨calls, wrote⟩ := Frame.write_of_obliging frame obliging
  refine ⟨calls, ?_⟩
  unfold send Connection.writeFrame
  rw [if_pos opened, wrote]

/-! ## What an answer leaves behind -/

/-- An answer writes what its response does. -/
theorem written_answer (exchange : Exchange σ) (response : Response) (operation : Operation) :
    (exchange.answer response operation).2.connection.channel.written =
      (exchange.respond response operation).2.connection.channel.written := by
  unfold answer
  split
  · rename_i found
    rw [found]
    exact Connection.written_close _
  · rename_i found
    rw [found]
    rfl

/-- Answering leaves the simulator alone. -/
theorem simulator_answer (exchange : Exchange σ) (response : Response) (operation : Operation) :
    (exchange.answer response operation).2.simulator = exchange.simulator := by
  obtain ⟨failures, channel, same⟩ := respond_keeps exchange response operation
  unfold answer
  split
  · rename_i found
    rw [found] at same
    have kept := congrArg Exchange.simulator same
    exact kept
  · rename_i found
    rw [found] at same
    have kept := congrArg Exchange.simulator same
    exact kept

theorem written_finish [Simulator σ] (exchange : Exchange σ) (id : RequestId) :
    (exchange.finish id).2.connection.channel.written =
      (exchange.respond (.ok id .ack) .finish).2.connection.channel.written := by
  unfold finish
  split
  · rename_i found
    rw [found]
    exact Connection.written_close _
  · rename_i found
    rw [found]
    exact Connection.written_close _

end Exchange

end Cosimulation
