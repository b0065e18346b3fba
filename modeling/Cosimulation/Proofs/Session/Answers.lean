import Cosimulation.Proofs.Session.Responding
import Cosimulation.Proofs.Session.Run
/-!
# One answer to each command, in the order of arrival

Whatever happens on the channel and in the simulator, and however the host mixes its calls, what a
session has written is a row of whole response frames and perhaps the beginning of one more.  The
frames answer the commands in the order in which these were decoded.  While the session is open
there is no beginning of a frame, and every command is answered but the advance that is pending; a
beginning of a frame is the last thing that a session writes (`run_answers_in_order`).

The invariant is `InOrder`.  It is carried through a call by `Transcript`, which says what has been
written between the stages of that call.
-/

namespace Cosimulation

set_option autoImplicit false

variable {σ : Type}

namespace Exchange

/-- What a session has written that began behind the bytes `begun` and decoded the commands `asked`:
the frames of `answered` and then `fragment`, which is the beginning of one more frame or empty. -/
structure Transcript (limit : Nat) (begun : List UInt8) (asked : List RequestId)
    (answered : List Response) (fragment : List UInt8) (exchange : Exchange σ) : Prop where
  limited : exchange.dispatcher.limit = limit
  counted : exchange.dispatcher.commands = asked.length
  written : exchange.connection.channel.written = begun ++ Response.frames answered ++ fragment
  fits : ∀ response ∈ answered, response.Fits limit
  ordered : answered.map Response.requestId <+: asked
  cut : fragment = [] ∨ ∃ response rest, response.Fits limit ∧ rest ≠ [] ∧
    response.frame = fragment ++ rest ∧ (answered ++ [response]).map Response.requestId <+: asked

/-- The invariant of a session: while it is open, every command is answered but the one that is
pending; once it is closed, a last frame may have been cut off. -/
structure InOrder (limit : Nat) (begun : List UInt8) (asked : List RequestId)
    (exchange : Exchange σ) : Prop where
  opened : exchange.dispatcher.closeReason = none → exchange.dispatcher.isClosed = false ∧
    ∃ answered, exchange.Transcript limit begun asked answered [] ∧
      asked = answered.map Response.requestId ++
        (exchange.dispatcher.pending.map PendingAdvance.requestId).toList
  closed : exchange.dispatcher.closeReason ≠ none → exchange.dispatcher.isClosed = true ∧
    ∃ answered fragment, exchange.Transcript limit begun asked answered fragment

variable {limit : Nat} {begun : List UInt8} {asked : List RequestId} {answered : List Response}
  {fragment : List UInt8} {exchange after : Exchange σ}

/-! ## What a transcript depends on -/

theorem Transcript.of_same (transcript : exchange.Transcript limit begun asked answered fragment)
    (sameLimit : after.dispatcher.limit = exchange.dispatcher.limit)
    (sameCount : after.dispatcher.commands = exchange.dispatcher.commands)
    (sameWritten : after.connection.channel.written = exchange.connection.channel.written) :
    after.Transcript limit begun asked answered fragment where
  limited := sameLimit.trans transcript.limited
  counted := sameCount.trans transcript.counted
  written := sameWritten.trans transcript.written
  fits := transcript.fits
  ordered := transcript.ordered
  cut := transcript.cut

/-- One more command is decoded: the transcript is that of a session that was asked for it too. -/
theorem Transcript.ask (transcript : exchange.Transcript limit begun asked answered fragment)
    (id : RequestId) (sameLimit : after.dispatcher.limit = exchange.dispatcher.limit)
    (count : after.dispatcher.commands = exchange.dispatcher.commands + 1)
    (sameWritten : after.connection.channel.written = exchange.connection.channel.written) :
    after.Transcript limit begun (asked ++ [id]) answered fragment where
  limited := sameLimit.trans transcript.limited
  counted := by rw [count, transcript.counted, List.length_append, List.length_singleton]
  written := sameWritten.trans transcript.written
  fits := transcript.fits
  ordered := transcript.ordered.trans (List.prefix_append _ _)
  cut := transcript.cut.imp_right fun ⟨response, rest, fits, more, split, ordered⟩ =>
    ⟨response, rest, fits, more, split, ordered.trans (List.prefix_append _ _)⟩

/-- A session that closes is in order whatever its transcript. -/
theorem Transcript.inOrder_close
    (transcript : exchange.Transcript limit begun asked answered fragment) (reason : CloseReason) :
    (exchange.close reason).2.InOrder limit begun asked where
  opened stillOpen := by cases stillOpen
  closed _ := ⟨rfl, answered, fragment, transcript.of_same rfl rfl (Connection.written_close _)⟩

/-! ## Answering -/

variable {result : Except CloseReason Unit}

/-- A frame that is owed is written whole, or cut off with an error. -/
theorem Transcript.send (transcript : exchange.Transcript limit begun asked answered [])
    {answer : Response} (fits : answer.Fits limit)
    (owed : asked = answered.map Response.requestId ++ [answer.requestId])
    (h : exchange.send answer.frame = (result, after)) :
    (result = .ok () → after.Transcript limit begun asked (answered ++ [answer]) []) ∧
      ∃ answered fragment, after.Transcript limit begun asked answered fragment := by
  obtain ⟨channel, front, back, split, written, same, whole⟩ := send_cases exchange answer.frame
  rw [h] at same whole
  dsimp only at same whole
  subst same
  have inOrder : (answered ++ [answer]).map Response.requestId <+: asked := by
    rw [owed, List.map_append]
    exact List.prefix_rfl
  by_cases complete : back = []
  · have wrote : channel.written =
        begun ++ Response.frames (answered ++ [answer]) ++ ([] : List UInt8) := by
      rw [complete, List.append_nil] at split
      rw [written, transcript.written, ← split]
      simp [Response.frames]
    have all : Transcript limit begun asked (answered ++ [answer]) []
        { exchange with connection := { exchange.connection with channel } } :=
      ⟨transcript.limited, transcript.counted, wrote,
        fun response member => (List.mem_append.1 member).elim (transcript.fits response)
          fun last => List.mem_singleton.1 last ▸ fits,
        inOrder, .inl rfl⟩
    exact ⟨fun _ => all, _, _, all⟩
  · refine ⟨fun sent => absurd (whole sent) complete, answered, front, ?_⟩
    refine ⟨transcript.limited, transcript.counted, ?_, transcript.fits, transcript.ordered,
      .inr ⟨answer, back, fits, complete, split, inOrder⟩⟩
    rw [written, transcript.written, List.append_nil]

/-- **An answer that is owed is written whole, or the session has an error to close with.** -/
theorem Transcript.respond (transcript : exchange.Transcript limit begun asked answered [])
    (response : Response) {operation : Operation}
    (owed : asked = answered.map Response.requestId ++ [response.requestId])
    (h : exchange.respond response operation = (result, after)) :
    (result = .ok () → ∃ answer : Response, answer.requestId = response.requestId ∧
      after.Transcript limit begun asked (answered ++ [answer]) []) ∧
      ∃ answered fragment, after.Transcript limit begun asked answered fragment := by
  rw [respond_eq] at h
  have limited := transcript.limited
  rcases exchange.dispatcher.frameFor_cases response operation with
    ⟨fits, chosen⟩ | ⟨_, fits, chosen⟩ | ⟨_, _, error, chosen⟩
  · rw [chosen] at h
    obtain ⟨whole, anyway⟩ := transcript.send (limited ▸ fits) owed h
    exact ⟨fun sent => ⟨response, rfl, whole sent⟩, anyway⟩
  · rw [chosen] at h
    have counted : Transcript limit begun asked answered []
        { exchange with dispatcher := exchange.dispatcher.countFailure } :=
      transcript.of_same rfl rfl rfl
    have matching := Dispatcher.requestId_substitute exchange.dispatcher response operation
    obtain ⟨whole, anyway⟩ := counted.send (limited ▸ fits) (matching ▸ owed) h
    exact ⟨fun sent => ⟨_, matching, whole sent⟩, anyway⟩
  · rw [chosen] at h
    cases h
    exact ⟨by simp, answered, [], transcript.of_same rfl rfl rfl⟩

/-- The answer that is owed leaves a session in order that awaits the next message. -/
theorem Transcript.inOrder_answer (transcript : exchange.Transcript limit begun asked answered [])
    (response : Response) {operation : Operation}
    (owed : asked = answered.map Response.requestId ++ [response.requestId])
    (opened : exchange.dispatcher.closeReason = none) (ready : exchange.dispatcher.pending = none) :
    (exchange.answer response operation).2.InOrder limit begun asked := by
  obtain ⟨failures, channel, same⟩ := respond_keeps exchange response operation
  unfold answer
  split
  · rename_i reason last h
    obtain ⟨_, answered, fragment, rest⟩ := transcript.respond response owed h
    exact rest.inOrder_close reason
  · rename_i last h
    obtain ⟨answer, matching, whole⟩ := (transcript.respond response owed h).1 rfl
    rw [h] at same
    dsimp only at same
    subst same
    constructor
    · intro _
      refine ⟨rfl, answered ++ [answer], whole.of_same rfl rfl rfl, ?_⟩
      simp [update, Dispatcher.enter, ready, owed, matching]
    · intro closed
      exact absurd opened closed

/-! ## One call -/

/-- A session that is open and not suspended has answered everything. -/
theorem InOrder.settled (inOrder : exchange.InOrder limit begun asked)
    (opened : exchange.dispatcher.closeReason = none) (ready : exchange.dispatcher.pending = none) :
    ∃ answered, exchange.Transcript limit begun asked answered [] ∧
      asked = answered.map Response.requestId := by
  obtain ⟨_, answered, transcript, owed⟩ := inOrder.opened opened
  exact ⟨answered, transcript, by simpa [ready] using owed⟩

variable [Simulator σ]

/-- Executing a command that has just been decoded leaves the session in order. -/
theorem Transcript.inOrder_execute
    (transcript : exchange.Transcript limit begun asked answered []) {command : Command}
    (owed : asked = answered.map Response.requestId ++ [command.requestId])
    (opened : exchange.dispatcher.closeReason = none) (ready : exchange.dispatcher.pending = none) :
    (exchange.execute command).2.InOrder limit begun asked := by
  unfold execute
  generalize command.operation.apply exchange.simulator = applying
  obtain ⟨applied, simulator⟩ := applying
  have entered : Transcript limit begun asked answered []
      ({ exchange with simulator }.update (·.enter .responding)) :=
    transcript.of_same rfl rfl rfl
  dsimp only
  split
  · rename_i reply
    exact entered.inOrder_answer (.ok command.requestId reply) owed opened ready
  · refine ⟨fun _ => ⟨rfl, answered, transcript.of_same rfl rfl rfl, owed⟩, ?_⟩
    intro closed
    exact absurd opened closed
  · unfold finish
    split
    · rename_i reason last h
      obtain ⟨_, _, _, rest⟩ := entered.respond (.ok command.requestId .ack) owed h
      exact rest.inOrder_close reason
    · rename_i last h
      obtain ⟨_, answered, fragment, rest⟩ :=
        entered.respond (.ok command.requestId .ack) owed h
      have finished : Transcript limit begun asked answered fragment
          { last with simulator := Simulator.finish last.simulator } :=
        rest.of_same rfl rfl rfl
      exact finished.inOrder_close .finished
  · rename_i error
    have counted : Transcript limit begun asked answered []
        (({ exchange with simulator }.update (·.enter .responding)).update
          Dispatcher.countFailure) :=
      transcript.of_same rfl rfl rfl
    exact counted.inOrder_answer (.failed command.requestId error) owed opened ready

/-- A cycle leaves the session in order, with one more command asked for if one came. -/
theorem InOrder.cycle (inOrder : exchange.InOrder limit begun asked) :
    exchange.cycle.2.InOrder limit begun
      (asked ++ exchange.upcoming?.toList.map Command.requestId) := by
  obtain ⟨channel, ⟨taken, arrivals, rfl⟩, read⟩ := exchange.connection.onlyRead_readFrame
  cases upcoming : exchange.upcoming? with
  | none =>
    rw [Option.toList_none, List.map_nil, List.append_nil]
    rcases cycle_of_idle upcoming with
      ⟨reason, _, same⟩ | ⟨_, _, same⟩ | ⟨opened, ready, reason, same⟩
    · rwa [same]
    · rwa [same]
    · rw [same, read]
      obtain ⟨answered, transcript, _⟩ := inOrder.settled opened ready
      have taken : Transcript limit begun asked answered []
          { exchange with connection := { exchange.connection with
            channel := exchange.connection.channel.gave taken arrivals } } :=
        transcript.of_same rfl rfl rfl
      exact taken.inOrder_close reason
  | some command =>
    obtain ⟨opened, ready, same⟩ := cycle_of_upcoming upcoming
    obtain ⟨answered, transcript, owed⟩ := inOrder.settled opened ready
    rw [same, read, owed]
    have decoded : Transcript limit begun (asked ++ [command.requestId]) answered []
        ({ exchange with connection := { exchange.connection with
            channel := exchange.connection.channel.gave taken arrivals } }.update
          fun dispatcher => dispatcher.countCommand.enter .applying) :=
      transcript.ask command.requestId rfl rfl rfl
    rw [owed] at decoded
    exact decoded.inOrder_execute rfl opened ready

/-- Answering the advance that waits settles the session, or leaves an error to close with. -/
theorem InOrder.answerPending (inOrder : exchange.InOrder limit begun asked)
    (opened : exchange.dispatcher.closeReason = none) :
    (exchange.answerPending.1 = .ok () → exchange.answerPending.2.InOrder limit begun asked) ∧
      ∃ answered fragment,
        exchange.answerPending.2.Transcript limit begun asked answered fragment := by
  obtain ⟨state, answered, transcript, owed⟩ := inOrder.opened opened
  unfold Exchange.answerPending
  split
  · exact ⟨fun _ => inOrder, answered, [], transcript⟩
  · rename_i advance waiting
    rw [waiting] at owed
    generalize Simulator.time exchange.simulator = reading
    obtain ⟨now, simulator⟩ := reading
    dsimp only
    have cleared : Transcript limit begun asked answered []
        ({ exchange with simulator }.update fun dispatcher =>
          { dispatcher with pending := none }) :=
      transcript.of_same rfl rfl rfl
    obtain ⟨failures, channel, same⟩ := respond_keeps
      ({ exchange with simulator }.update fun dispatcher => { dispatcher with pending := none })
      (.ok advance.requestId (.time now)) (.advance advance.ticks)
    cases responded : respond
      ({ exchange with simulator }.update fun dispatcher => { dispatcher with pending := none })
      (.ok advance.requestId (.time now)) (.advance advance.ticks) with
    | mk result last =>
      rw [responded] at same
      dsimp only at same
      obtain ⟨settled, anyway⟩ :=
        cleared.respond (.ok advance.requestId (.time now)) owed responded
      refine ⟨fun sent => ?_, anyway⟩
      obtain ⟨answer, matching, whole⟩ := settled sent
      subst same
      refine ⟨fun _ => ⟨state, _, whole, ?_⟩, fun closed => absurd opened closed⟩
      rw [owed, List.map_append, List.map_singleton, matching]
      exact (List.append_nil _).symm

/-- Resuming leaves the session in order, with one more command asked for if one came. -/
theorem InOrder.resume (inOrder : exchange.InOrder limit begun asked) :
    exchange.resume.2.InOrder limit begun
      (asked ++ (exchange.decoded? .resume).toList.map Command.requestId) := by
  unfold Exchange.resume
  simp only [decoded?]
  cases closing : exchange.dispatcher.closeReason with
  | some reason => simpa using inOrder
  | none =>
    obtain ⟨settled, answered, fragment, transcript⟩ := inOrder.answerPending closing
    cases answering : exchange.answerPending with
    | mk result last =>
      rw [answering] at settled transcript
      cases result with
      | error reason => simpa using transcript.inOrder_close reason
      | ok => exact (settled rfl).cycle

/-- Shutting down leaves the session in order. -/
theorem InOrder.shutdown (inOrder : exchange.InOrder limit begun asked) :
    exchange.shutdown.InOrder limit begun asked := by
  unfold Exchange.shutdown
  split
  · exact inOrder
  · rename_i opened
    obtain ⟨_, answered, fragment, transcript⟩ := inOrder.answerPending opened
    exact transcript.inOrder_close .shutdown

/-! ## Every run -/

/-- **One event leaves the session in order.** -/
theorem InOrder.step (inOrder : exchange.InOrder limit begun asked) (event : Event σ) :
    (exchange.after event).InOrder limit begun
      (asked ++ (exchange.decoded? event).toList.map Command.requestId) := by
  cases event with
  | cycle => exact inOrder.cycle
  | resume => exact inOrder.resume
  | shutdown =>
    rw [decoded?, Option.toList_none, List.map_nil, List.append_nil]
    exact inOrder.shutdown
  | change change =>
    rw [decoded?, Option.toList_none, List.map_nil, List.append_nil]
    refine ⟨fun opened => ?_, fun closing => ?_⟩
    · obtain ⟨state, answered, transcript, owed⟩ := inOrder.opened opened
      exact ⟨state, answered, transcript.of_same rfl rfl rfl, owed⟩
    · obtain ⟨state, answered, fragment, transcript⟩ := inOrder.closed closing
      exact ⟨state, answered, fragment, transcript.of_same rfl rfl rfl⟩

/-- A run leaves the session in order. -/
theorem InOrder.run (inOrder : exchange.InOrder limit begun asked) (events : List (Event σ)) :
    (exchange.run events).InOrder limit begun
      (asked ++ (exchange.heard events).map Command.requestId) := by
  induction events generalizing exchange asked with
  | nil => simpa [Exchange.run, heard] using inOrder
  | cons event events ih =>
    have rest := ih (inOrder.step event)
    rwa [List.append_assoc, ← List.map_append] at rest

omit [Simulator σ] in
/-- A session begins in order. -/
theorem inOrder_begin (limit : Nat) (connection : Connection) (simulator : σ) :
    (begin limit connection simulator).InOrder limit connection.channel.written [] where
  opened _ := ⟨rfl, [], ⟨rfl, rfl, by simp [begin, Response.frames], by simp, List.prefix_rfl,
    .inl rfl⟩, rfl⟩
  closed closing := absurd rfl closing

/-- A session that is closed stays as it is, whatever becomes of its simulator. -/
theorem run_of_closed (closing : exchange.dispatcher.closeReason ≠ none)
    (events : List (Event σ)) :
    (exchange.run events).dispatcher = exchange.dispatcher ∧
      (exchange.run events).connection = exchange.connection := by
  obtain ⟨reason, closed⟩ := Option.ne_none_iff_exists'.1 closing
  rw [run_of_closing closed]
  exact ⟨rfl, rfl⟩

/-- **One answer to each command, in the order of arrival.**  What any run of a session writes is
the frames of responses that answer its commands in their order, and perhaps the beginning of the
frame of the next.  While the session is open there is no such beginning, and only an advance that
waits is not answered; behind such a beginning nothing is written any more. -/
theorem run_answers_in_order (limit readLimit : Nat) (peer : String) (channel : Channel)
    (simulator : σ) (events : List (Event σ)) :
    let start := begin limit (.ofChannel channel peer readLimit) simulator
    let last := start.run events
    let asked := (start.heard events).map Command.requestId
    ∃ answered fragment,
      last.connection.channel.written = channel.written ++ Response.frames answered ++ fragment ∧
      (∀ response ∈ answered, response.Fits limit) ∧
      answered.map Response.requestId <+: asked ∧
      last.dispatcher.commands = asked.length ∧
      (fragment = [] ∨ ∃ response rest, response.Fits limit ∧ rest ≠ [] ∧
        response.frame = fragment ++ rest ∧
        (answered ++ [response]).map Response.requestId <+: asked) ∧
      (last.dispatcher.isClosed = false → fragment = [] ∧
        answered.length + (if last.dispatcher.isSuspended then 1 else 0) =
          last.dispatcher.commands) ∧
      (fragment ≠ [] → ∀ later,
        (last.run later).connection.channel.written = last.connection.channel.written) := by
  intro start last asked
  have inOrder : last.InOrder limit channel.written asked := by
    have begun := inOrder_begin limit (.ofChannel channel peer readLimit) simulator
    exact List.nil_append asked ▸ begun.run events
  by_cases opened : last.dispatcher.closeReason = none
  · -- an open session has no fragment, and what it still owes is the advance that is pending
    obtain ⟨_, answered, transcript, owed⟩ := inOrder.opened opened
    refine ⟨answered, [], transcript.written, transcript.fits, transcript.ordered,
      transcript.counted, .inl rfl, fun _ => ⟨rfl, ?_⟩, fun cut => absurd rfl cut⟩
    rw [transcript.counted, owed, Dispatcher.isSuspended]
    cases last.dispatcher.pending <;> simp
  · -- a closed session may have a fragment, but never writes again
    obtain ⟨closed, answered, fragment, transcript⟩ := inOrder.closed opened
    refine ⟨answered, fragment, transcript.written, transcript.fits, transcript.ordered,
      transcript.counted, transcript.cut, fun still => ?_, fun _ later => ?_⟩
    · rw [closed] at still
      cases still
    · rw [(run_of_closed opened later).2]

end Exchange

end Cosimulation
