import Cosimulation.Proofs.Session.Faultless
import Cosimulation.Proofs.Session.Reference
import Mathlib.Data.List.Forall2
/-!
# Serving a row of commands

Commands arrive in frames, in whatever pieces, and a host calls the session again and again; when an
advance asks for time to pass, it lets that time pass and resumes.  Over a simulator in memory the
responses written are those of the account in `Reference`, up to the first finish
(`turns_answer_reference`).
-/

namespace Cosimulation

set_option autoImplicit false

namespace Exchange

/-! ## The host -/

/-- A call of a host that lets the time of an advance pass before it resumes. -/
def turn (last : Outcome) (exchange : Exchange MemorySimulator) :
    Outcome × Exchange MemorySimulator :=
  match last with
  | .yielded ticks => { exchange with simulator := exchange.simulator.advance ticks }.resume
  | _ => exchange.cycle

/-- So many calls of the host. -/
def turns : Nat → Outcome → Exchange MemorySimulator → Outcome × Exchange MemorySimulator
  | 0, last, exchange => (last, exchange)
  | count + 1, last, exchange => turns count (exchange.turn last).1 (exchange.turn last).2

/-- A closed session stays as it is. -/
theorem turns_of_closed {exchange : Exchange MemorySimulator} {reason : CloseReason}
    (closed : exchange.dispatcher.closeReason = some reason) (count : Nat) :
    turns count (.closed reason) exchange = (.closed reason, exchange) := by
  induction count with
  | zero => rfl
  | succ count ih =>
    have called : turn (.closed reason) exchange = (.closed reason, exchange) := by
      simp only [turn, cycle, closed]
    rw [turns, called]
    exact ih

/-! ## One command -/

/-- A session in the midst of serving: it is where the history says, the bytes `waiting` are still
to arrive, and the bytes `written` have been written. -/
structure Serving (limit : Nat) (settings : List (String × SignalValue)) (past : List Operation)
    (waiting written : List UInt8) (exchange : Exchange MemorySimulator) : Prop extends
    Clear limit exchange where
  bounded : exchange.connection.limit = limit
  chunk : exchange.connection.channel.chunk ≠ some 0
  delivered : exchange.connection.channel.delivered = waiting
  written : exchange.connection.channel.written = written
  agrees : Reference.Agrees settings past exchange.simulator

variable {limit : Nat} {settings : List (String × SignalValue)} {past : List Operation}
  {waiting written : List UInt8} {exchange : Exchange MemorySimulator}

/-- The next cycle takes the command that is carried by the frame at the front. -/
theorem Serving.receive {frame : List UInt8} {command : Command}
    (serving : exchange.Serving limit settings past (frame ++ waiting) written)
    (carries : Frame.Carries limit frame command) :
    ∃ next : Exchange MemorySimulator, next.Serving limit settings past waiting written ∧
      exchange.cycle = next.execute command := by
  obtain ⟨upcoming, channel, gives, readFrame⟩ := upcoming?_of_carries serving.opened serving.ready
    serving.connected serving.chunk serving.delivered (serving.bounded ▸ carries)
  obtain ⟨_, _, same⟩ := cycle_of_upcoming upcoming
  rw [readFrame] at same
  refine ⟨_, ?_, same⟩
  have behind : channel.delivered = waiting :=
    (List.append_cancel_left (gives.delivered.symm.trans serving.delivered))
  refine ⟨⟨serving.opened, serving.ready, serving.limited, serving.connected, ?_⟩, serving.bounded,
    ?_, behind, ?_, serving.agrees⟩
  · exact gives.obliging serving.obliging
  · exact gives.chunk ▸ serving.chunk
  · exact gives.written.trans serving.written

/-- The session after it has sent a response and has come to a later point of the history. -/
theorem Serving.answered {frame : List UInt8} {channel : Channel} {operation : Operation}
    {simulator : MemorySimulator} {dispatcher : Dispatcher}
    (serving : exchange.Serving limit settings past waiting written)
    (accepted : exchange.connection.channel.Accepted frame channel)
    (agrees : Reference.Agrees settings (operation :: past) simulator)
    (opened : dispatcher.closeReason = none) (ready : dispatcher.pending = none)
    (limited : dispatcher.limit = limit) :
    Serving limit settings (operation :: past) waiting (written ++ frame)
      ⟨dispatcher, { exchange.connection with channel }, simulator⟩ where
  opened := opened
  ready := ready
  limited := limited
  connected := serving.connected
  obliging := accepted.obliging serving.obliging
  bounded := serving.bounded
  chunk := accepted.chunk ▸ serving.chunk
  delivered := (congrArg Arrival.delivered accepted.arrivals).trans serving.delivered
  written := accepted.written.trans (congrArg (· ++ frame) serving.written)
  agrees := agrees

/-- A session that answers goes on serving, one operation further in the history. -/
theorem Serving.answer {operation : Operation} {simulator : MemorySimulator} {response : Response}
    (serving : exchange.Serving limit settings past waiting written)
    (agrees : Reference.Agrees settings (operation :: past) simulator) (dispatcher : Dispatcher)
    (opened : dispatcher.closeReason = none) (ready : dispatcher.pending = none)
    (limited : dispatcher.limit = limit) (fits : response.Fits limit) :
    ∃ next : Exchange MemorySimulator,
      next.Serving limit settings (operation :: past) waiting (written ++ response.frame) ∧
      Exchange.answer ⟨dispatcher, exchange.connection, simulator⟩ response operation =
        (.served, next) := by
  have clear : Clear limit (⟨dispatcher, exchange.connection, simulator⟩ :
      Exchange MemorySimulator) :=
    ⟨opened, ready, limited, serving.connected, serving.obliging⟩
  obtain ⟨channel, accepted, answered⟩ := clear.answer fits operation
  refine ⟨_, serving.answered accepted agrees ?_ ?_ ?_, answered⟩
  · exact opened
  · exact ready
  · exact limited

/-- A session that was suspended for an advance is resumed by the next call of the host, answers the
advance and goes on serving. -/
theorem Serving.turn_of_suspended {id : RequestId} {ticks : UInt64}
    (serving : exchange.Serving limit settings past waiting written)
    (fits : (Response.ok id (.time (exchange.simulator.advance ticks).time)).Fits limit) :
    ∃ next : Exchange MemorySimulator,
      next.Serving limit settings (.advance ticks :: past) waiting
        (written ++ (Response.ok id (.time (exchange.simulator.advance ticks).time)).frame) ∧
      turn (.yielded ticks) (exchange.suspend id ticks).2 = next.cycle := by
  have clear : Clear limit ({ exchange with simulator := exchange.simulator.advance ticks }.update
      fun dispatcher => { dispatcher with pending := none, state := .awaitingMessage }) :=
    ⟨serving.opened, rfl, serving.limited, serving.connected, serving.obliging⟩
  rcases clear.respond (.ok id (.time (exchange.simulator.advance ticks).time)) (.advance ticks)
    with ⟨_, channel, accepted, responded⟩ | ⟨long, _⟩ | ⟨long, _⟩
  · have resumed := resume_of_answered
      { (exchange.suspend id ticks).2 with simulator := exchange.simulator.advance ticks }
      serving.opened responded
    refine ⟨_, serving.answered accepted (serving.agrees.advance ticks) ?_ ?_ ?_, resumed⟩
    · exact serving.opened
    · rfl
    · exact serving.limited
  · exact absurd fits long
  · exact absurd fits long

/-- **One call of the host serves one command**, unless that ends the run.  The response is that of
the account. -/
theorem Serving.step {frame : List UInt8} {command : Command}
    (serving : exchange.Serving limit settings past (frame ++ waiting) written)
    (carries : Frame.Carries limit frame command)
    (fits : (Reference.response settings past command).Fits limit)
    (goesOn : command.operation ≠ .finish) {count : Nat} (more : count ≠ 0) :
    ∃ next : Exchange MemorySimulator,
      next.Serving limit settings (command.operation :: past) waiting
        (written ++ (Reference.response settings past command).frame) ∧
      turns (count + 1) .served exchange = turns count .served next := by
  obtain ⟨taken, ready, same⟩ := serving.receive carries
  have called : turns (count + 1) .served exchange =
      turns count (taken.execute command).1 (taken.execute command).2 := by
    rw [← same]
    rfl
  rw [called]
  have accounted := ready.agrees.apply command.operation
  unfold execute
  generalize command.operation.apply taken.simulator = applying at accounted
  obtain ⟨applied, simulator⟩ := applying
  match applied, accounted with
  | .ok (.reply reply), ⟨replied, _, agrees⟩ =>
    have response : Response.ok command.requestId reply =
        Reference.response settings past command := by rw [Reference.response, replied]; rfl
    rw [← response] at fits ⊢
    obtain ⟨next, after, answered⟩ :=
      ready.answer agrees (taken.dispatcher.enter .responding) ready.opened ready.ready ready.limited
        fits
    exact ⟨next, after,
      congrArg (fun result : Outcome × Exchange MemorySimulator => turns count result.1 result.2)
        answered⟩
  | .error error, ⟨replied, _, agrees⟩ =>
    have response : Response.failed command.requestId error =
        Reference.response settings past command := by rw [Reference.response, replied]; rfl
    rw [← response] at fits ⊢
    obtain ⟨next, after, answered⟩ :=
      ready.answer agrees (taken.dispatcher.enter .responding).countFailure ready.opened ready.ready
        ready.limited fits
    exact ⟨next, after,
      congrArg (fun result : Outcome × Exchange MemorySimulator => turns count result.1 result.2)
        answered⟩
  | .ok (.advance ticks), ⟨asked, still⟩ =>
    subst still
    have response : Response.ok command.requestId (.time (taken.simulator.advance ticks).time) =
        Reference.response settings past command := by
      rw [Reference.response, asked, Reference.reply, ← ready.agrees.time]
      rfl
    rw [← response] at fits ⊢
    -- the call that decodes an advance only suspends the session, so a second one is needed
    obtain ⟨less, rfl⟩ := Nat.exists_eq_succ_of_ne_zero more
    obtain ⟨next, after, resumed⟩ := ready.turn_of_suspended fits
    rw [asked]
    exact ⟨next, after,
      congrArg (fun result : Outcome × Exchange MemorySimulator => turns less result.1 result.2)
        resumed⟩
  | .ok .finish, ⟨asked, _⟩ => exact absurd asked goesOn

/-- The call of the host that serves a finish closes the session. -/
theorem Serving.step_finish {frame : List UInt8} {command : Command}
    (serving : exchange.Serving limit settings past (frame ++ waiting) written)
    (carries : Frame.Carries limit frame command)
    (fits : (Reference.response settings past command).Fits limit)
    (ends : command.operation = .finish) (count : Nat) :
    ∃ last, turns (count + 1) .served exchange = (.closed .finished, last) ∧
      last.dispatcher.closeReason = some .finished ∧
      last.connection.channel.written =
        written ++ (Reference.response settings past command).frame ∧
      Reference.Agrees settings (.finish :: past) last.simulator := by
  obtain ⟨taken, ready, same⟩ := serving.receive carries
  have executed : taken.execute command =
      (taken.update (·.enter .responding)).finish command.requestId := by
    unfold execute
    rw [ends]
    rfl
  have called : turns (count + 1) .served exchange =
      turns count (taken.execute command).1 (taken.execute command).2 := by
    rw [← same]
    rfl
  have response : Response.ok command.requestId .ack =
      Reference.response settings past command := by rw [Reference.response, ends]; rfl
  have clear : Clear limit (taken.update (·.enter .responding)) :=
    ⟨ready.opened, ready.ready, ready.limited, ready.connected, ready.obliging⟩
  rw [← response] at fits ⊢
  obtain ⟨channel, accepted, finished⟩ := clear.finish fits
  rw [called, executed, finished]
  refine ⟨_, turns_of_closed rfl count, rfl, ?_, ready.agrees.finish⟩
  exact (Connection.written_close _).trans
    (accepted.written.trans (congrArg (· ++ _) ready.written))

/-- When no command is at the front, none comes. -/
theorem Serving.idle (serving : exchange.Serving limit settings past waiting written)
    (foreign : ∀ frame command rest, Frame.Carries limit frame command → waiting ≠ frame ++ rest) :
    exchange.upcoming? = none := by
  cases upcoming : exchange.upcoming? with
  | none => rfl
  | some command =>
    rw [upcoming?, if_pos ⟨serving.opened, serving.ready⟩, Connection.readFrame,
      if_pos serving.connected] at upcoming
    split at upcoming
    · rename_i payload found
      rw [serving.bounded] at found
      obtain ⟨short, expressible, gives⟩ :=
        Frame.gives_of_read serving.chunk (Prod.ext found rfl)
      have decoded : Message.decode payload = .ok command := by
        cases decoding : (Message.decode payload : Except ProtocolError Command) with
        | error => simp [decoding, Except.toOption] at upcoming
        | ok => simpa [decoding, Except.toOption] using upcoming
      exact absurd (serving.delivered.symm.trans gives.delivered)
        (foreign _ command _ ⟨payload, rfl, short, expressible, decoded⟩)
    · cases upcoming

/-- A call of the host when no command is at the front closes the session. -/
theorem Serving.stop (serving : exchange.Serving limit settings past waiting written)
    (foreign : ∀ frame command rest, Frame.Carries limit frame command → waiting ≠ frame ++ rest)
    (count : Nat) :
    ∃ reason last, turns (count + 1) .served exchange = (.closed reason, last) ∧
      last.dispatcher.closeReason = some reason ∧
      last.connection.channel.written = written ∧
      Reference.Agrees settings past last.simulator := by
  have called : turns (count + 1) .served exchange =
      turns count exchange.cycle.1 exchange.cycle.2 := rfl
  obtain ⟨channel, ⟨taken, arrivals, rfl⟩, read⟩ := exchange.connection.onlyRead_readFrame
  rcases cycle_of_idle (serving.idle foreign) with
    ⟨_, closed, _⟩ | ⟨_, suspended, _⟩ | ⟨_, _, reason, closes⟩
  · cases serving.opened.symm.trans closed
  · exact absurd serving.ready suspended
  · rw [called, closes, read]
    refine ⟨reason, _, turns_of_closed rfl count, rfl, ?_, serving.agrees⟩
    exact (Connection.written_close _).trans serving.written

/-- The host is answered as the account says, from any point of the history on. -/
theorem Serving.turns {frames : List (List UInt8)} {commands : List Command} {tail : List UInt8}
    (serving : exchange.Serving limit settings past (frames.flatten ++ tail) written)
    (carried : List.Forall₂ (Frame.Carries limit) frames commands)
    (foreign : ∀ frame command rest, Frame.Carries limit frame command → tail ≠ frame ++ rest)
    (fits : ∀ response ∈ Reference.answers settings past commands, response.Fits limit)
    {count : Nat} (enough : commands.length < count) :
    ∃ reason last, Exchange.turns count .served exchange = (.closed reason, last) ∧
      last.dispatcher.closeReason = some reason ∧
      ((∃ command ∈ commands, command.operation = .finish) → reason = .finished) ∧
      last.connection.channel.written =
        written ++ Response.frames (Reference.answers settings past commands) ∧
      Reference.Agrees settings (Reference.history past commands) last.simulator := by
  induction carried generalizing past written exchange count with
  | nil =>
    obtain ⟨less, rfl⟩ := Nat.exists_eq_succ_of_ne_zero (Nat.ne_zero_of_lt enough)
    simpa [Reference.answers, Reference.history, Response.frames] using serving.stop foreign less
  | @cons frame command frames commands carries _ ih =>
    -- a finish closes the session, and then the frames behind it are not read
    obtain ⟨less, rfl⟩ := Nat.exists_eq_succ_of_ne_zero (Nat.ne_zero_of_lt enough)
    rw [List.flatten_cons, List.append_assoc] at serving
    have first := fits (Reference.response settings past command) (by simp [Reference.answers])
    by_cases ends : command.operation = .finish
    · obtain ⟨last, called, closed, wrote, agrees⟩ := serving.step_finish carries first ends less
      refine ⟨.finished, last, called, closed, fun _ => rfl, ?_, ?_⟩
      · simpa [Reference.answers, Response.frames, ends] using wrote
      · simpa [Reference.history, ends] using agrees
    · have more : less ≠ 0 := by
        simp only [List.length_cons] at enough
        omega
      obtain ⟨next, behind, called⟩ := serving.step carries first ends more
      have rest : ∀ response ∈ Reference.answers settings (command.operation :: past) commands,
          response.Fits limit := by
        intro response member
        exact fits response (by simp [Reference.answers, ends, member])
      obtain ⟨reason, last, goesOn, closed, finished, wrote, agrees⟩ :=
        ih behind rest (by simpa using enough)
      refine ⟨reason, last, called.trans goesOn, closed, ?_, ?_, ?_⟩
      · simpa [ends] using finished
      · simpa [Reference.answers, Response.frames, ends] using wrote
      · simpa [Reference.history, ends] using agrees

/-- **A session over a simulator in memory is the reference interpreter.**  Commands arrive in
frames within the limit, in any pieces, and behind them something that is no such frame.  If the
channel takes what is written and every response fits, a host that calls often enough is answered as
`Reference.answers` says and no further, the session is closed, and the simulator is where the
history says. -/
theorem turns_answer_reference (invocation : Invocation) (settings : List (String × SignalValue))
    (limit : Nat) (peer : String) (channel : Channel) (frames : List (List UInt8))
    (commands : List Command) (tail : List UInt8) (count : Nat)
    (chunk : channel.chunk ≠ some 0) (obliging : channel.Obliging)
    (delivered : channel.delivered = frames.flatten ++ tail)
    (carried : List.Forall₂ (Frame.Carries limit) frames commands)
    (foreign : ∀ frame command rest, Frame.Carries limit frame command → tail ≠ frame ++ rest)
    (fits : ∀ response ∈ Reference.answers settings [] commands, response.Fits limit)
    (enough : commands.length < count) :
    let start := begin limit (.ofChannel channel peer limit)
      (Reference.launched invocation settings)
    ∃ reason last, turns count .served start = (.closed reason, last) ∧
      last.dispatcher.closeReason = some reason ∧
      ((∃ command ∈ commands, command.operation = .finish) → reason = .finished) ∧
      last.connection.channel.written =
        channel.written ++ Response.frames (Reference.answers settings [] commands) ∧
      Reference.Agrees settings (Reference.history [] commands) last.simulator := by
  have serving : Serving limit settings [] (frames.flatten ++ tail) channel.written
      (begin limit (.ofChannel channel peer limit) (Reference.launched invocation settings)) :=
    ⟨clear_begin limit peer _ obliging, rfl, chunk, delivered, rfl,
      Reference.agrees_launched invocation settings⟩
  exact serving.turns carried foreign fits enough

/-- A force, a read, an advance and a finish in one piece. -/
theorem turns_answer_reference_force :
    let commands : List Command := [⟨.ofNat 1, .force "top.a" (.bits "1x")⟩,
      ⟨.ofNat 2, .read "top.a"⟩, ⟨.ofNat 3, .advance 5⟩, ⟨.ofNat 4, .finish⟩]
    let arrival := Arrival.data (commands.flatMap fun command =>
      Frame.enclose (Message.payload command))
    let start := begin 1024 (.ofChannel (.ofArrivals [arrival]) "host" 1024)
      (Reference.launched ⟨[]⟩ [("top.a", .int 3)])
    (turns 5 .served start).2.connection.channel.written =
      Response.frames [.ok (.ofNat 1) .ack, .ok (.ofNat 2) (.value "top.a" (.bits "1x")),
        .ok (.ofNat 3) (.time 5), .ok (.ofNat 4) .ack] := by
  intro commands arrival start
  have carried : List.Forall₂ (Frame.Carries 1024)
      (commands.map fun command => Frame.enclose (Message.payload command)) commands := by
    have short : ∀ command ∈ commands, (Message.payload command).length ≤ 1024 := by
      decide +kernel
    rw [List.forall₂_map_left_iff, List.forall₂_same]
    exact fun command member => Frame.carries_ofMessage (Frame.encode_eq_ok_iff.2
      ⟨short command member, Nat.le_trans (short command member) (by decide), rfl⟩)
  have answers : Reference.answers [("top.a", .int 3)] [] commands =
      [.ok (.ofNat 1) .ack, .ok (.ofNat 2) (.value "top.a" (.bits "1x")),
        .ok (.ofNat 3) (.time 5), .ok (.ofNat 4) .ack] := by decide +kernel
  have fits : ∀ response ∈ Reference.answers [("top.a", .int 3)] [] commands,
      response.Fits 1024 := by
    rw [answers]
    decide +kernel
  have delivered : (Channel.ofArrivals [arrival]).delivered =
      (commands.map fun command => Frame.enclose (Message.payload command)).flatten ++ [] :=
    congrArg (· ++ []) (List.flatMap_def ..)
  have foreign : ∀ frame command rest, Frame.Carries 1024 frame command →
      ([] : List UInt8) ≠ frame ++ rest := by
    rintro _ command rest ⟨payload, rfl, _⟩
    simp [Frame.enclose]
  obtain ⟨reason, last, called, _, _, wrote, _⟩ := turns_answer_reference ⟨[]⟩ [("top.a", .int 3)]
    1024 "host" (.ofArrivals [arrival]) _ commands [] 5 (by decide)
    ⟨by simp [Channel.ofArrivals], by simp [Channel.ofArrivals], rfl⟩ delivered carried foreign
    fits (by decide)
  rw [called, wrote, answers]
  exact List.nil_append _

end Exchange

end Cosimulation
