import Cosimulation.Proofs.Controller.Lossless
/-!
# The stages of a dialogue

A dialogue over a connection that loses nothing is at one of five stages (`Stage`).  No call is under
way; a command is on its way and nothing else is; the session is suspended with the advance of the
call; a response is on its way and nothing else is; or the session is closed and nothing comes from it
any more.  So there is one command in the connection at most, and one response, which is the one that
the session has computed for it.

Here are the steps that lead from stage to stage without the session: the controller begins a call
(`Orderly.ask`) and ends it (`Orderly.collect`), and bytes arrive at either end
(`Orderly.carryUp`, `Orderly.carryDown`).
-/

namespace Cosimulation

set_option autoImplicit false

namespace Dialogue

variable {σ : Type}

/-! ## The stages of a dialogue -/

/-- The bytes that the session has not read: those that have arrived, and those on their way. -/
def toSession (dialogue : Dialogue σ) : List UInt8 :=
  dialogue.exchange.connection.channel.delivered ++ dialogue.up

/-- The bytes that the controller has not read. -/
def toController (dialogue : Dialogue σ) : List UInt8 :=
  dialogue.controller.connection.channel.delivered ++ dialogue.down

/-- The calls that have returned a response. -/
def returned (dialogue : Dialogue σ) : List (Command × Response) :=
  dialogue.finished.filterMap fun (command, result) => result.toOption.map (command, ·)

/-- A call that returns the response to its command, or fails without having found a response that
makes no sense. -/
def Proper : Command × Except Error Response → Prop
  | (command, .ok response) => response.requestId = command.requestId
  | (_, .error error) => ∀ text, error ≠ .protocol (.malformed text)

/-- How far a dialogue has come with the call that is under way. -/
inductive Stage (dialogue : Dialogue σ) : Prop where
  /-- No call is under way. -/
  | idle : dialogue.waiting = none → dialogue.exchange.dispatcher.closeReason = none →
      dialogue.exchange.dispatcher.pending = none → dialogue.toSession = [] →
      dialogue.toController = [] → dialogue.computed = dialogue.returned → Stage dialogue
  /-- The command of the call is to be read by the session. -/
  | commanded {command : Command} : dialogue.waiting = some command →
      (Message.payload command).length ≤ Frame.defaultLimit →
      dialogue.exchange.dispatcher.closeReason = none →
      dialogue.exchange.dispatcher.pending = none → dialogue.toSession = command.frame →
      dialogue.toController = [] → dialogue.computed = dialogue.returned → Stage dialogue
  /-- The call lets time pass. -/
  | suspended {command : Command} {ticks : UInt64} : dialogue.waiting = some command →
      command.operation = .advance ticks → dialogue.exchange.dispatcher.closeReason = none →
      dialogue.exchange.dispatcher.pending = some ⟨command.requestId, ticks⟩ →
      dialogue.toSession = [] → dialogue.toController = [] →
      dialogue.computed = dialogue.returned → Stage dialogue
  /-- The response to the call is to be read by the controller. -/
  | answered {command : Command} {response : Response} : dialogue.waiting = some command →
      dialogue.exchange.dispatcher.pending = none →
      (dialogue.exchange.dispatcher.closeReason = none → dialogue.toSession = []) →
      dialogue.toController = response.frame → response.Fits Frame.defaultLimit →
      response.requestId = command.requestId →
      dialogue.computed = dialogue.returned ++ [(command, response)] → Stage dialogue
  /-- The session is closed and nothing comes from it any more. -/
  | closed : dialogue.exchange.dispatcher.closeReason ≠ none →
      dialogue.exchange.dispatcher.pending = none → dialogue.toController = [] →
      dialogue.computed = dialogue.returned → Stage dialogue

/-- The stage is a matter of the calls, the bytes on their way, and whether the session is closed and
suspended. -/
theorem Stage.of_same {dialogue other : Dialogue σ} (stage : dialogue.Stage)
    (waiting : other.waiting = dialogue.waiting) (finished : other.finished = dialogue.finished)
    (computed : other.computed = dialogue.computed)
    (closeReason : other.exchange.dispatcher.closeReason = dialogue.exchange.dispatcher.closeReason)
    (pending : other.exchange.dispatcher.pending = dialogue.exchange.dispatcher.pending)
    (toSession : other.toSession = dialogue.toSession)
    (toController : other.toController = dialogue.toController) : other.Stage := by
  have returned : other.returned = dialogue.returned := by
    unfold Dialogue.returned
    rw [finished]
  cases stage with
  | idle calls opened ready up down all =>
    exact .idle (waiting.trans calls) (closeReason.trans opened) (pending.trans ready)
      (toSession.trans up) (toController.trans down) (by rw [computed, returned, all])
  | commanded calls short opened ready up down all =>
    exact .commanded (waiting.trans calls) short (closeReason.trans opened) (pending.trans ready)
      (toSession.trans up) (toController.trans down) (by rw [computed, returned, all])
  | suspended calls asks opened waits up down all =>
    exact .suspended (waiting.trans calls) asks (closeReason.trans opened) (pending.trans waits)
      (toSession.trans up) (toController.trans down) (by rw [computed, returned, all])
  | answered calls ready up down fits same all =>
    exact .answered (waiting.trans calls) (pending.trans ready)
      (fun opened => toSession.trans (up (closeReason.symm.trans opened))) (toController.trans down)
      fits same (by rw [computed, returned, all])
  | closed shut ready down all =>
    exact .closed (closeReason ▸ shut) (pending.trans ready) (toController.trans down)
      (by rw [computed, returned, all])

/-- What holds of the two ends at every stage. -/
structure Linked (shutdowns : Nat) (dialogue : Dialogue σ) : Prop where
  controller : dialogue.controller.connection.Lossless
  connected : dialogue.controller.connection.isOpen = true
  sends : dialogue.exchange.dispatcher.closeReason = none →
    dialogue.controller.connection.channel.Obliging
  session : dialogue.exchange.connection.Lossless
  answers : dialogue.exchange.connection.channel.Obliging
  limited : dialogue.exchange.dispatcher.limit = Frame.defaultLimit
  coherent : dialogue.exchange.Coherent shutdowns

/-- What holds of a dialogue between two steps. -/
structure Orderly (shutdowns : Nat) (dialogue : Dialogue σ) : Prop where
  linked : dialogue.Linked shutdowns
  stage : dialogue.Stage
  proper : ∀ call ∈ dialogue.finished, Proper call

/-! ## Steps of the controller -/

section Calls

variable {dialogue : Dialogue σ} {shutdowns : Nat}

/-- A call that has ended without a response leaves the responses that were returned. -/
theorem returned_of_failed {other : Dialogue σ} {command : Command} {error : Error}
    (finished : other.finished = dialogue.finished ++ [(command, .error error)]) :
    other.returned = dialogue.returned := by
  unfold returned
  rw [finished, List.filterMap_append]
  exact List.append_nil _

/-- A call that has ended with a response adds it to those that were returned. -/
theorem returned_of_ok {other : Dialogue σ} {command : Command} {response : Response}
    (finished : other.finished = dialogue.finished ++ [(command, .ok response)]) :
    other.returned = dialogue.returned ++ [(command, response)] := by
  unfold returned
  rw [finished, List.filterMap_append]
  rfl

theorem proper_append {command : Command} {result : Except Error Response}
    (proper : ∀ call ∈ dialogue.finished, Proper call) (ended : Proper (command, result)) :
    ∀ call ∈ dialogue.finished ++ [(command, result)], Proper call := by
  intro call member
  rcases List.mem_append.1 member with before | last
  · exact proper call before
  · rw [List.mem_singleton.1 last]
    exact ended

/-- What has been written since. -/
theorem writtenSince_eq {before after : Connection} {bytes : List UInt8}
    (written : after.channel.written = before.channel.written ++ bytes) :
    after.writtenSince before = bytes := by
  unfold Connection.writtenSince
  rw [written, List.drop_left]

/-- **A command that is too long ends its call and changes nothing else.** -/
theorem ask_of_long {command : Command}
    (long : Frame.defaultLimit < (Message.payload command).length) :
    dialogue.ask command = { dialogue with
      finished := dialogue.finished ++ [(command, .error (.protocol
        (.frameTooLarge (Message.payload command).length Frame.defaultLimit)))] } := by
  unfold ask
  rw [Controller.send_of_long long]
  simp [Connection.writtenSince]

/-- What a controller keeps when it sends a command. -/
structure Sends (before after : Controller) : Prop where
  connected : after.connection.isOpen = before.connection.isOpen
  delivered : after.connection.channel.delivered = before.connection.channel.delivered
  lossless : before.connection.Lossless → after.connection.Lossless
  obliging : before.connection.channel.Obliging → after.connection.channel.Obliging

theorem sends_send (controller : Controller) (command : Command) :
    Sends controller (controller.send command.requestId command.operation).2 := by
  rcases controller.send_cases command with ⟨_, _, same⟩ | ⟨frame, same, _⟩
  · rw [same]
    exact ⟨rfl, rfl, id, id⟩
  · obtain ⟨channel, _, _, _, wrote, written, _⟩ := controller.connection.writeFrame_wrote frame
    have lossless := Connection.kept_lossless.write controller.connection frame
    have obliging := Connection.kept_obliging.write controller.connection frame
    rw [written] at lossless obliging
    rw [same, written]
    exact ⟨rfl, congrArg Arrival.delivered wrote.arrivals, lossless, obliging⟩

/-- How a call begins: it waits for its response from then on, or it is over at once. -/
theorem ask_cases (dialogue : Dialogue σ) (command : Command) :
    ∃ controller up, Sends dialogue.controller controller ∧
      (dialogue.ask command = { dialogue with controller, up, waiting := some command } ∨
        ∃ error, Proper (command, .error error) ∧ dialogue.ask command = { dialogue with
          controller, up, finished := dialogue.finished ++ [(command, .error error)] }) := by
  have sends := sends_send dialogue.controller command
  have proper : ∀ error, (dialogue.controller.send command.requestId command.operation).1 =
      .error error → Proper (command, .error error) := by
    intro error failed text
    rcases dialogue.controller.send_cases command with ⟨cause, sensible, same⟩ | ⟨_, _, same⟩
    · rw [same] at failed
      cases failed
      exact fun malformed => sensible text (Error.protocol.inj malformed)
    · obtain ⟨cause, rfl⟩ := same error failed
      nofun
  unfold ask
  generalize dialogue.controller.send command.requestId command.operation = sending at sends proper ⊢
  obtain ⟨result, controller⟩ := sending
  refine ⟨controller,
    dialogue.up ++ controller.connection.writtenSince dialogue.controller.connection, sends, ?_⟩
  cases result with
  | error error => exact .inr ⟨error, proper error rfl, rfl⟩
  | ok => exact .inl rfl

/-- A command that respects the limit is on its way, as long as the session is open. -/
theorem ask_of_short {command : Command} (connected : dialogue.controller.connection.isOpen = true)
    (obliging : dialogue.controller.connection.channel.Obliging)
    (short : (Message.payload command).length ≤ Frame.defaultLimit) :
    ∃ controller, Sends dialogue.controller controller ∧
      dialogue.ask command = { dialogue with
        controller, up := dialogue.up ++ command.frame, waiting := some command } := by
  have sends := sends_send dialogue.controller command
  obtain ⟨channel, accepted, sent⟩ := Controller.send_of_obliging connected obliging short
  rw [sent] at sends
  have wrote : Connection.writtenSince { dialogue.controller.connection with channel }
      dialogue.controller.connection = command.frame := writtenSince_eq accepted.written
  refine ⟨_, sends, ?_⟩
  unfold ask
  rw [sent]
  dsimp only
  rw [wrote]

/-- The controller that has sent a command is linked to the session as before. -/
theorem Linked.of_sends (linked : dialogue.Linked shutdowns) {controller : Controller}
    (sends : Sends dialogue.controller controller) (up : List UInt8) (waiting : Option Command)
    (finished : List (Command × Except Error Response)) :
    ({ dialogue with controller, up, waiting, finished } : Dialogue σ).Linked shutdowns where
  controller := sends.lossless linked.controller
  connected := sends.connected.trans linked.connected
  sends opened := sends.obliging (linked.sends opened)
  session := linked.session
  answers := linked.answers
  limited := linked.limited
  coherent := linked.coherent

/-- **Beginning a call is orderly.** -/
theorem Orderly.ask (orderly : dialogue.Orderly shutdowns) (free : dialogue.waiting = none)
    (command : Command) : (dialogue.ask command).Orderly shutdowns := by
  obtain ⟨linked, stage, proper⟩ := orderly
  cases stage with
  | commanded calls => cases free.symm.trans calls
  | suspended calls => cases free.symm.trans calls
  | answered calls => cases free.symm.trans calls
  | closed shut ready down all =>
    obtain ⟨controller, up, sends, same | ⟨error, sensible, same⟩⟩ := dialogue.ask_cases command
    · rw [same]
      exact ⟨linked.of_sends sends ..,
        .closed shut ready ((congrArg (· ++ dialogue.down) sends.delivered).trans down) all, proper⟩
    · rw [same]
      exact ⟨linked.of_sends sends ..,
        .closed shut ready ((congrArg (· ++ dialogue.down) sends.delivered).trans down)
          (all.trans (returned_of_failed rfl).symm),
        proper_append proper sensible⟩
  | idle calls opened ready up down all =>
    rcases Nat.lt_or_ge Frame.defaultLimit (Message.payload command).length with long | short
    · rw [ask_of_long long]
      exact ⟨linked.of_sends ⟨rfl, rfl, id, id⟩ ..,
        .idle calls opened ready up down (all.trans (returned_of_failed rfl).symm),
        proper_append proper nofun⟩
    · obtain ⟨controller, sends, same⟩ := ask_of_short linked.connected (linked.sends opened) short
      rw [same]
      exact ⟨linked.of_sends sends ..,
        .commanded rfl short opened ready
          ((List.append_assoc ..).symm.trans (congrArg (· ++ command.frame) up))
          ((congrArg (· ++ dialogue.down) sends.delivered).trans down) all,
        proper⟩

/-- The controller that has read the next frame is linked to the session as before. -/
theorem Linked.of_read (linked : dialogue.Linked shutdowns) (waiting : Option Command)
    (finished : List (Command × Except Error Response)) :
    ({ dialogue with
      controller := ⟨dialogue.controller.connection.readFrame.2⟩, waiting, finished } :
        Dialogue σ).Linked shutdowns where
  controller := Connection.kept_lossless.read _ linked.controller
  connected := (Exchange.untouched_readFrame _).1.trans linked.connected
  sends opened := Connection.kept_obliging.read _ (linked.sends opened)
  session := linked.session
  answers := linked.answers
  limited := linked.limited
  coherent := linked.coherent

/-- **Ending a call is orderly.** -/
theorem Orderly.collect (orderly : dialogue.Orderly shutdowns) {command : Command}
    (calls : dialogue.waiting = some command)
    (readable : dialogue.controller.connection.Readable ∨
      dialogue.exchange.dispatcher.closeReason ≠ none ∧ dialogue.down = []) :
    (dialogue.collect command).Orderly shutdowns := by
  obtain ⟨linked, stage, proper⟩ := orderly
  -- where nothing is on its way to the controller it would wait
  have waits (opened : dialogue.exchange.dispatcher.closeReason = none)
      (down : dialogue.toController = []) : False := by
    rcases readable with readable | ⟨closed, _⟩
    · exact Connection.not_readable_of_silent linked.controller linked.connected
        (List.append_eq_nil_iff.1 down).1 readable
    · exact closed opened
  cases stage with
  | idle free => cases free.symm.trans calls
  | commanded _ _ opened _ _ down => exact (waits opened down).elim
  | suspended _ _ opened _ _ down => exact (waits opened down).elim
  | @answered other response same ready up down fits matching all =>
    cases calls.symm.trans same
    have arrived : dialogue.down = [] := by
      rcases readable with readable | ⟨_, arrived⟩
      · exact Connection.arrived_of_readable linked.controller linked.connected readable down
          (Response.fits_iff.1 fits).1
      · exact arrived
    have delivered : dialogue.controller.connection.channel.delivered = response.frame := by
      rw [← down, toController, arrived, List.append_nil]
    obtain ⟨silent, collected⟩ := dialogue.controller.collect_of_delivered linked.controller
      linked.connected delivered fits
    have ended : dialogue.collect command = { dialogue with
        controller := ⟨dialogue.controller.connection.readFrame.2⟩
        waiting := none
        finished := dialogue.finished ++ [(command, .ok response)] } := by
      unfold Dialogue.collect
      rw [← matching, collected]
    rw [ended]
    refine ⟨linked.of_read .., ?_, proper_append proper matching⟩
    have nothing : dialogue.controller.connection.readFrame.2.channel.delivered ++ dialogue.down =
        [] := by
      rw [silent, arrived]
      rfl
    by_cases opened : dialogue.exchange.dispatcher.closeReason = none
    · exact .idle rfl opened ready (up opened) nothing (all.trans (returned_of_ok rfl).symm)
    · exact .closed opened ready nothing (all.trans (returned_of_ok rfl).symm)
  | closed shut ready down all =>
    obtain ⟨silent, arrived⟩ := List.append_eq_nil_iff.1 down
    have ended : dialogue.collect command = { dialogue with
        controller := ⟨dialogue.controller.connection.readFrame.2⟩
        waiting := none
        finished := dialogue.finished ++ [(command, .error (.connection .closed))] } := by
      unfold Dialogue.collect
      rw [Controller.collect_of_silent linked.controller linked.connected silent]
    rw [ended]
    refine ⟨linked.of_read .., .closed shut ready ?_ (all.trans (returned_of_failed rfl).symm),
      proper_append proper nofun⟩
    have still := Connection.readFrame_of_silent linked.controller linked.connected silent
    exact List.append_eq_nil_iff.2 ⟨still.2, arrived⟩

/-- **The controller may notice that the session is gone.** -/
theorem Orderly.hangUp (orderly : dialogue.Orderly shutdowns)
    (closed : dialogue.exchange.dispatcher.closeReason ≠ none) :
    dialogue.hangUp.Orderly shutdowns := by
  obtain ⟨linked, stage, proper⟩ := orderly
  have lossless := linked.controller
  have hung : dialogue.hangUp.Linked shutdowns :=
    { linked with
      controller := ⟨lossless.plain.of_same rfl rfl, lossless.limit⟩
      sends := fun opened => absurd opened closed }
  exact ⟨hung, stage.of_same rfl rfl rfl rfl rfl rfl rfl, proper⟩

/-! ## Steps of the connection -/

/-- What arrives at the session was on its way to it. -/
theorem toSession_carryUp (lossless : dialogue.exchange.connection.Lossless) (count : Nat) :
    (dialogue.carryUp count).toSession = dialogue.toSession := calc
  _ = (dialogue.exchange.connection.channel.delivered ++ dialogue.up.take count) ++
        dialogue.up.drop count :=
      congrArg (· ++ dialogue.up.drop count) (lossless.delivered_deliver _)
  _ = _ := by rw [List.append_assoc, List.take_append_drop, toSession]

/-- What arrives at the controller was on its way to it. -/
theorem toController_carryDown (lossless : dialogue.controller.connection.Lossless) (count : Nat) :
    (dialogue.carryDown count).toController = dialogue.toController := calc
  _ = (dialogue.controller.connection.channel.delivered ++ dialogue.down.take count) ++
        dialogue.down.drop count :=
      congrArg (· ++ dialogue.down.drop count) (lossless.delivered_deliver _)
  _ = _ := by rw [List.append_assoc, List.take_append_drop, toController]

theorem Linked.carryUp (linked : dialogue.Linked shutdowns) (count : Nat) :
    (dialogue.carryUp count).Linked shutdowns where
  controller := linked.controller
  connected := linked.connected
  sends := linked.sends
  session := linked.session.deliver _
  answers := ⟨linked.answers.progresses, linked.answers.flushes, linked.answers.present⟩
  limited := linked.limited
  coherent := by
    rcases linked.coherent with awaits | ⟨reason, ended⟩
    · exact .inl ⟨awaits.state, awaits.opened, awaits.connected, awaits.unshut⟩
    · exact .inr ⟨reason, ended.state, ended.closed, ended.settled, ended.disconnected, ended.shut⟩

theorem Linked.carryDown (linked : dialogue.Linked shutdowns) (count : Nat) :
    (dialogue.carryDown count).Linked shutdowns where
  controller := linked.controller.deliver _
  connected := linked.connected
  sends opened :=
    have sends := linked.sends opened
    ⟨sends.progresses, sends.flushes, sends.present⟩
  session := linked.session
  answers := linked.answers
  limited := linked.limited
  coherent := linked.coherent

/-- **What arrives leaves the stage as it is.** -/
theorem Orderly.carryUp (orderly : dialogue.Orderly shutdowns) (count : Nat) :
    (dialogue.carryUp count).Orderly shutdowns :=
  have same := toSession_carryUp orderly.linked.session count
  ⟨orderly.linked.carryUp count, orderly.stage.of_same rfl rfl rfl rfl rfl same rfl, orderly.proper⟩

theorem Orderly.carryDown (orderly : dialogue.Orderly shutdowns) (count : Nat) :
    (dialogue.carryDown count).Orderly shutdowns :=
  have same := toController_carryDown orderly.linked.controller count
  ⟨orderly.linked.carryDown count, orderly.stage.of_same rfl rfl rfl rfl rfl rfl same,
    orderly.proper⟩

end Calls

end Dialogue

end Cosimulation
