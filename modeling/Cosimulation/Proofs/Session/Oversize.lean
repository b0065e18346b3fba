import Cosimulation.Proofs.Session.Application
import Cosimulation.Proofs.Session.Faultless
import Cosimulation.Proofs.Session.Run
import Cosimulation.Simulator.Memory
/-!
# Answers that are too long

Over a faultless channel a command that was decoded is answered, at once or, if it is an advance,
later, with one exception.  The failure that takes the place of a response that is too long repeats
the path of the operation, and with a long path it is too long itself; then the session closes
without an answer (`cycle_answers_unless_unanswerable`).
-/

namespace Cosimulation

set_option autoImplicit false

/-! ## Executing a command -/

/-- The response that is due for what came of an operation.  For an advance none is due yet. -/
def Response.due? (id : RequestId) : Except ApplyError Applied → Option Response
  | .ok (.reply reply) => some (.ok id reply)
  | .ok (.advance _) => none
  | .ok .finish => some (.ok id .ack)
  | .error error => some (.failed id error)

namespace Exchange

variable {σ : Type} [Simulator σ] {limit : Nat} {exchange : Exchange σ}

/-- The response that is due for a command. -/
def due? (exchange : Exchange σ) (command : Command) : Option Response :=
  Response.due? command.requestId (command.operation.apply exchange.simulator).1

omit [Simulator σ] in
/-- A session that has read is as clear as before, whatever it is busy with. -/
theorem Clear.read (clear : exchange.Clear limit) {change : Dispatcher → Dispatcher}
    (opened : (change exchange.dispatcher).closeReason = none)
    (ready : (change exchange.dispatcher).pending = none)
    (limited : (change exchange.dispatcher).limit = limit) :
    Clear limit ({ exchange with connection := exchange.connection.readFrame.2 }.update change) := by
  obtain ⟨channel, ⟨taken, arrivals, rfl⟩, read⟩ := exchange.connection.onlyRead_readFrame
  rw [read]
  exact ⟨opened, ready, limited, clear.connected,
    clear.obliging.progresses, clear.obliging.flushes, clear.obliging.present⟩

/-- The failure that reports a response as too long. -/
def rejection (limit : Nat) (command : Command) (response : Response) : Response :=
  .failed response.requestId
    (Dispatcher.oversized command.operation (Message.payload response).length limit)

/-- How a command ends for which a response is due, and what has been written then. -/
inductive Concludes (limit : Nat) (command : Command) (response : Response)
    (before : List UInt8) : Outcome → List UInt8 → Prop where
  /-- The response is sent and the session goes on. -/
  | served : response.Fits limit →
      Concludes limit command response before .served (before ++ response.frame)
  /-- The response is sent and the session ends with the run. -/
  | finished : response.Fits limit → command.operation = .finish →
      Concludes limit command response before (.closed .finished) (before ++ response.frame)
  /-- The response is too long and is reported as such. -/
  | rejected : ¬response.Fits limit → (rejection limit command response).Fits limit →
      Concludes limit command response before .served
        (before ++ (rejection limit command response).frame)
  /-- The report is too long as well. -/
  | unanswered (text : String) : ¬response.Fits limit →
      ¬(rejection limit command response).Fits limit →
      Concludes limit command response before (.closed (.protocol text)) before

namespace Concludes

variable {command : Command} {response : Response} {before after : List UInt8} {outcome : Outcome}

theorem unanswered_of (concluded : Concludes limit command response before outcome after)
    (long : ¬response.Fits limit) (also : ¬(rejection limit command response).Fits limit) :
    (∃ text, outcome = .closed (.protocol text)) ∧ after = before := by
  cases concluded with
  | served fits => exact absurd fits long
  | finished fits => exact absurd fits long
  | rejected _ fits => exact absurd fits also
  | unanswered text => exact ⟨⟨text, rfl⟩, rfl⟩

theorem answered_of (concluded : Concludes limit command response before outcome after)
    (answerable : ¬(¬response.Fits limit ∧ ¬(rejection limit command response).Fits limit)) :
    (outcome = .served ∨ command.operation = .finish ∧ outcome = .closed .finished) ∧
      (response.Fits limit ∧ after = before ++ response.frame ∨
        ¬response.Fits limit ∧ after = before ++ (rejection limit command response).frame) := by
  cases concluded with
  | served fits => exact ⟨.inl rfl, .inl ⟨fits, rfl⟩⟩
  | finished fits ends => exact ⟨.inr ⟨ends, rfl⟩, .inl ⟨fits, rfl⟩⟩
  | rejected long => exact ⟨.inl rfl, .inr ⟨long, rfl⟩⟩
  | unanswered _ long also => exact absurd ⟨long, also⟩ answerable

end Concludes

omit [Simulator σ] in
/-- Answering concludes a command. -/
theorem Clear.answer_concludes (clear : exchange.Clear limit) (most : limit ≤ Frame.maximalLength)
    (response : Response) (command : Command) :
    Concludes limit command response exchange.connection.channel.written
      (exchange.answer response command.operation).1
      (exchange.answer response command.operation).2.connection.channel.written := by
  have substituted (long : ¬response.Fits limit) :
      exchange.dispatcher.substitute response command.operation =
        rejection limit command response := by
    have longer : limit < (Message.payload response).length := by
      rw [Response.fits_iff] at long
      omega
    rw [Dispatcher.substitute, clear.limited, if_pos longer]
    rfl
  rcases clear.answer_cases response command.operation with
    ⟨fits, channel, accepted, answered⟩ | ⟨long, fits, channel, accepted, answered⟩ |
      ⟨long, also, error, answered⟩
  · rw [answered]
    dsimp only
    rw [accepted.written]
    exact .served fits
  · rw [answered]
    dsimp only
    rw [accepted.written, substituted long]
    exact .rejected long (substituted long ▸ fits)
  · rw [answered]
    dsimp only [close]
    rw [Connection.written_close]
    exact .unanswered _ long (substituted long ▸ also)

/-- Finishing concludes a finish. -/
theorem Clear.finish_concludes (clear : exchange.Clear limit) {command : Command}
    (fits : (Response.ok command.requestId .ack).Fits limit)
    (ends : command.operation = .finish) :
    Concludes limit command (.ok command.requestId .ack) exchange.connection.channel.written
      (exchange.finish command.requestId).1
      (exchange.finish command.requestId).2.connection.channel.written := by
  obtain ⟨channel, accepted, finished⟩ := clear.finish fits
  rw [finished]
  dsimp only [close]
  rw [Connection.written_close, accepted.written]
  exact .finished fits ends

/-- **Executing a command leaves an advance waiting and concludes any other command.** -/
theorem Clear.execute_concludes (clear : exchange.Clear limit) (least : 256 ≤ limit)
    (most : limit ≤ Frame.maximalLength) (command : Command) :
    (∃ ticks, command.operation = .advance ticks ∧ ticks ≠ 0 ∧
      (exchange.execute command).1 = .yielded ticks ∧
      (exchange.execute command).2.connection.channel.written =
        exchange.connection.channel.written) ∨
    ∃ response, exchange.due? command = some response ∧
      (command.operation.path? = none → response.Fits limit) ∧
      Concludes limit command response exchange.connection.channel.written
        (exchange.execute command).1 (exchange.execute command).2.connection.channel.written := by
  unfold due? execute
  rcases command.operation.apply_cases exchange.simulator with
    ⟨ends, applied⟩ | ⟨ticks, waits, positive, applied⟩ | ⟨reply, replied, short⟩ |
      ⟨error, failed, path⟩
  · rw [applied]
    have fits : (Response.ok command.requestId .ack).Fits limit :=
      Response.fits_of_isShort least _ (.inl rfl)
    have entered : Clear limit (exchange.update (·.enter .responding)) :=
      ⟨clear.opened, clear.ready, clear.limited, clear.connected, clear.obliging⟩
    exact .inr ⟨_, rfl, fun _ => fits, entered.finish_concludes fits ends⟩
  · rw [applied]
    exact .inl ⟨ticks, waits, positive, rfl, rfl⟩
  · generalize command.operation.apply exchange.simulator = applied at replied ⊢
    obtain ⟨_, simulator⟩ := applied
    dsimp only at replied
    subst replied
    have entered : Clear limit ({ exchange with simulator }.update (·.enter .responding)) :=
      ⟨clear.opened, clear.ready, clear.limited, clear.connected, clear.obliging⟩
    exact .inr ⟨_, rfl, fun pathless => Response.fits_of_isShort least _ (short pathless),
      entered.answer_concludes most (.ok command.requestId reply) command⟩
  · generalize command.operation.apply exchange.simulator = applied at failed ⊢
    obtain ⟨_, simulator⟩ := applied
    dsimp only at failed
    subst failed
    have entered : Clear limit (({ exchange with simulator }.update (·.enter .responding)).update
        Dispatcher.countFailure) :=
      ⟨clear.opened, clear.ready, clear.limited, clear.connected, clear.obliging⟩
    exact .inr ⟨_, rfl, fun pathless => absurd pathless path,
      entered.answer_concludes most (.failed command.requestId error) command⟩

/-! ## Decodable commands -/

/-- A command that can neither be answered nor be reported to have too long an answer. -/
def Unanswerable (limit : Nat) (command : Command) (response : Response) : Prop :=
  ∃ path, command.operation.path? = some path ∧ limit < (Message.payload response).length ∧
    limit < rejectionLength command.operation.name path (Message.payload response).length limit

theorem requestId_of_due? {command : Command} {response : Response}
    (due : exchange.due? command = some response) : response.requestId = command.requestId := by
  unfold due? Response.due? at due
  split at due <;> cases due <;> rfl

omit [Simulator σ] in
/-- A command is unanswerable exactly when what is due is too long and so is its rejection. -/
theorem unanswerable_iff {command : Command} {response : Response}
    (most : limit ≤ Frame.maximalLength)
    (pathless : command.operation.path? = none → response.Fits limit) :
    Unanswerable limit command response ↔
      ¬response.Fits limit ∧ ¬(rejection limit command response).Fits limit := by
  have length := length_oversized response.requestId command.operation
    (Message.payload response).length limit
  rw [Response.fits_iff, Response.fits_iff, rejection, length]
  constructor
  · rintro ⟨path, named, long, also⟩
    rw [named]
    exact ⟨by omega, by rw [Option.getD_some]; omega⟩
  · rintro ⟨long, also⟩
    cases named : command.operation.path? with
    -- without a path what is due is so short that it fits
    | none => exact absurd (Response.fits_iff.1 (pathless named)) long
    | some path =>
      rw [named, Option.getD_some] at also
      exact ⟨path, named, by omega, by omega⟩

/-- A cycle that decodes a command leaves an advance waiting and concludes any other command. -/
theorem Clear.cycle_concludes (clear : exchange.Clear limit) (least : 256 ≤ limit)
    (most : limit ≤ Frame.maximalLength) {command : Command}
    (upcoming : exchange.upcoming? = some command) :
    (∃ ticks, command.operation = .advance ticks ∧ ticks ≠ 0 ∧
      exchange.cycle.1 = .yielded ticks ∧
      exchange.cycle.2.connection.channel.written = exchange.connection.channel.written) ∨
    ∃ response, exchange.due? command = some response ∧
      (command.operation.path? = none → response.Fits limit) ∧
      Concludes limit command response exchange.connection.channel.written
        exchange.cycle.1 exchange.cycle.2.connection.channel.written := by
  obtain ⟨_, _, same⟩ := cycle_of_upcoming upcoming
  have reading : Clear limit ({ exchange with connection := exchange.connection.readFrame.2 }.update
      fun dispatcher => dispatcher.countCommand.enter .applying) :=
    clear.read clear.opened clear.ready clear.limited
  have before := written_readFrame exchange
  rw [same]
  rcases reading.execute_concludes least most command with
    ⟨ticks, waits, positive, yielded, written⟩ | ⟨response, due, pathless, concluded⟩
  · exact .inl ⟨ticks, waits, positive, yielded, written.trans before⟩
  · exact .inr ⟨response, due, pathless, before ▸ concluded⟩

/-- A response that is too long is rejected if the rejection is not. -/
theorem Clear.cycle_of_rejected (clear : exchange.Clear limit) (least : 256 ≤ limit)
    (most : limit ≤ Frame.maximalLength) {command : Command} {response : Response}
    (upcoming : exchange.upcoming? = some command) (due : exchange.due? command = some response)
    (long : ¬response.Fits limit) (fits : (rejection limit command response).Fits limit) :
    exchange.cycle.2.connection.channel.written =
      exchange.connection.channel.written ++ (rejection limit command response).frame := by
  rcases clear.cycle_concludes least most upcoming with
    ⟨ticks, waits, positive, _⟩ | ⟨other, known, _, concluded⟩
  · rw [due?, waits, Operation.apply, if_neg positive] at due
    cases due
  · cases due.symm.trans known
    obtain ⟨_, ⟨short, _⟩ | ⟨_, wrote⟩⟩ := concluded.answered_of fun stuck => stuck.2 fits
    · exact absurd short long
    · exact wrote

/-- **Every decodable command is answered unless it is unanswerable.**  Over a faultless channel and
under a limit that a bridge may have, a session that decodes a command leaves an advance waiting.
Any other command it answers with one frame, which holds the response that is due or, if that is too
long, its rejection; or the command is unanswerable, and exactly then the session closes with a
protocol error and writes nothing. -/
theorem cycle_answers_unless_unanswerable (least : 256 ≤ limit) (most : limit ≤ Frame.maximalLength)
    (clear : exchange.Clear limit) {command : Command}
    (upcoming : exchange.upcoming? = some command) :
    (∃ ticks, command.operation = .advance ticks ∧ ticks ≠ 0 ∧
      exchange.cycle.1 = .yielded ticks ∧
      exchange.cycle.2.connection.channel.written = exchange.connection.channel.written) ∨
    ∃ response, exchange.due? command = some response ∧
      (Unanswerable limit command response →
        (∃ text, exchange.cycle.1 = .closed (.protocol text)) ∧
        exchange.cycle.2.connection.channel.written = exchange.connection.channel.written) ∧
      (¬Unanswerable limit command response →
        (exchange.cycle.1 = .served ∨
          command.operation = .finish ∧ exchange.cycle.1 = .closed .finished) ∧
        ∃ answer : Response, answer.requestId = command.requestId ∧
          exchange.cycle.2.connection.channel.written =
            exchange.connection.channel.written ++ answer.frame ∧
          ((Message.payload response).length ≤ limit ∧ answer = response ∨
            limit < (Message.payload response).length ∧
              answer = .failed command.requestId (Dispatcher.oversized command.operation
                (Message.payload response).length limit))) := by
  rcases clear.cycle_concludes least most upcoming with
    waiting | ⟨response, due, pathless, concluded⟩
  · exact .inl waiting
  · have matching := requestId_of_due? due
    have decides := unanswerable_iff most pathless
    refine .inr ⟨response, due, fun stuck => ?_, fun answerable => ?_⟩
    · obtain ⟨long, also⟩ := decides.1 stuck
      exact concluded.unanswered_of long also
    · obtain ⟨outcome, ⟨fits, written⟩ | ⟨long, written⟩⟩ :=
        concluded.answered_of fun stuck => answerable (decides.2 stuck)
      · exact ⟨outcome, response, matching, written, .inl ⟨(Response.fits_iff.1 fits).1, rfl⟩⟩
      · rw [rejection, matching] at written
        rw [Response.fits_iff] at long
        exact ⟨outcome, _, rfl, written, .inr ⟨by omega, rfl⟩⟩

/-- A lookup of a path so long that its failure is too long, and the rejection of the failure. -/
theorem cycle_of_long_path :
    let command : Command := ⟨.ofNat 1, .lookup (String.ofList (List.replicate 140 'a'))⟩
    let start := asked 256 command (MemorySimulator.launch ⟨[]⟩)
    (Message.payload command).length ≤ 256 ∧ start.Clear 256 ∧ start.upcoming? = some command ∧
      (∃ text, start.cycle.1 = .closed (.protocol text)) ∧
      start.cycle.2.connection.channel.written = [] := by
  intro command start
  have short : (Message.payload command).length ≤ 256 := by decide +kernel
  have clear : start.Clear 256 := clear_asked ..
  have upcoming : start.upcoming? = some command := upcoming?_asked short (by decide) _
  let response : Response :=
    .failed (.ofNat 1) (.unknownObject (String.ofList (List.replicate 140 'a')))
  have due : start.due? command = some response := by decide +kernel
  have length : (Message.payload response).length = 265 := by
    rw [Response.length_payload_failed]
    decide +kernel
  have long : ¬response.Fits 256 := by
    rw [Response.fits_iff, length]
    decide
  have also : ¬(rejection 256 command response).Fits 256 := by
    rw [rejection, Response.fits_iff, length_oversized, length]
    decide +kernel
  rcases clear.cycle_concludes (by decide) (by decide) upcoming with
    ⟨_, waits, _⟩ | ⟨_, known, _, concluded⟩
  · cases waits
  · cases due.symm.trans known
    obtain ⟨closed, written⟩ := concluded.unanswered_of long also
    exact ⟨short, clear, upcoming, closed, written⟩

/-- A signal too wide to be read under the limit, with a path that is short enough. -/
theorem cycle_answers_unless_unanswerable_wide :
    let command : Command := ⟨.ofNat 1, .read "tb.bus"⟩
    let wide := SignalValue.bits (String.ofList (List.replicate 160 '1'))
    let start := asked 256 command ((MemorySimulator.launch ⟨[]⟩).setSignal "tb.bus" wide)
    start.cycle.1 = .served ∧ start.cycle.2.connection.channel.written =
      (Response.failed (.ofNat 1) (Dispatcher.oversized (.read "tb.bus") 304 256)).frame := by
  intro command wide start
  have upcoming : start.upcoming? = some command :=
    upcoming?_asked (by decide +kernel) (by decide) _
  have due : start.due? command = some (.ok (.ofNat 1) (.value "tb.bus" wide)) := by
    decide +kernel
  have length : (Message.payload (Response.ok (.ofNat 1) (.value "tb.bus" wide))).length = 304 := by
    rw [Response.length_payload_ok]
    decide +kernel
  rcases cycle_answers_unless_unanswerable (by decide) (by decide)
      (clear_asked 256 command _) upcoming with
    ⟨_, waits, _⟩ | ⟨response, known, _, answered⟩
  · cases waits
  · cases due.symm.trans known
    have answerable : ¬Unanswerable 256 command (.ok (.ofNat 1) (.value "tb.bus" wide)) := by
      rintro ⟨path, found, _, long⟩
      cases found
      rw [length] at long
      exact absurd long (by decide +kernel)
    obtain ⟨served | ⟨ends, _⟩, answer, _, written, ⟨fits, _⟩ | ⟨_, same⟩⟩ := answered answerable
    · rw [length] at fits
      exact absurd fits (by decide)
    · rw [same, length] at written
      exact ⟨served, written.trans (List.nil_append _)⟩
    · cases ends
    · cases ends

end Exchange

end Cosimulation
