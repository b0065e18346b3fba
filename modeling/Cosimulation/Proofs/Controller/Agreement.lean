import Cosimulation.Proofs.Controller.Calls
import Cosimulation.Proofs.Controller.Stages
/-!
# Controller and session agree

The steps of the host, too, lead from stage to stage.  A turn takes the command that has arrived and
answers it, or leaves the session suspended or closed (`Orderly.cycle`); waking answers the advance of
the call (`Orderly.wake`); the end of the simulation closes the session, and answers the advance
before (`Orderly.shutdown`).  So every step of a dialogue keeps to the stages (`Orderly.step`), and as
the calls of a dialogue are calls of the controller (`CalledBy.steps`), every response that a call
returns is the one that was computed for its command (`calls_agree`).
-/

namespace Cosimulation

set_option autoImplicit false

variable {σ : Type}

namespace Exchange

variable [Simulator σ] {exchange : Exchange σ}

/-! ## What a session computes -/

/-- When no command comes, nothing is computed for one. -/
theorem computes?_of_idle (idle : exchange.upcoming? = none) : exchange.computes? = none := by
  rw [computes?, idle]
  rfl

/-- When no advance waits, nothing is computed for one. -/
theorem owes?_of_ready (ready : exchange.dispatcher.pending = none) : exchange.owes? = none := by
  rw [owes?, ready]
  rfl

/-- For an advance nothing is computed yet. -/
theorem computes?_of_advance {command : Command} {ticks : UInt64}
    (upcoming : exchange.upcoming? = some command) (asks : command.operation = .advance ticks)
    (positive : ticks ≠ 0) : exchange.computes? = none := by
  have due : exchange.due? command = none := by
    rw [due?, asks, Operation.apply, if_neg positive]
    rfl
  rw [computes?, upcoming, Option.bind_some, due]
  rfl

/-- How a turn ends that does not leave an advance waiting: the computed response has been written,
or none was computed and the session is closed. -/
theorem Concludes.computes {limit : Nat} {command : Command} {due : Response}
    {before after : List UInt8} {outcome : Outcome}
    (concluded : Concludes limit command due before outcome after)
    (limited : exchange.dispatcher.limit = limit) (upcoming : exchange.upcoming? = some command)
    (known : exchange.due? command = some due) :
    (∃ response : Response, exchange.computes? = some (command, response) ∧
      response.requestId = command.requestId ∧ response.Fits limit ∧
      after = before ++ response.frame ∧ (outcome = .served ∨ ∃ reason, outcome = .closed reason)) ∨
    exchange.computes? = none ∧ after = before ∧ ∃ reason, outcome = .closed reason := by
  have matching := requestId_of_due? known
  have computes : exchange.computes? =
      if due.Fits limit then some (command, due)
      else if (rejection limit command due).Fits limit then
        some (command, rejection limit command due)
      else none := by
    rw [computes?, upcoming, Option.bind_some, known, Option.bind_some, limited]
  cases concluded with
  | served fits =>
    rw [if_pos fits] at computes
    exact .inl ⟨due, computes, matching, fits, rfl, .inl rfl⟩
  | finished fits =>
    rw [if_pos fits] at computes
    exact .inl ⟨due, computes, matching, fits, rfl, .inr ⟨_, rfl⟩⟩
  | rejected long fits =>
    rw [if_neg long, if_pos fits] at computes
    exact .inl ⟨_, computes, matching, fits, rfl, .inl rfl⟩
  | unanswered text long also =>
    rw [if_neg long, if_neg also] at computes
    exact .inr ⟨computes, rfl, _, rfl⟩

/-- Once the command has been read that comes, a turn takes nothing more. -/
theorem delivered_cycle {command : Command} (plain : exchange.connection.readFrame.2.channel.Plain)
    (upcoming : exchange.upcoming? = some command)
    (silent : exchange.connection.readFrame.2.channel.delivered = []) :
    exchange.cycle.2.connection.channel.delivered = [] := by
  obtain ⟨_, _, same⟩ := cycle_of_upcoming upcoming
  rw [same]
  exact (kept_execute Connection.kept_silent command ⟨plain, silent⟩).2

end Exchange

namespace Dialogue

/-! ## Steps of the host -/

section Host

variable {dialogue : Dialogue σ} {shutdowns : Nat}

/-- A call of the session that changes nothing is no step. -/
theorem serve_self (dialogue : Dialogue σ) : dialogue.serve dialogue.exchange none = dialogue := by
  simp [serve, Connection.writtenSince]

/-- What a call of the session has written is on its way to the controller. -/
theorem toController_serve {exchange : Exchange σ} {computed : Option (Command × Response)}
    {bytes : List UInt8}
    (written : exchange.connection.channel.written =
      dialogue.exchange.connection.channel.written ++ bytes) :
    (dialogue.serve exchange computed).toController = dialogue.toController ++ bytes := by
  unfold toController serve
  dsimp only
  rw [writtenSince_eq written, List.append_assoc]

/-- The two ends are linked as before after a call of the session. -/
theorem Linked.serve (linked : dialogue.Linked shutdowns) {exchange : Exchange σ}
    (lossless : exchange.connection.Lossless) (obliging : exchange.connection.channel.Obliging)
    (limited : exchange.dispatcher.limit = dialogue.exchange.dispatcher.limit)
    (coherent : exchange.Coherent shutdowns)
    (opened : exchange.dispatcher.closeReason = none →
      dialogue.exchange.dispatcher.closeReason = none)
    (computed : Option (Command × Response)) :
    (dialogue.serve exchange computed).Linked shutdowns where
  controller := linked.controller
  connected := linked.connected
  sends still := linked.sends (opened still)
  session := lossless
  answers := obliging
  limited := limited.trans linked.limited
  coherent := coherent

/-- **The response to the call is on its way** once it has been written. -/
theorem Stage.answer {command : Command} {response : Response} {exchange : Exchange σ}
    (calls : dialogue.waiting = some command) (down : dialogue.toController = [])
    (all : dialogue.computed = dialogue.returned) (ready : exchange.dispatcher.pending = none)
    (silent : exchange.dispatcher.closeReason = none →
      exchange.connection.channel.delivered = [] ∧ dialogue.up = [])
    (written : exchange.connection.channel.written =
      dialogue.exchange.connection.channel.written ++ response.frame)
    (fits : response.Fits Frame.defaultLimit) (matching : response.requestId = command.requestId) :
    (dialogue.serve exchange (some (command, response))).Stage :=
  .answered calls ready (fun opened => List.append_eq_nil_iff.2 (silent opened))
    (by rw [toController_serve written, down, List.nil_append]) fits matching
    (congrArg (· ++ [(command, response)]) all)

/-- **The dialogue is over** once the session is closed and no response is on its way. -/
theorem Stage.close {exchange : Exchange σ}
    (closed : exchange.dispatcher.closeReason ≠ none) (down : dialogue.toController = [])
    (all : dialogue.computed = dialogue.returned) (ready : exchange.dispatcher.pending = none)
    (written : exchange.connection.channel.written =
      dialogue.exchange.connection.channel.written) :
    (dialogue.serve exchange none).Stage :=
  .closed closed ready
    (by rw [toController_serve (written.trans (List.append_nil _).symm), down]; rfl)
    ((List.append_nil _).trans all)

/-- A command that has arrived is the one to come, and nothing has arrived behind it. -/
theorem upcoming?_of_commanded (linked : dialogue.Linked shutdowns) {command : Command}
    (connected : dialogue.exchange.connection.isOpen = true)
    (readable : dialogue.exchange.connection.Readable)
    (opened : dialogue.exchange.dispatcher.closeReason = none)
    (ready : dialogue.exchange.dispatcher.pending = none)
    (short : (Message.payload command).length ≤ Frame.defaultLimit)
    (up : dialogue.toSession = command.frame) :
    dialogue.exchange.upcoming? = some command ∧ dialogue.up = [] ∧
      dialogue.exchange.connection.readFrame.2.channel.delivered = [] := by
  have arrived := Connection.arrived_of_readable linked.session connected readable up short
  have delivered : dialogue.exchange.connection.channel.delivered = command.frame ++ [] := by
    rw [← up, toSession, arrived, List.append_nil, List.append_nil]
  have carries : Frame.Carries dialogue.exchange.connection.limit command.frame command :=
    ⟨_, rfl, linked.session.limit ▸ short, Nat.le_trans short (by decide), command.decode_payload⟩
  obtain ⟨upcoming, channel, gives, read⟩ := Exchange.upcoming?_of_carries opened ready connected
    linked.session.plain.chunk delivered carries
  refine ⟨upcoming, arrived, ?_⟩
  rw [read]
  exact List.append_cancel_left (gives.delivered.symm.trans delivered)

variable [Simulator σ]

/-- **A turn in which the command of the call has arrived.** -/
theorem Stage.cycle (linked : dialogue.Linked shutdowns) {command : Command}
    (readable : dialogue.exchange.connection.Readable)
    (calls : dialogue.waiting = some command)
    (short : (Message.payload command).length ≤ Frame.defaultLimit)
    (awaits : dialogue.exchange.Awaits shutdowns)
    (ready : dialogue.exchange.dispatcher.pending = none)
    (up : dialogue.toSession = command.frame) (down : dialogue.toController = [])
    (all : dialogue.computed = dialogue.returned) : dialogue.cycle.Stage := by
  obtain ⟨upcoming, arrived, taken⟩ :=
    upcoming?_of_commanded linked awaits.connected readable awaits.opened ready short up
  have silent := Exchange.delivered_cycle
    (Connection.kept_lossless.read _ linked.session).plain upcoming taken
  have clear : dialogue.exchange.Clear Frame.defaultLimit :=
    ⟨awaits.opened, ready, linked.limited, awaits.connected, linked.answers⟩
  have reaches := Exchange.reaches_cycle linked.coherent
  have leaves := dialogue.exchange.leaves_cycle
  unfold Dialogue.cycle
  -- an advance suspends the session, and any other command is answered or closes it
  rcases clear.cycle_concludes (by decide) (by decide) upcoming with
    ⟨ticks, asks, positive, yielded, written⟩ | ⟨due, known, _, concluded⟩
  · have waits := Exchange.cycle_of_advance awaits.opened ready upcoming asks positive
    rw [Exchange.computes?_of_advance upcoming asks positive]
    refine .suspended calls asks ?_ ?_ (List.append_eq_nil_iff.2 ⟨silent, arrived⟩) ?_
      ((List.append_nil _).trans all)
    · exact (congrArg (·.2.dispatcher.closeReason) waits).trans awaits.opened
    · exact congrArg (·.2.dispatcher.pending) waits
    · rw [toController_serve (written.trans (List.append_nil _).symm), down]
      rfl
  · have settled (reason : CloseReason) (closes : dialogue.exchange.cycle.1 = .closed reason) :
        dialogue.exchange.cycle.2.dispatcher.closeReason ≠ none ∧
          dialogue.exchange.cycle.2.dispatcher.pending = none := by
      rw [closes] at reaches
      exact ⟨by rw [reaches.closed]; nofun, reaches.settled⟩
    rcases concluded.computes linked.limited upcoming known with
      ⟨response, computes, matching, fits, written, goes⟩ | ⟨computes, written, reason, closes⟩
    · have ready : dialogue.exchange.cycle.2.dispatcher.pending = none := by
        rcases goes with served | ⟨reason, closes⟩
        · rw [served] at leaves
          exact leaves.2
        · exact (settled reason closes).2
      rw [computes]
      exact .answer calls down all ready (fun _ => ⟨silent, arrived⟩) written fits matching
    · obtain ⟨closed, ready⟩ := settled reason closes
      rw [computes]
      exact .close closed down all ready written

/-- A session that is closed or suspended takes no turn. -/
theorem cycle_of_waiting (waits : dialogue.exchange.dispatcher.closeReason ≠ none ∨
    dialogue.exchange.dispatcher.pending ≠ none) : dialogue.cycle = dialogue := by
  have busy : ¬(dialogue.exchange.dispatcher.closeReason = none ∧
      dialogue.exchange.dispatcher.pending = none) :=
    fun ⟨opened, ready⟩ => waits.elim (absurd opened) (absurd ready)
  have idle : dialogue.exchange.upcoming? = none := if_neg busy
  have same : dialogue.exchange.cycle.2 = dialogue.exchange := by
    rcases Exchange.cycle_of_idle idle with ⟨_, _, same⟩ | ⟨_, _, same⟩ | ⟨opened, ready, _⟩
    · rw [same]
    · rw [same]
    · exact absurd ⟨opened, ready⟩ busy
  unfold Dialogue.cycle
  rw [Exchange.computes?_of_idle idle, same]
  exact dialogue.serve_self

/-- **Taking a turn is orderly.** -/
theorem Orderly.cycle (orderly : dialogue.Orderly shutdowns)
    (readable : dialogue.exchange.connection.Readable ∨
      dialogue.exchange.dispatcher.closeReason ≠ none ∨
      dialogue.exchange.dispatcher.pending ≠ none) : dialogue.cycle.Orderly shutdowns := by
  rcases readable.symm with waits | readable
  · rw [cycle_of_waiting waits]
    exact orderly
  obtain ⟨linked, stage, proper⟩ := orderly
  rcases linked.coherent with awaits | ⟨_, ended⟩
  · have turned : dialogue.cycle.Linked shutdowns :=
      linked.serve (Exchange.kept_cycle Connection.kept_lossless linked.session)
        (Exchange.kept_cycle Connection.kept_obliging linked.answers) (Exchange.limit_cycle _)
        (Exchange.reaches_cycle linked.coherent).coherent (fun _ => awaits.opened) _
    have waits (up : dialogue.toSession = []) : False :=
      Connection.not_readable_of_silent linked.session awaits.connected
        (List.append_eq_nil_iff.1 up).1 readable
    cases stage with
    | idle _ _ _ up => exact (waits up).elim
    | suspended _ _ _ _ up => exact (waits up).elim
    | answered _ _ up => exact (waits (up awaits.opened)).elim
    | closed shut => exact absurd awaits.opened shut
    | commanded calls short _ ready up down all =>
      exact ⟨turned, .cycle linked readable calls short awaits ready up down all, proper⟩
  · rw [cycle_of_waiting (.inl (by rw [ended.closed]; nofun))]
    exact ⟨linked, stage, proper⟩

/-- The session of a call that lets time pass answers it with the time. -/
theorem answerPending_of_suspended (linked : dialogue.Linked shutdowns) {command : Command}
    {ticks : UInt64} (asks : command.operation = .advance ticks)
    (awaits : dialogue.exchange.Awaits shutdowns)
    (waits : dialogue.exchange.dispatcher.pending = some ⟨command.requestId, ticks⟩) :
    ∃ (response : Response) (channel : Channel), dialogue.exchange.owes? = some (command, response) ∧
      response.requestId = command.requestId ∧ response.Fits Frame.defaultLimit ∧
      dialogue.exchange.connection.channel.Accepted response.frame channel ∧
      dialogue.exchange.answerPending = (.ok (), { dialogue.exchange.roused with
        connection := { dialogue.exchange.connection with channel } }) := by
  have least : 256 ≤ dialogue.exchange.dispatcher.limit := by
    rw [linked.limited]
    decide
  obtain ⟨fits, channel, accepted, answered⟩ := Exchange.answerPending_of_obliging awaits.opened
    waits awaits.connected linked.answers least
  have same : (⟨command.requestId, .advance ticks⟩ : Command) = command := by rw [← asks]
  rw [linked.limited] at fits
  refine ⟨_, channel, ?_, rfl, fits, accepted, answered⟩
  rw [Exchange.owes?, waits, Option.map_some, same]

/-- **Waking is orderly.** -/
theorem Orderly.wake (orderly : dialogue.Orderly shutdowns) : dialogue.wake.Orderly shutdowns := by
  have asleep (ready : dialogue.exchange.dispatcher.pending = none) :
      dialogue.wake.Orderly shutdowns := by
    unfold Dialogue.wake
    rw [Exchange.wake_of_ready ready, Exchange.owes?_of_ready ready, serve_self]
    exact orderly
  obtain ⟨linked, stage, proper⟩ := orderly
  cases stage with
  | idle _ _ ready => exact asleep ready
  | commanded _ _ _ ready => exact asleep ready
  | answered _ ready => exact asleep ready
  | closed _ ready => exact asleep ready
  | @suspended command ticks calls asks opened waits up down all =>
    have awaits := linked.coherent.awaits opened
    obtain ⟨response, channel, owes, matching, fits, accepted, answered⟩ :=
      answerPending_of_suspended linked asks awaits waits
    have woken : dialogue.exchange.wake = { dialogue.exchange.roused with
        connection := { dialogue.exchange.connection with channel } } := by
      unfold Exchange.wake
      rw [opened, answered]
    have silent := List.append_eq_nil_iff.1 up
    have turned : dialogue.wake.Linked shutdowns :=
      linked.serve (Exchange.kept_wake Connection.kept_lossless linked.session)
        (Exchange.kept_wake Connection.kept_obliging linked.answers) (Exchange.limit_wake _)
        linked.coherent.wake (fun _ => opened) _
    refine ⟨turned, ?_, proper⟩
    unfold Dialogue.wake
    rw [owes, woken]
    exact .answer calls down all rfl
      (fun _ => ⟨(congrArg Arrival.delivered accepted.arrivals).trans silent.1, silent.2⟩)
      accepted.written fits matching

/-- **The end of the simulation is orderly.** -/
theorem Orderly.shutdown (orderly : dialogue.Orderly shutdowns) :
    dialogue.shutdown.Orderly shutdowns := by
  obtain ⟨linked, stage, proper⟩ := orderly
  rcases linked.coherent with awaits | ⟨_, ended⟩
  · have turned : dialogue.shutdown.Linked shutdowns :=
      linked.serve (Exchange.kept_shutdown Connection.kept_lossless linked.session)
        (Exchange.kept_shutdown Connection.kept_obliging linked.answers) (Exchange.limit_shutdown _)
        linked.coherent.shutdown (fun _ => awaits.opened) _
    have ended := Exchange.ended_shutdown awaits
    have closed : dialogue.exchange.shutdown.dispatcher.closeReason ≠ none := by
      rw [ended.closed]
      nofun
    have silent (ready : dialogue.exchange.dispatcher.pending = none) :
        dialogue.exchange.shutdown.connection.channel.written =
          dialogue.exchange.connection.channel.written := by
      rw [Exchange.shutdown_of_opened awaits.opened, Exchange.answerPending_of_none ready]
      exact Connection.written_close _
    refine ⟨turned, ?_, proper⟩
    unfold Dialogue.shutdown
    cases stage with
    | idle calls _ ready _ down all =>
      rw [Exchange.owes?_of_ready ready]
      exact .close closed down all ended.settled (silent ready)
    | commanded calls _ _ ready _ down all =>
      rw [Exchange.owes?_of_ready ready]
      exact .close closed down all ended.settled (silent ready)
    | answered calls ready up down fits matching all =>
      rw [Exchange.owes?_of_ready ready]
      refine .answered calls ended.settled (fun opened => absurd opened closed) ?_ fits matching
        ((List.append_nil _).trans all)
      rw [toController_serve ((silent ready).trans (List.append_nil _).symm), down, List.append_nil]
    | closed shut => exact absurd awaits.opened shut
    | suspended calls asks _ waits _ down all =>
      obtain ⟨response, channel, owes, matching, fits, accepted, answered⟩ :=
        answerPending_of_suspended linked asks awaits waits
      rw [owes]
      refine .answer calls down all ended.settled (fun opened => absurd opened closed) ?_ fits matching
      rw [Exchange.shutdown_of_opened awaits.opened, answered]
      exact (Connection.written_close _).trans accepted.written
  · have same : dialogue.shutdown = dialogue := by
      unfold Dialogue.shutdown
      rw [Exchange.shutdown_of_closed ended.closed, Exchange.owes?_of_ready ended.settled, serve_self]
    rw [same]
    exact ⟨linked, stage, proper⟩

/-! ## Every dialogue -/

/-- **Every step of a dialogue is orderly.** -/
theorem Orderly.step {next : Dialogue σ} (orderly : dialogue.Orderly shutdowns)
    (step : dialogue.Step next) : next.Orderly shutdowns := by
  cases step with
  | ask command free => exact orderly.ask free command
  | collect calls readable => exact orderly.collect calls readable
  | hangUp closed => exact orderly.hangUp closed
  | carryUp count => exact orderly.carryUp count
  | carryDown count => exact orderly.carryDown count
  | cycle readable => exact orderly.cycle readable
  | wake => exact orderly.wake
  | shutdown => exact orderly.shutdown
  | alter change =>
    obtain ⟨linked, stage, proper⟩ := orderly
    have coherent : (dialogue.alter change).exchange.Coherent shutdowns :=
      linked.coherent.step (.change change)
    exact ⟨{ linked with coherent }, stage.of_same rfl rfl rfl rfl rfl rfl rfl, proper⟩

theorem Orderly.steps {next : Dialogue σ} (orderly : dialogue.Orderly shutdowns)
    (steps : dialogue.Steps next) : next.Orderly shutdowns := by
  induction steps with
  | refl => exact orderly
  | tail _ step ih => exact ih.step step

omit [Simulator σ] in
/-- A dialogue is orderly at its beginning. -/
theorem orderly_begin {near far : Channel} (close : near.Fresh) (away : far.Fresh)
    (path peer : String) (simulator : σ) :
    (begin near far path peer simulator).Orderly far.shutdowns := by
  obtain ⟨controller, nothing⟩ := Connection.lossless_ofChannel close path
  obtain ⟨session, silent⟩ := Connection.lossless_ofChannel away peer
  exact ⟨⟨controller, rfl, fun _ => close.obliging, session, away.obliging, rfl,
      .inl (Exchange.awaits_begin ..)⟩,
    .idle rfl rfl rfl (List.append_eq_nil_iff.2 ⟨silent, rfl⟩)
      (List.append_eq_nil_iff.2 ⟨nothing, rfl⟩) rfl,
    fun _ member => absurd member List.not_mem_nil⟩

omit [Simulator σ] in
/-- Whatever the stage, the responses that were returned are those that were computed, but for one
that may be on its way. -/
theorem Stage.returned_prefix (stage : dialogue.Stage) :
    dialogue.returned <+: dialogue.computed ∧
      dialogue.computed.length ≤ dialogue.returned.length + 1 := by
  have same (all : dialogue.computed = dialogue.returned) :
      dialogue.returned <+: dialogue.computed ∧
        dialogue.computed.length ≤ dialogue.returned.length + 1 :=
    ⟨⟨[], by rw [all, List.append_nil]⟩, by rw [all]; exact Nat.le_succ _⟩
  cases stage with
  | idle _ _ _ _ _ all => exact same all
  | commanded _ _ _ _ _ _ all => exact same all
  | suspended _ _ _ _ _ _ all => exact same all
  | answered _ _ _ _ _ _ all => exact ⟨⟨_, all.symm⟩, by rw [all, List.length_append]; rfl⟩
  | closed _ _ _ all => exact same all

/-! ## A call that is answered -/

omit [Simulator σ] in
/-- Between two calls every computed response has been returned. -/
theorem Stage.settled (stage : dialogue.Stage) (free : dialogue.waiting = none) :
    dialogue.computed = dialogue.returned := by
  cases stage with
  | idle _ _ _ _ _ all => exact all
  | commanded calls => cases free.symm.trans calls
  | suspended calls => cases free.symm.trans calls
  | answered calls => cases free.symm.trans calls
  | closed _ _ _ all => exact all

omit [Simulator σ] in
/-- Between two calls an open session awaits a command, and none is on its way. -/
theorem Stage.awaiting (stage : dialogue.Stage) (free : dialogue.waiting = none)
    (opened : dialogue.exchange.dispatcher.closeReason = none) :
    dialogue.exchange.dispatcher.pending = none ∧ dialogue.toSession = [] := by
  cases stage with
  | idle _ _ ready up => exact ⟨ready, up⟩
  | commanded calls => cases free.symm.trans calls
  | suspended calls => cases free.symm.trans calls
  | answered calls => cases free.symm.trans calls
  | closed shut => exact absurd opened shut

omit [Simulator σ] in
/-- A response that has been computed and not returned is on its way. -/
theorem Stage.answering (stage : dialogue.Stage) {command : Command} {response : Response}
    (all : dialogue.computed = dialogue.returned ++ [(command, response)]) :
    dialogue.waiting = some command ∧ dialogue.toController = response.frame ∧
      response.Fits Frame.defaultLimit := by
  have differ (same : dialogue.computed = dialogue.returned) : False := by
    have lengths := congrArg List.length (all.symm.trans same)
    rw [List.length_append] at lengths
    exact Nat.succ_ne_self _ lengths
  cases stage with
  | idle _ _ _ _ _ same => exact (differ same).elim
  | commanded _ _ _ _ _ _ same => exact (differ same).elim
  | suspended _ _ _ _ _ _ same => exact (differ same).elim
  | closed _ _ _ same => exact (differ same).elim
  | answered calls _ _ down fits _ same =>
    cases List.append_cancel_left (all.symm.trans same)
    exact ⟨calls, down, fits⟩

/-- Once a command has arrived in full, a turn computes the response that is due. -/
theorem steps_serve (linked : dialogue.Linked shutdowns) {command : Command} {response : Response}
    (opened : dialogue.exchange.dispatcher.closeReason = none)
    (ready : dialogue.exchange.dispatcher.pending = none)
    (short : (Message.payload command).length ≤ Frame.defaultLimit)
    (up : dialogue.toSession = command.frame)
    (due : dialogue.exchange.due? command = some response)
    (fits : response.Fits Frame.defaultLimit) :
    let next := (dialogue.carryUp dialogue.up.length).cycle
    dialogue.Steps next ∧ next.computed = dialogue.computed ++ [(command, response)] := by
  intro next
  have carried := linked.carryUp dialogue.up.length
  have arrived := (toSession_carryUp linked.session dialogue.up.length).trans up
  have connected := (linked.coherent.awaits opened).connected
  have delivered :
      (dialogue.carryUp dialogue.up.length).exchange.connection.channel.delivered =
        command.frame := by
    rw [← arrived, toSession, show (dialogue.carryUp _).up = [] from List.drop_length, List.append_nil]
  have readable := Connection.readable_of_delivered carried.session connected delivered short
  obtain ⟨upcoming, _⟩ :=
    upcoming?_of_commanded carried connected readable opened ready short arrived
  have computes :
      (dialogue.carryUp dialogue.up.length).exchange.computes? = some (command, response) := by
    have known : (dialogue.carryUp dialogue.up.length).exchange.due? command = some response := due
    rw [Exchange.computes?, upcoming, Option.bind_some, known, Option.bind_some, carried.limited,
      if_pos fits]
  have computed : next.computed = dialogue.computed ++
      (dialogue.carryUp dialogue.up.length).exchange.computes?.toList := rfl
  rw [computes] at computed
  exact ⟨.tail (.single (.carryUp _)) (.cycle (.inl readable)), computed⟩

/-- Once a response has arrived in full, the call ends. -/
theorem steps_hear (linked : dialogue.Linked shutdowns) {command : Command} {response : Response}
    (calls : dialogue.waiting = some command) (down : dialogue.toController = response.frame)
    (fits : response.Fits Frame.defaultLimit) :
    dialogue.Steps ((dialogue.carryDown dialogue.down.length).collect command) := by
  have carried := linked.carryDown dialogue.down.length
  have delivered :
      (dialogue.carryDown dialogue.down.length).controller.connection.channel.delivered =
        response.frame := by
    rw [← down, ← toController_carryDown linked.controller dialogue.down.length, toController,
      show (dialogue.carryDown _).down = [] from List.drop_length, List.append_nil]
  have readable := Connection.readable_of_delivered carried.controller carried.connected delivered
    (Response.fits_iff.1 fits).1
  exact .tail (.single (.carryDown _)) (.collect calls (.inl readable))

/-- **A call is answered in five steps**: the command is sent and arrives, a turn answers it, and the
response arrives and is read.  Only an advance takes longer. -/
theorem Orderly.answers (orderly : dialogue.Orderly shutdowns) (free : dialogue.waiting = none)
    (opened : dialogue.exchange.dispatcher.closeReason = none) {command : Command}
    {response : Response} (short : (Message.payload command).length ≤ Frame.defaultLimit)
    (due : dialogue.exchange.due? command = some response)
    (fits : response.Fits Frame.defaultLimit) :
    ∃ next, dialogue.Steps next ∧ next.returned = dialogue.returned ++ [(command, response)] := by
  have all := orderly.stage.settled free
  obtain ⟨ready, up⟩ := orderly.stage.awaiting free opened
  obtain ⟨controller, _, same⟩ :=
    ask_of_short orderly.linked.connected (orderly.linked.sends opened) short
  have asking : dialogue.Steps _ := .single (.ask command free)
  rw [same] at asking
  have sent : toSession { dialogue with
      controller, up := dialogue.up ++ command.frame, waiting := some command } = command.frame :=
    (List.append_assoc ..).symm.trans (congrArg (· ++ command.frame) up)
  obtain ⟨serving, computed⟩ :=
    steps_serve (orderly.steps asking).linked opened ready short sent due fits
  have served := orderly.steps (asking.trans serving)
  obtain ⟨calls, down, _⟩ :=
    served.stage.answering (computed.trans (congrArg (· ++ [(command, response)]) all))
  have hearing := steps_hear served.linked calls down fits
  refine ⟨_, (asking.trans serving).trans hearing, ?_⟩
  have ended := ((orderly.steps ((asking.trans serving).trans hearing)).stage.settled rfl).symm
  exact ended.trans (computed.trans (congrArg (· ++ [(command, response)]) all))

/-! ## Every dialogue agrees -/

/-- **Controller and session agree.**  Over a fresh connection that loses nothing, whatever calls the
controller makes one after the other, and however the turns of the host, the changes of its state and
the end of the simulation come between them: the calls that have come to an end are calls of the
controller (`Controller.call`), made one after the other with just these results, and so is the one
that waits, which ends as the call does.  To wake the session and then to take a turn on it is to
resume it (`Exchange.resume`).  Every call that returns a response returns one under its
own request id, and the responses returned are, in their order, those that the session has computed
for the operations of these calls, of which at most one is still on its way.  No call fails because it
finds a response that makes no sense, or one to another command.  A call whose command is too long
fails, and otherwise leaves everything as it was.  And as long as the session is open, the next call
can be answered, if the response that is due to it fits a frame. -/
theorem calls_agree {near far : Channel} (close : near.Fresh) (away : far.Fresh)
    (path peer : String) (simulator : σ) {dialogue : Dialogue σ}
    (steps : (begin near far path peer simulator).Steps dialogue) :
    (∃ caller, (Controller.accept ⟨path⟩ near).Makes dialogue.finished caller ∧
      (dialogue.waiting = none → dialogue.controller = caller) ∧
      ∀ command, dialogue.waiting = some command →
        (dialogue.controller.collect command.requestId).1 =
          (caller.call command.requestId command.operation).1) ∧
    dialogue.wake.cycle.exchange = dialogue.exchange.resume.2 ∧
    (∀ command response, (command, .ok response) ∈ dialogue.finished →
      response.requestId = command.requestId) ∧
    dialogue.returned <+: dialogue.computed ∧
    dialogue.computed.length ≤ dialogue.returned.length + 1 ∧
    (∀ command text, (command, .error (.protocol (.malformed text))) ∉ dialogue.finished) ∧
    (∀ command : Command, Frame.defaultLimit < (Message.payload command).length →
      let refused : Except Error Response := .error (.protocol
        (.frameTooLarge (Message.payload command).length Frame.defaultLimit))
      dialogue.controller.call command.requestId command.operation =
        (refused, dialogue.controller) ∧
      dialogue.ask command =
        { dialogue with finished := dialogue.finished ++ [(command, refused)] }) ∧
    ∀ command response, dialogue.waiting = none →
      dialogue.exchange.dispatcher.closeReason = none →
      (Message.payload command).length ≤ Frame.defaultLimit →
      dialogue.exchange.due? command = some response → response.Fits Frame.defaultLimit →
      ∃ next, dialogue.Steps next ∧
        next.returned = dialogue.returned ++ [(command, response)] := by
  have orderly := (orderly_begin close away path peer simulator).steps steps
  have called : dialogue.CalledBy (.accept ⟨path⟩ near) := .steps (.between rfl .nothing) steps
  obtain ⟨inOrder, few⟩ := orderly.stage.returned_prefix
  have resumes : dialogue.wake.cycle.exchange = dialogue.exchange.resume.2 := by
    rw [Exchange.resume_eq_cycle_wake]
    rfl
  refine ⟨called.caller, resumes, fun command response returned => orderly.proper _ returned,
    inOrder, few, fun command text failed => orderly.proper _ failed text rfl,
    fun command long => ⟨?_, ask_of_long long⟩,
    fun command response free opened short due fits => orderly.answers free opened short due fits⟩
  rw [Controller.call_eq, Controller.send_of_long long]

omit [Simulator σ] in
/-- A channel on which nothing has happened is fresh. -/
theorem fresh_ofArrivals : (Channel.ofArrivals []).Fresh :=
  ⟨rfl, nofun, nofun, nofun, rfl⟩

/-- A ping that is answered, and what agrees then. -/
theorem calls_agree_ping :
    let start := begin (.ofArrivals []) (.ofArrivals []) "bridge.sock" "controller"
      (MemorySimulator.launch ⟨[]⟩)
    let ping : Command := ⟨.ofNat 1, .ping⟩
    let pong : Response := .ok (.ofNat 1) (.pong 0)
    ∃ dialogue caller, start.Steps dialogue ∧ dialogue.returned = [(ping, pong)] ∧
      start.controller.Makes dialogue.finished caller ∧
      dialogue.returned <+: dialogue.computed ∧ dialogue.computed.length ≤ 2 := by
  intro start ping pong
  have orderly := orderly_begin fresh_ofArrivals fresh_ofArrivals "bridge.sock" "controller"
    (MemorySimulator.launch ⟨[]⟩)
  have short : (Message.payload ping).length ≤ Frame.defaultLimit := by decide +kernel
  have due : start.exchange.due? ping = some pong := by decide +kernel
  have fits : pong.Fits Frame.defaultLimit :=
    Response.fits_of_isShort (by decide) _ (.inr (.inl ⟨_, rfl⟩))
  obtain ⟨dialogue, steps, returned⟩ := orderly.answers rfl rfl short due fits
  obtain ⟨⟨caller, makes, _⟩, _, _, inOrder, few, _⟩ :=
    calls_agree fresh_ofArrivals fresh_ofArrivals _ _ _ steps
  rw [returned] at few
  exact ⟨dialogue, caller, steps, returned, makes, inOrder, few⟩

end Host

end Dialogue

end Cosimulation
