import Cosimulation.Proofs.Session.Draining
import Cosimulation.Proofs.Wire.RoundTrip
import Cosimulation.Registration
import Mathlib.Data.List.Forall2
/-!
# What a session hears and says in one call

The host calls a session again and again, and everything that is heard or said belongs to the call in
which it is (`During`).  A call takes over what the session still owes an answer from earlier calls,
hears commands, gives answers, and hands on what is then owed (`Progress`).  Answers are given in the
order of the commands, and the answer to an advance is the time of its call, which must not come too
early (`Timely`).

Progress is made by cycling (`progress_cycles`), by answering an advance that has waited
(`progress_resumed`), and by shutting down (`progress_shutdown`), and it adds up (`Progress.trans`).
-/

namespace Cosimulation

set_option autoImplicit false

/-! ## Calls -/

/-- A call of the host, with what there was when it was made. -/
structure Call where
  number : Nat
  entry : EntryPoint
  clock : UInt64
  /-- The triggers that the host rejects. -/
  rejected : List Trigger
  deriving DecidableEq, Repr

/-- What is heard or said, with the call in which it is. -/
structure During (α : Type) where
  call : Call
  content : α

/-- A response answers a command.  To an advance it is the time of its call; that is not before the
time that was to pass has passed, unless the simulation ends or the host rejected the delay, in the
very call in which the advance was heard. -/
structure Timely (asked : During Command) (answer : During Response) : Prop where
  matching : answer.content.requestId = asked.content.requestId
  timed : ∀ ticks, asked.content.operation = .advance ticks → ticks ≠ 0 →
    answer.content = .ok asked.content.requestId (.time answer.call.clock) ∧
      (timeAfter asked.call.clock ticks ≤ answer.call.clock ∨ answer.call.entry = .shutdown ∨
        answer.call = asked.call ∧ .afterDelay ticks ∈ answer.call.rejected)

/-- An answer that is given at once is timely, since no advance is answered so. -/
theorem timely_of_atOnce {asked : During Command} {answer : During Response}
    (matching : answer.content.requestId = asked.content.requestId)
    (atOnce : ¬asked.content.operation.Suspends) : Timely asked answer :=
  ⟨matching, fun ticks asks positive => absurd ⟨ticks, asks, positive⟩ atOnce⟩

/-- The response to an advance, sent in a call. -/
def dueIn (call : Call) (asked : During Command) : During Response :=
  ⟨call, .ok asked.content.requestId (.time call.clock)⟩

/-- It is timely when the time has passed, at the end, or when the delay was rejected. -/
theorem timely_dueIn {call : Call} {asked : During Command}
    (due : ∀ ticks, asked.content.operation = .advance ticks →
      timeAfter asked.call.clock ticks ≤ call.clock ∨ call.entry = .shutdown ∨
        call = asked.call ∧ .afterDelay ticks ∈ call.rejected) : Timely asked (dueIn call asked) :=
  ⟨rfl, fun ticks asks _ => ⟨rfl, due ticks asks⟩⟩

/-! ## Progress -/

/-- The command that an advance which waits was. -/
def PendingAdvance.command (advance : PendingAdvance) : Command :=
  ⟨advance.requestId, .advance advance.ticks⟩

/-- The commands that a session still owes an answer: the advance that waits, if one does. -/
def Dispatcher.owed (dispatcher : Dispatcher) : List Command :=
  (dispatcher.pending.map PendingAdvance.command).toList

/-- A session that is not suspended owes nothing. -/
theorem Dispatcher.owed_of_ready {dispatcher : Dispatcher} (ready : dispatcher.pending = none) :
    dispatcher.owed = [] := by
  unfold owed
  rw [ready]
  rfl

/-- What there is to tell of a conversation: the bytes said so far, the commands that still wait for
their answers, and whether it goes on. -/
structure Speech where
  written : List UInt8
  owed : List Command
  GoesOn : Prop

/-- The conversation of a session. -/
def Exchange.speech {σ : Type} (exchange : Exchange σ) : Speech :=
  ⟨exchange.connection.channel.written, exchange.dispatcher.owed,
    exchange.dispatcher.closeReason = none⟩

/-- A session that is closed says no more. -/
theorem Exchange.halted_close {σ : Type} (exchange : Exchange σ) (reason : CloseReason) :
    ¬(exchange.close reason).2.speech.GoesOn :=
  Option.some_ne_none reason

/-- During a call, in which the conversation has come from the bytes `begun` to `after`: the commands
`owed` were still to be answered, others were heard, some of all these were answered in their order,
and the `rest` is still owed.  A conversation that has ended may have said the beginning of one more
answer. -/
structure Progress (call : Call) (begun : List UInt8) (owed : List (During Command))
    (heard : List Command) (answered : List Response) (rest : List (During Command))
    (fragment : List UInt8) (after : Speech) : Prop where
  written : after.written = begun ++ Response.frames answered ++ fragment
  matched : ∃ asked, owed ++ heard.map (During.mk call) = asked ++ rest ∧
    List.Forall₂ (fun asked answer => Timely asked ⟨call, answer⟩) asked answered
  goesOn : after.GoesOn → rest.map During.content = after.owed ∧ fragment = []
  expressible : ∀ response ∈ answered, (Message.payload response).length ≤ Frame.maximalLength
  cut : Frame.front? fragment = none

namespace Progress

variable {call : Call} {begun : List UInt8} {owed rest : List (During Command)}
  {heard : List Command} {answered : List Response} {fragment : List UInt8} {speech after : Speech}

/-- Nothing is heard or said. -/
theorem refl (goesOn : speech.GoesOn → owed.map During.content = speech.owed) :
    Progress call speech.written owed [] [] owed [] speech where
  written := by simp [Response.frames]
  matched := ⟨[], by simp, .nil⟩
  goesOn still := ⟨goesOn still, rfl⟩
  expressible := nofun
  cut := Frame.front?_nil

/-- A conversation that ends has made the progress that it had made before. -/
theorem ended (progress : Progress call begun owed heard answered rest fragment speech)
    (written : after.written = speech.written) (halted : ¬after.GoesOn) :
    Progress call begun owed heard answered rest fragment after where
  written := written.trans progress.written
  matched := progress.matched
  goesOn still := absurd still halted
  expressible := progress.expressible
  cut := progress.cut

/-- **Progress adds up.** -/
theorem trans {moreHeard : List Command} {moreAnswered : List Response}
    {last : List (During Command)} {lastFragment : List UInt8}
    (front : Progress call begun owed heard answered rest fragment speech) (still : speech.GoesOn)
    (back : Progress call speech.written rest moreHeard moreAnswered last lastFragment after) :
    Progress call begun owed (heard ++ moreHeard) (answered ++ moreAnswered) last lastFragment
      after where
  written := by
    rw [back.written, front.written, (front.goesOn still).2]
    simp [Response.frames]
  matched := by
    obtain ⟨asked, split, match₁⟩ := front.matched
    obtain ⟨moreAsked, moreSplit, match₂⟩ := back.matched
    refine ⟨asked ++ moreAsked, ?_, List.rel_append match₁ match₂⟩
    rw [List.map_append, ← List.append_assoc, split, List.append_assoc, moreSplit,
      List.append_assoc]
  goesOn := back.goesOn
  expressible response member := (List.mem_append.1 member).elim (front.expressible response)
    (back.expressible response)
  cut := back.cut

/-- What is owed after a call that took over nothing was heard in that call. -/
theorem call_of_rest (progress : Progress call begun [] heard answered rest fragment after) :
    ∀ asked ∈ rest, asked.call = call := by
  obtain ⟨answered, split, _⟩ := progress.matched
  intro asked member
  have heard : asked ∈ heard.map (During.mk call) := by
    rw [List.nil_append] at split
    exact split ▸ List.mem_append_right _ member
  obtain ⟨command, _, rfl⟩ := List.mem_map.1 heard
  rfl

end Progress

/-! ## Answering -/

/-- A short reply is never longer than the failure that would report it as too long. -/
theorem Dispatcher.Chooses.eq_of_isShort {dispatcher : Dispatcher} {id : RequestId} {reply : Reply}
    {operation : Operation} {sent : Response}
    (chooses : dispatcher.Chooses (.ok id reply) operation sent) (short : reply.IsShort) :
    sent = .ok id reply := by
  rcases chooses.2 with same | ⟨long, same⟩
  · exact same
  · have fits := (Response.fits_iff.1 chooses.1).1
    rw [same, Dispatcher.substitute, length_oversized] at fits
    refine absurd (Response.fits_iff.2 ?_) long
    have length := Response.length_payload_of_isShort id short
    unfold rejectionLength at fits
    exact ⟨by omega, Nat.le_trans length (by decide)⟩

/-- What is not the whole of a frame begins with no frame. -/
theorem Frame.front?_of_cut {payload front back : List UInt8} (short : payload.length ≤ maximalLength)
    (split : enclose payload = front ++ back) (cut : back ≠ []) : front? front = none := by
  refine Option.eq_none_iff_forall_ne_some.2 fun ⟨other, rest⟩ found => cut ?_
  obtain ⟨whole, alsoShort⟩ := front?_eq_some_iff.1 found
  rw [whole, List.append_assoc] at split
  have same := payload_eq_of_front alsoShort short split
  rw [same] at split
  have behind : rest ++ back = [] := List.append_cancel_left (split.symm.trans (List.append_nil _).symm)
  exact (List.append_eq_nil_iff.1 behind).2

namespace Exchange

variable {σ : Type} {call : Call}

/-- **Answering makes progress**: the command that is answered is owed no more, unless the answer is
cut off, which ends the conversation. -/
theorem progress_of_responds {before after : Exchange σ} {due : Response} {operation : Operation}
    {result : Except CloseReason Unit} (responds : before.Responds due operation result after)
    (owed : List (During Command)) (heard : List Command) {asked : During Command} (last : Speech)
    (split : owed ++ heard.map (During.mk call) = [asked])
    (timely : ∀ sent, before.dispatcher.Chooses due operation sent → Timely asked ⟨call, sent⟩)
    (written : last.written = after.connection.channel.written)
    (halted : ∀ reason, result = .error reason → ¬last.GoesOn)
    (settled : last.GoesOn → last.owed = []) :
    ∃ answered rest fragment, Progress call before.connection.channel.written owed heard answered
        rest fragment last ∧ (result = .ok () → rest = []) := by
  have whole {sent : Response} (chooses : before.dispatcher.Chooses due operation sent)
      (wrote : after.connection.channel.written =
        before.connection.channel.written ++ sent.frame) :
      Progress call before.connection.channel.written owed heard [sent] [] [] last :=
    { written := by simp [written, wrote, Response.frames]
      matched := ⟨[asked], by simpa using split, .cons (timely sent chooses) .nil⟩
      goesOn := fun still => ⟨(settled still).symm, rfl⟩
      expressible := fun response member =>
        List.mem_singleton.1 member ▸ (Response.fits_iff.1 chooses.1).2
      cut := Frame.front?_nil }
  cases responds with
  | sent chooses wrote => exact ⟨_, _, _, whole chooses wrote.written, fun _ => rfl⟩
  | broke error front wrote =>
    rename_i reason bytes _ _
    have part (begins : Frame.front? bytes = none) :
        Progress call before.connection.channel.written owed heard [] [asked] bytes last :=
      { written := by
          rw [written, wrote.written]
          simp [Response.frames]
        matched := ⟨[], by simpa using split, .nil⟩
        goesOn := fun still => absurd still (halted reason rfl)
        expressible := nofun
        cut := begins }
    rcases front with rfl | ⟨sent, back, chooses, frame⟩
    · exact ⟨_, _, _, part Frame.front?_nil, nofun⟩
    · by_cases complete : back = []
      · have all : sent.frame = bytes := by rw [frame, complete, List.append_nil]
        exact ⟨_, _, _, whole chooses (all ▸ wrote.written), nofun⟩
      · have short := (Response.fits_iff.1 chooses.1).2
        exact ⟨_, _, _, part (Frame.front?_of_cut short frame complete), nofun⟩

/-! ## Cycling -/

variable [Simulator σ] {exchange : Exchange σ}

/-- The answer that is chosen for a command which lets no time pass is timely. -/
theorem timely_of_chooses {dispatcher : Dispatcher} {command : Command} {due sent : Response}
    (atOnce : ¬command.operation.Suspends) (matching : due.requestId = command.requestId)
    (chooses : dispatcher.Chooses due command.operation sent) : Timely ⟨call, command⟩ ⟨call, sent⟩ :=
  timely_of_atOnce (chooses.requestId.trans matching) atOnce

omit [Simulator σ] in
/-- A session that does nothing hears and says nothing. -/
theorem progress_refl (exchange : Exchange σ) (call : Call) {owed : List (During Command)}
    (owes : owed.map During.content = exchange.dispatcher.owed) :
    Progress call exchange.connection.channel.written owed [] [] owed [] exchange.speech :=
  @Progress.refl call owed exchange.speech fun _ => owes

/-- **A turn makes progress** with the command that comes. -/
theorem Turn.progress {outcome : Outcome} {after : Exchange σ} (turn : exchange.Turn outcome after)
    (ready : exchange.dispatcher.pending = none) (call : Call) :
    ∃ answered rest fragment, Progress call exchange.connection.channel.written []
      exchange.upcoming?.toList answered rest fragment after.speech := by
  have listened : exchange.connection.readFrame.2.channel.written =
      exchange.connection.channel.written := exchange.written_readFrame
  cases turn with
  | idle unasked _ =>
    have silent : Progress call exchange.connection.channel.written [] [] [] [] [] exchange.speech :=
      exchange.progress_refl call (Dispatcher.owed_of_ready ready).symm
    rw [unasked]
    exact ⟨_, _, _, silent.ended ((Connection.written_close _).trans listened)
      (halted_close _ _)⟩
  | @suspended command ticks upcoming asks _ =>
    rw [upcoming]
    obtain ⟨id, operation⟩ := command
    cases asks
    exact ⟨[], [⟨call, id, .advance ticks⟩], [],
      { written := by simpa [speech, suspend, update, Exchange.listened, Response.frames] using listened
        matched := ⟨[], rfl, .nil⟩
        goesOn := fun _ => ⟨rfl, rfl⟩
        expressible := List.forall_mem_nil _
        cut := Frame.front?_nil }⟩
  | @served command due answered upcoming atOnce matching responds =>
    rw [upcoming, ← listened]
    obtain ⟨answers, rest, fragment, progress, _⟩ :=
      @progress_of_responds _ call _ _ _ _ _ responds [] [command] _
        (answered.update (·.enter .awaitingMessage)).speech rfl
        (fun sent => timely_of_chooses atOnce matching) rfl (fun _ failed => by cases failed)
        fun _ => Dispatcher.owed_of_ready (responds.keeps.2.1.trans ready)
    exact ⟨answers, rest, fragment, progress⟩
  | @broke command due reason answered upcoming atOnce matching responds =>
    rw [upcoming, ← listened]
    obtain ⟨answers, rest, fragment, progress, _⟩ :=
      progress_of_responds responds [] [command] (answered.close reason).2.speech rfl
        (fun sent => timely_of_chooses atOnce matching) (Connection.written_close _)
        (fun _ _ => halted_close _ _) fun still => absurd still (halted_close _ _)
    exact ⟨answers, rest, fragment, progress⟩
  | @finished command answered upcoming ends responds =>
    have atOnce : ¬command.operation.Suspends := by
      rintro ⟨ticks, asks, _⟩
      cases ends.symm.trans asks
    rw [upcoming, ← listened]
    obtain ⟨answers, rest, fragment, progress, _⟩ :=
      progress_of_responds responds [] [command]
        ({ answered with simulator := Simulator.finish answered.simulator }.close .finished).2.speech
        rfl (fun sent chooses => timely_of_atOnce chooses.requestId atOnce)
        (Connection.written_close _) (fun _ failed => by cases failed)
        fun still => absurd still (halted_close _ _)
    exact ⟨answers, rest, fragment, progress⟩

/-- **Cycling makes progress** with the commands that come. -/
theorem progress_cycles (opened : exchange.dispatcher.closeReason = none)
    (ready : exchange.dispatcher.pending = none) (call : Call) (count : Nat) :
    ∃ answered rest fragment, Progress call exchange.connection.channel.written []
      (exchange.heard (List.replicate count .cycle)) answered rest fragment
      (exchange.run (List.replicate count .cycle)).speech := by
  induction count generalizing exchange with
  | zero => exact ⟨_, _, _, exchange.progress_refl call (Dispatcher.owed_of_ready ready).symm⟩
  | succ count ih =>
    obtain ⟨answered, rest, fragment, first⟩ := (cycle_turn opened ready).progress ready call
    have heard : exchange.heard (List.replicate (count + 1) .cycle) =
        exchange.upcoming?.toList ++ exchange.cycle.2.heard (List.replicate count .cycle) := rfl
    have run : exchange.run (List.replicate (count + 1) .cycle) =
        exchange.cycle.2.run (List.replicate count .cycle) := rfl
    rw [heard, run]
    by_cases resting : exchange.cycle.2.Resting
    · rw [(run_cycles_of_resting resting count).1, (run_cycles_of_resting resting count).2,
        List.append_nil]
      exact ⟨answered, rest, fragment, first⟩
    · obtain ⟨still, stillReady⟩ := not_or.1 resting
      rw [not_ne_iff] at still stillReady
      obtain ⟨answers, last, lastFragment, others⟩ := ih still stillReady
      have settled : rest = [] := List.map_eq_nil_iff.1
        ((first.goesOn still).1.trans (Dispatcher.owed_of_ready stillReady))
      exact ⟨_, _, _, first.trans still (settled ▸ others)⟩

/-! ## Answering an advance that has waited -/

/-- A session that answers its advance in a call, at the time of the call. -/
theorem progress_answered {advance : PendingAdvance} {result : Except CloseReason Unit}
    {after : Exchange σ} (clock : (Simulator.time exchange.simulator).1 = call.clock)
    (waiting : exchange.dispatcher.pending = some advance)
    (answered : exchange.answerPending = (result, after)) {owed : List (During Command)}
    (owes : owed.map During.content = exchange.dispatcher.owed)
    (timely : ∀ asked ∈ owed, Timely asked (dueIn call asked)) (last : Speech)
    (written : last.written = after.connection.channel.written)
    (halted : ∀ reason, result = .error reason → ¬last.GoesOn)
    (settled : last.GoesOn → last.owed = []) :
    ∃ answers rest fragment, Progress call exchange.connection.channel.written owed [] answers rest
      fragment last ∧ (result = .ok () → rest = []) := by
  have responds := answerPending_responds waiting
  rw [answered, clock] at responds
  have one : owed.map During.content = [advance.command] := by
    rw [owes, Dispatcher.owed, waiting]
    rfl
  obtain ⟨asked, rfl, same⟩ := List.map_eq_singleton_iff.1 one
  refine progress_of_responds responds [asked] [] last rfl (fun sent chooses => ?_) written halted settled
  have chosen : sent = .ok advance.requestId (.time call.clock) :=
    chooses.eq_of_isShort (.inr (.inr ⟨_, rfl⟩))
  have due : (⟨call, sent⟩ : During Response) = dueIn call asked := by
    rw [chosen, dueIn, same]
    rfl
  exact due ▸ timely asked List.mem_cons_self

/-- **Resuming and cycling make progress**: the advance that waits is answered, and then the commands
that come.  What is owed afterwards was heard in the same call. -/
theorem progress_resumed (opened : exchange.dispatcher.closeReason = none)
    (clock : (Simulator.time exchange.simulator).1 = call.clock) {owed : List (During Command)}
    (owes : owed.map During.content = exchange.dispatcher.owed)
    (timely : ∀ asked ∈ owed, Timely asked (dueIn call asked)) (count : Nat) :
    let events : List (Event σ) := .resume :: List.replicate count .cycle
    ∃ answered rest fragment, Progress call exchange.connection.channel.written owed
        (exchange.heard events) answered rest fragment (exchange.run events).speech ∧
      ((exchange.run events).speech.GoesOn → ∀ asked ∈ rest, asked.call = call) := by
  intro events
  cases answered : exchange.answerPending with
  | mk result after =>
    cases result with
    | ok =>
      -- once the advance is answered, or if none waits, resuming is the first of the cycles
      have resumes : exchange.resume = after.cycle := by simp only [resume, opened, answered]
      have run : exchange.run events = after.run (List.replicate (count + 1) .cycle) := by
        show exchange.resume.2.run _ = after.cycle.2.run _
        rw [resumes]
      have heard : exchange.heard events = after.heard (List.replicate (count + 1) .cycle) := by
        show (exchange.decoded? .resume).toList ++ exchange.resume.2.heard _ =
          after.upcoming?.toList ++ after.cycle.2.heard _
        rw [resumes]
        simp only [decoded?, opened, answered]
      obtain ⟨still, ready, answers, fragment, front⟩ :
          after.dispatcher.closeReason = none ∧ after.dispatcher.pending = none ∧
          ∃ answers fragment, Progress call exchange.connection.channel.written owed [] answers []
            fragment after.speech := by
        cases waiting : exchange.dispatcher.pending with
        | none =>
          obtain ⟨_, rfl⟩ := Prod.mk.inj ((answerPending_of_none waiting).symm.trans answered)
          have unowed : owed = [] :=
            List.map_eq_nil_iff.1 (owes.trans (Dispatcher.owed_of_ready waiting))
          subst unowed
          exact ⟨opened, waiting, [], [],
            exchange.progress_refl call (Dispatcher.owed_of_ready waiting).symm⟩
        | some advance =>
          have responds := answerPending_responds waiting
          rw [answered] at responds
          have ready : after.dispatcher.pending = none := responds.keeps.2.1
          obtain ⟨answers, rest, fragment, progress, all⟩ :=
            progress_answered clock waiting answered owes timely after.speech rfl
              (fun _ failed => by cases failed) fun _ => Dispatcher.owed_of_ready ready
          exact ⟨responds.keeps.1.trans opened, ready, answers, fragment, all rfl ▸ progress⟩
      obtain ⟨others, rest, last, back⟩ := progress_cycles still ready call (count + 1)
      rw [run, heard]
      exact ⟨_, _, _, front.trans still back, fun _ => back.call_of_rest⟩
    | error reason =>
      have resumes : exchange.resume = after.close reason := by simp only [resume, opened, answered]
      have resting : (after.close reason).2.Resting := .inl (Option.some_ne_none _)
      have run : exchange.run events = (after.close reason).2 := by
        show exchange.resume.2.run _ = _
        rw [resumes, (run_cycles_of_resting resting count).1]
      have heard : exchange.heard events = [] := by
        show (exchange.decoded? .resume).toList ++ exchange.resume.2.heard _ = _
        rw [resumes, (run_cycles_of_resting resting count).2]
        simp only [decoded?, opened, answered]
        rfl
      cases waiting : exchange.dispatcher.pending with
      | none => cases (answerPending_of_none waiting).symm.trans answered
      | some advance =>
        obtain ⟨answers, rest, fragment, progress, _⟩ :=
          progress_answered clock waiting answered owes timely (after.close reason).2.speech
            (Connection.written_close _) (fun _ _ => halted_close _ _)
            fun still => absurd still (halted_close _ _)
        rw [run, heard]
        exact ⟨_, _, _, progress, fun still => absurd still (halted_close _ _)⟩

/-- **Shutting down makes progress**: the advance that waits is answered. -/
theorem progress_shutdown (opened : exchange.dispatcher.closeReason = none)
    (clock : (Simulator.time exchange.simulator).1 = call.clock) {owed : List (During Command)}
    (owes : owed.map During.content = exchange.dispatcher.owed)
    (timely : ∀ asked ∈ owed, Timely asked (dueIn call asked)) :
    ∃ answered rest fragment, Progress call exchange.connection.channel.written owed [] answered rest
      fragment exchange.shutdown.speech := by
  have shuts : exchange.shutdown = (exchange.answerPending.2.close .shutdown).2 := by
    simp only [shutdown, opened]
  rw [shuts]
  cases waiting : exchange.dispatcher.pending with
  | none =>
    rw [answerPending_of_none waiting]
    exact ⟨_, _, _, (exchange.progress_refl call owes).ended (Connection.written_close _)
      (halted_close _ _)⟩
  | some advance =>
    obtain ⟨answers, rest, fragment, progress, _⟩ :=
      progress_answered clock waiting rfl owes timely
        (exchange.answerPending.2.close .shutdown).2.speech (Connection.written_close _)
        (fun _ _ => halted_close _ _) fun still => absurd still (halted_close _ _)
    exact ⟨_, _, _, progress⟩

end Exchange

end Cosimulation
