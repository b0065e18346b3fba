import Cosimulation.Proofs.Session.Oversize
import Cosimulation.Proofs.Simulator.Memory
/-!
# What failed commands leave behind

Over a simulator in memory a command that is answered with an error has had no effect, with one
exception.  An operation is applied before its response is framed, and so the release of a signal
whose driven value is too long for a frame ends the force although it is reported as rejected
(`failed_changes_iff`).

That a session has written the frame of a response tells which response it sent, whatever else
happened on the channel: no frame begins with another one (`Response.eq_of_front`).
-/

namespace Cosimulation

set_option autoImplicit false

/-! ## Reports of failure -/

/-- The response whose frame is at the front of the frame of another is that other response. -/
theorem Response.eq_of_front {limit : Nat} {response other : Response} {rest : List UInt8}
    (fits : other.Fits limit) (front : other.frame = response.frame ++ rest) :
    response = other := by
  have longest := (fits_iff.1 fits).2
  have length := congrArg List.length front
  simp only [frame, List.length_append, Frame.length_enclose] at length
  exact payload_injective (Frame.payload_eq_of_front (by omega) longest front)

namespace Exchange

section Writing

variable {σ : Type} {exchange : Exchange σ} {response written : Response} {operation : Operation}

/-- The response whose frame has been sent is the one that was to be sent. -/
theorem eq_of_send {limit : Nat} {answer : Response} (fits : answer.Fits limit)
    (wrote : (exchange.send answer.frame).2.connection.channel.written =
      exchange.connection.channel.written ++ written.frame) : written = answer := by
  obtain ⟨channel, front, back, split, sent, same, _⟩ := send_cases exchange answer.frame
  rw [same] at wrote
  have whole : front = written.frame := List.append_cancel_left (sent.symm.trans wrote)
  rw [whole] at split
  exact Response.eq_of_front fits split

/-- **The response that has been written is the one that was due, or it reports that one as too
long.** -/
theorem eq_of_respond
    (wrote : (exchange.respond response operation).2.connection.channel.written =
      exchange.connection.channel.written ++ written.frame) :
    written = response ∨ ¬response.Fits exchange.dispatcher.limit := by
  rw [respond_eq] at wrote
  rcases exchange.dispatcher.frameFor_cases response operation with
    ⟨fits, chosen⟩ | ⟨long, _⟩ | ⟨long, _⟩
  · rw [chosen] at wrote
    exact .inl (eq_of_send fits wrote)
  · exact .inr long
  · exact .inr long

variable [Simulator σ]

/-- No frame is empty. -/
theorem ne_append_frame (bytes : List UInt8) (response : Response) :
    bytes ≠ bytes ++ response.frame := by
  simp [Response.frame, Frame.enclose]

/-- **A command is answered with an error for one of two reasons**: its operation fails, or the
operation succeeds with a reply that is too long.  In both cases what it did to the simulator
stands. -/
theorem cycle_of_failed (least : 256 ≤ exchange.dispatcher.limit) {command : Command}
    (upcoming : exchange.upcoming? = some command) (failed : written.isOk = false)
    (wrote : exchange.cycle.2.connection.channel.written =
      exchange.connection.channel.written ++ written.frame) :
    exchange.cycle.2.simulator = (command.operation.apply exchange.simulator).2 ∧
      ((∃ error, (command.operation.apply exchange.simulator).1 = .error error) ∨
        ∃ reply, (command.operation.apply exchange.simulator).1 = .ok (.reply reply) ∧
          ¬(Response.ok command.requestId reply).Fits exchange.dispatcher.limit) := by
  obtain ⟨_, _, same⟩ := cycle_of_upcoming upcoming
  rw [← written_readFrame exchange] at wrote
  rw [same] at wrote ⊢
  unfold execute at wrote ⊢
  dsimp only [update] at wrote ⊢
  generalize command.operation.apply exchange.simulator = applying at wrote ⊢
  obtain ⟨applied, simulator⟩ := applying
  match applied with
  | .ok (.reply reply) =>
    refine ⟨simulator_answer .., .inr ⟨reply, rfl, fun fits => ?_⟩⟩
    rw [written_answer] at wrote
    rcases eq_of_respond wrote with rfl | long
    · cases failed
    · exact long fits
  | .ok (.advance ticks) => exact absurd wrote (ne_append_frame _ written)
  | .ok .finish =>
    rw [written_finish] at wrote
    rcases eq_of_respond wrote with rfl | long
    · cases failed
    · exact absurd (Response.fits_of_isShort least _ (.inl rfl)) long
  | .error error => exact ⟨simulator_answer .., .inl ⟨error, rfl⟩⟩

end Writing

end Exchange

/-! ## Effects in memory -/

/-- **An operation that changes a simulator in memory** has a short reply or is a release. -/
theorem Operation.apply_effect (operation : Operation) (simulator : MemorySimulator) :
    (operation.apply simulator).2 = simulator ∨
    (∃ reply, (operation.apply simulator).1 = .ok (.reply reply) ∧ reply.IsShort) ∨
    ∃ path signal, operation = .release path ∧ simulator.signal? path = some signal ∧
      operation.apply simulator =
        (.ok (.reply (.value path signal.driven)), simulator.amend path Signal.release) := by
  have assigned (path : String) (value : SignalValue) (mode : WriteMode) :
      (assign path value mode simulator).2 = simulator ∨
        ∃ reply, (assign path value mode simulator).1 = .ok (.reply reply) ∧ reply.IsShort := by
    rw [assign_memory]
    split
    · exact .inl rfl
    · split
      · exact .inl rfl
      · exact .inr ⟨_, rfl, .inl rfl⟩
  cases operation with
  | ping => exact .inl rfl
  | lookup path =>
    rw [apply_lookup]
    split <;> exact .inl rfl
  | read path =>
    rw [apply_read]
    split <;> exact .inl rfl
  | write path value => exact (assigned path value .deposit).imp_right .inl
  | force path value => exact (assigned path value .force).imp_right .inl
  | release path =>
    rw [apply_release]
    cases found : simulator.signal? path with
    | none => exact .inl rfl
    | some signal => exact .inr (.inr ⟨path, signal, rfl, found, rfl⟩)
  | time => exact .inl rfl
  | advance ticks =>
    rw [apply]
    split <;> exact .inl rfl
  | print line => exact .inr (.inl ⟨_, rfl, .inl rfl⟩)
  | finish => exact .inl rfl

namespace Exchange

/-- A command that ends a force with a reply that is too long. -/
def ReleasesUnheard (limit : Nat) (command : Command) (simulator : MemorySimulator) : Prop :=
  ∃ path signal, command.operation = .release path ∧ simulator.signal? path = some signal ∧
    signal.forced ≠ none ∧
    ¬(Response.ok command.requestId (.value path signal.driven)).Fits limit

/-- **A command that is answered with an error changes nothing, unless it ends a force with a reply
that is too long.**  A release that is answered with an error is carried out in full. -/
theorem failed_changes_iff {exchange : Exchange MemorySimulator}
    (least : 256 ≤ exchange.dispatcher.limit) {command : Command}
    (upcoming : exchange.upcoming? = some command) {response : Response}
    (failed : response.isOk = false)
    (wrote : exchange.cycle.2.connection.channel.written =
      exchange.connection.channel.written ++ response.frame) :
    (exchange.cycle.2.simulator ≠ exchange.simulator ↔
      ReleasesUnheard exchange.dispatcher.limit command exchange.simulator) ∧
    ∀ path, command.operation = .release path →
      exchange.cycle.2.simulator = exchange.simulator.amend path Signal.release := by
  obtain ⟨done, reason⟩ := cycle_of_failed least upcoming failed wrote
  rw [done]
  refine ⟨⟨fun changed => ?_, ?_⟩, fun path released => ?_⟩
  · rcases command.operation.apply_effect exchange.simulator with
      same | ⟨reply, replied, short⟩ | ⟨path, signal, released, found, applied⟩
    · exact absurd same changed
    · -- a short reply fits, so that it is no reason for a failure
      rcases reason with ⟨error, failed⟩ | ⟨other, also, long⟩
      · cases replied.symm.trans failed
      · cases replied.symm.trans also
        exact absurd (Response.fits_of_isShort least _ short) long
    · rw [applied] at changed reason
      refine ⟨path, signal, released, found, ?_, ?_⟩
      · exact fun free => changed ((MemorySimulator.amend_release_eq_iff found).2 free)
      · rcases reason with ⟨error, failed⟩ | ⟨reply, replied, long⟩
        · cases failed
        · cases replied
          exact long
  · rintro ⟨path, signal, released, found, forced, _⟩
    rw [released, Operation.apply_release, found]
    exact fun same => forced ((MemorySimulator.amend_release_eq_iff found).1 same)
  · rw [released, Operation.apply_release]
    cases found : exchange.simulator.signal? path with
    | none =>
      refine (MemorySimulator.amend_eq_self fun signal also => ?_).symm
      cases found.symm.trans also
    | some => rfl

/-- A release of a forced signal that drives too wide a value: the command is rejected, and the
force is over. -/
theorem cycle_of_wide_release :
    let wide := SignalValue.bits (String.ofList (List.replicate 160 '1'))
    let forced := ((Operation.force "tb.bus" (.int 1)).apply
      ((MemorySimulator.launch ⟨[]⟩).setSignal "tb.bus" wide)).2
    let start := asked 256 ⟨.ofNat 1, .release "tb.bus"⟩ forced
    ∃ response : Response, response.isOk = false ∧
      start.cycle.2.connection.channel.written =
        start.connection.channel.written ++ response.frame ∧
      start.simulator.value? "tb.bus" = some (.int 1) ∧
      start.simulator.isForced "tb.bus" = true ∧
      start.cycle.2.simulator.value? "tb.bus" = some wide ∧
      start.cycle.2.simulator.isForced "tb.bus" = false := by
  intro wide forced start
  let command : Command := ⟨.ofNat 1, .release "tb.bus"⟩
  have upcoming : start.upcoming? = some command :=
    upcoming?_asked (by decide +kernel) (by decide) _
  have due : start.due? command = some (.ok (.ofNat 1) (.value "tb.bus" wide)) := by
    decide +kernel
  have length : (Message.payload (Response.ok (.ofNat 1) (.value "tb.bus" wide))).length = 304 := by
    rw [Response.length_payload_ok]
    decide +kernel
  have long : ¬(Response.ok (.ofNat 1) (.value "tb.bus" wide)).Fits 256 := by
    rw [Response.fits_iff, length]
    decide
  have fits : (rejection 256 command (.ok (.ofNat 1) (.value "tb.bus" wide))).Fits 256 := by
    rw [rejection, Response.fits_iff, length_oversized, length]
    decide +kernel
  have wrote := (clear_asked 256 command forced).cycle_of_rejected (by decide) (by decide) upcoming
    due long fits
  obtain ⟨done, _⟩ := cycle_of_failed (by decide) upcoming rfl wrote
  refine ⟨_, rfl, wrote, by decide +kernel, by decide +kernel, ?_, ?_⟩
  · rw [done]
    decide +kernel
  · rw [done]
    decide +kernel

/-- A read of the same signal is rejected as well, and changes nothing. -/
theorem failed_changes_iff_wide_read :
    let wide := SignalValue.bits (String.ofList (List.replicate 160 '1'))
    let start := asked 256 ⟨.ofNat 1, .read "tb.bus"⟩
      ((MemorySimulator.launch ⟨[]⟩).setSignal "tb.bus" wide)
    start.cycle.2.simulator = start.simulator := by
  intro wide start
  let command : Command := ⟨.ofNat 1, .read "tb.bus"⟩
  have upcoming : start.upcoming? = some command :=
    upcoming?_asked (by decide +kernel) (by decide) _
  have due : start.due? command = some (.ok (.ofNat 1) (.value "tb.bus" wide)) := by
    decide +kernel
  have wrote := (clear_asked 256 command _).cycle_of_rejected (by decide) (by decide) upcoming due
    (by decide +kernel) (by decide +kernel)
  obtain ⟨changes, _⟩ := failed_changes_iff (by decide) upcoming rfl wrote
  refine Classical.not_not.1 fun changed => ?_
  obtain ⟨_, _, released, _⟩ := changes.1 changed
  cases released

end Exchange

end Cosimulation
