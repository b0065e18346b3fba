import Cosimulation.Proofs.Controller.Dialogue
import Mathlib.Data.List.TakeWhile
/-!
# The ends of a connection that loses nothing

At an end of a connection that loses nothing bytes arrive, and neither faults nor the end of the
stream come between them (`Connection.Lossless`).  Then what has arrived and what is still on its way
make up one row of bytes, of which the reader takes frame by frame: a frame that can be read without
waiting has arrived in full (`arrived_of_readable`), and where nothing arrives there is nothing to be
read without waiting (`not_readable_of_silent`).
-/

namespace Cosimulation

set_option autoImplicit false

/-! ## What arrives -/

namespace Arrival

/-- Bytes arrive, rather than a fault or the end of the stream. -/
def IsData : Arrival → Prop
  | .data _ => True
  | _ => False

variable {arrivals : List Arrival}

theorem delivered_append (plain : ∀ arrival ∈ arrivals, arrival.IsData) (more : List Arrival) :
    delivered (arrivals ++ more) = delivered arrivals ++ delivered more := by
  induction arrivals with
  | nil => rfl
  | cons arrival rest ih =>
    have rest := ih fun other member => plain other (List.mem_cons_of_mem _ member)
    cases arrival with
    | data bytes => simp only [List.cons_append, delivered, rest, List.append_assoc]
    | endOfStream => exact (plain _ List.mem_cons_self).elim
    | fault => exact (plain _ List.mem_cons_self).elim

theorem ending_of_plain (plain : ∀ arrival ∈ arrivals, arrival.IsData) : ending arrivals = none := by
  induction arrivals with
  | nil => rfl
  | cons arrival rest ih =>
    cases arrival with
    | data bytes => exact ih fun other member => plain other (List.mem_cons_of_mem _ member)
    | endOfStream => rfl
    | fault => exact (plain _ List.mem_cons_self).elim

/-- Where nothing is delivered, nothing arrives but empty pieces. -/
theorem dropWhile_of_silent (plain : ∀ arrival ∈ arrivals, arrival.IsData)
    (silent : delivered arrivals = []) : arrivals.dropWhile isEmpty = [] := by
  refine List.dropWhile_eq_nil_iff.2 fun arrival member => ?_
  obtain ⟨front, back, rfl⟩ := List.append_of_mem member
  rw [delivered_append fun other given => plain other (List.mem_append_left _ given)] at silent
  have behind := (List.append_eq_nil_iff.1 silent).2
  cases arrival with
  | data bytes => rw [(List.append_eq_nil_iff.1 behind).1]; rfl
  | endOfStream => exact (plain _ member).elim
  | fault => exact (plain _ member).elim

end Arrival

/-- A channel on which only bytes arrive, and of which every read brings some of them. -/
structure Channel.Plain (channel : Channel) : Prop where
  data : ∀ arrival ∈ channel.arrivals, arrival.IsData
  chunk : channel.chunk ≠ some 0

namespace Channel.Plain

variable {channel after : Channel}

theorem of_same (plain : channel.Plain) (arrivals : after.arrivals = channel.arrivals)
    (chunk : after.chunk = channel.chunk) : after.Plain :=
  ⟨arrivals ▸ plain.data, chunk ▸ plain.chunk⟩

theorem read {count : Nat} {result : Except Fault (List UInt8)}
    (h : channel.read count = (result, after)) (plain : channel.Plain) : after.Plain := by
  obtain ⟨taken, arrivals, same⟩ := Channel.onlyRead_read h
  have chunk : after.chunk ≠ some 0 := by
    rw [same]
    exact plain.chunk
  have left : ∀ arrival ∈ channel.arrivals.dropWhile Arrival.isEmpty, arrival.IsData :=
    fun arrival member => plain.data arrival ((List.dropWhile_suffix _).subset member)
  refine ⟨?_, chunk⟩
  unfold Channel.read at h
  split at h
  · cases h
    exact plain.data
  · split at h
    · cases h
      nofun
    · rename_i found
      rw [found] at left
      exact (left _ List.mem_cons_self).elim
    · rename_i found
      rw [found] at left
      exact (left _ List.mem_cons_self).elim
    · rename_i bytes rest found
      rw [found] at left
      cases h
      intro arrival member
      cases member with
      | head => trivial
      | tail _ member => exact left arrival (List.mem_cons_of_mem _ member)

/-- A channel on which nothing has arrived stays one. -/
theorem silent_read {count : Nat} {result : Except Fault (List UInt8)}
    (h : channel.read count = (result, after)) (plain : channel.Plain ∧ channel.delivered = []) :
    after.Plain ∧ after.delivered = [] := by
  refine ⟨plain.1.read h, ?_⟩
  unfold Channel.read at h
  rw [Arrival.dropWhile_of_silent plain.1.data plain.2] at h
  split at h <;> cases h
  · exact plain.2
  · rfl

theorem delivered_deliver (plain : channel.Plain) (bytes : List UInt8) :
    (channel.deliver [.data bytes]).delivered = channel.delivered ++ bytes := by
  unfold delivered deliver
  rw [Arrival.delivered_append plain.data]
  simp [Arrival.delivered]

theorem deliver (plain : channel.Plain) (bytes : List UInt8) :
    (channel.deliver [.data bytes]).Plain := by
  refine ⟨fun arrival member => ?_, plain.chunk⟩
  rcases List.mem_append.1 member with before | new
  · exact plain.data arrival before
  · rw [List.mem_singleton.1 new]
    trivial

end Channel.Plain

/-! ## The ends -/

/-- A channel at the beginning of a connection that loses nothing: nothing has arrived yet, every read
brings some of what arrives, and every write takes some of what is written. -/
structure Channel.Fresh (channel : Channel) : Prop where
  silent : channel.arrivals = []
  chunk : channel.chunk ≠ some 0
  obliging : channel.Obliging

/-- An end of a connection that loses nothing. -/
structure Connection.Lossless (connection : Connection) : Prop where
  plain : connection.channel.Plain
  limit : connection.limit = Frame.defaultLimit

namespace Connection

variable {connection : Connection}

/-- A connection begins without losses over a fresh channel, and nothing has arrived. -/
theorem lossless_ofChannel {channel : Channel} (fresh : channel.Fresh) (peer : String) :
    (ofChannel channel peer Frame.defaultLimit).Lossless ∧
      (ofChannel channel peer Frame.defaultLimit).channel.delivered = [] := by
  have plain : channel.Plain := by
    refine ⟨fun arrival member => ?_, fresh.chunk⟩
    rw [fresh.silent] at member
    exact absurd member List.not_mem_nil
  exact ⟨⟨plain, rfl⟩, congrArg Arrival.delivered fresh.silent⟩

/-- What every read of the channel keeps, and what is a matter of its arrivals and its chunks alone, is
kept. -/
theorem kept_of_channel {keeps : Channel → Prop}
    (reads : ∀ {channel after count result}, channel.read count = (result, after) →
      keeps channel → keeps after)
    (same : ∀ channel after : Channel, after.arrivals = channel.arrivals →
      after.chunk = channel.chunk → keeps channel → keeps after) :
    Kept fun connection => keeps connection.channel where
  read connection held := by
    have after := Frame.kept_read reads connection.limit held
    unfold readFrame
    split
    · exact after
    · exact held
  write connection frame held := by
    obtain ⟨channel, _, _, _, ⟨_, _, _, rfl⟩, wrote, _⟩ := connection.writeFrame_wrote frame
    rw [wrote]
    exact same connection.channel _ rfl rfl held
  close connection held := by
    unfold close
    split
    · exact same connection.channel _ rfl rfl held
    · exact held

/-- Reading, writing and closing leave the limit as it is. -/
theorem kept_limit (limit : Nat) : Kept fun connection => connection.limit = limit where
  read connection held := by
    obtain ⟨_, _, read⟩ := connection.onlyRead_readFrame
    rw [read]
    exact held
  write connection frame held := by
    obtain ⟨_, _, _, _, _, wrote, _⟩ := connection.writeFrame_wrote frame
    rw [wrote]
    exact held
  close connection held := by
    unfold close
    split <;> exact held

/-- **Reading, writing and closing lose nothing.** -/
theorem kept_lossless : Kept Lossless := by
  have plain : Kept fun connection => connection.channel.Plain :=
    kept_of_channel Channel.Plain.read fun _ _ arrivals chunk plain => plain.of_same arrivals chunk
  have limit := kept_limit Frame.defaultLimit
  exact {
    read := fun connection lossless =>
      ⟨plain.read connection lossless.plain, limit.read connection lossless.limit⟩
    write := fun connection frame lossless =>
      ⟨plain.write connection frame lossless.plain, limit.write connection frame lossless.limit⟩
    close := fun connection lossless =>
      ⟨plain.close connection lossless.plain, limit.close connection lossless.limit⟩ }

/-- An end at which nothing has arrived stays one. -/
theorem kept_silent :
    Kept fun connection => connection.channel.Plain ∧ connection.channel.delivered = [] :=
  kept_of_channel Channel.Plain.silent_read fun _ _ arrivals chunk silent =>
    ⟨silent.1.of_same arrivals chunk, (congrArg Arrival.delivered arrivals).trans silent.2⟩

/-- What arrives comes behind what has been delivered before. -/
theorem Lossless.delivered_deliver (lossless : connection.Lossless) (bytes : List UInt8) :
    (connection.deliver bytes).channel.delivered = connection.channel.delivered ++ bytes :=
  lossless.plain.delivered_deliver bytes

theorem Lossless.deliver (lossless : connection.Lossless) (bytes : List UInt8) :
    (connection.deliver bytes).Lossless :=
  ⟨lossless.plain.deliver bytes, lossless.limit⟩

/-! ## Reading without waiting -/

section Readable

variable (lossless : connection.Lossless) (connected : connection.isOpen = true)
include lossless connected

/-- **A frame that can be read without waiting has arrived in full**, if nothing is on its way behind
it. -/
theorem arrived_of_readable (readable : connection.Readable) {payload rest : List UInt8}
    (delivered : connection.channel.delivered ++ rest = Frame.enclose payload)
    (short : payload.length ≤ Frame.defaultLimit) : rest = [] := by
  have expressible : payload.length ≤ Frame.maximalLength := Nat.le_trans short (by decide)
  have within : payload.length ≤ connection.limit := lossless.limit ▸ short
  -- once the rest has arrived the frame is read, and so it is read before
  have all : (connection.deliver rest).channel.delivered = Frame.enclose payload ++ [] := by
    rw [lossless.delivered_deliver, delivered, List.append_nil]
  have opened : (connection.deliver rest).isOpen = true := connected
  obtain ⟨_, _, later⟩ :=
    readFrame_of_delivered opened lossless.plain.chunk all within expressible
  have now := readable rest
  rw [later] at now
  have read : (Frame.read connection.limit connection.channel).1 = .ok (some payload) := by
    rw [readFrame, if_pos connected] at now
    exact now.symm
  obtain ⟨_, _, gives⟩ := Frame.gives_of_read lossless.plain.chunk (Prod.ext read rfl)
  have lengths := congrArg List.length delivered
  rw [gives.delivered, List.length_append, List.length_append] at lengths
  exact List.length_eq_zero_iff.1 (by omega)

/-- Conversely, a frame that has arrived in full can be read without waiting. -/
theorem readable_of_delivered {payload : List UInt8}
    (delivered : connection.channel.delivered = Frame.enclose payload)
    (short : payload.length ≤ Frame.defaultLimit) : connection.Readable := by
  intro bytes
  have expressible : payload.length ≤ Frame.maximalLength := Nat.le_trans short (by decide)
  have within : payload.length ≤ connection.limit := lossless.limit ▸ short
  have all : (connection.deliver bytes).channel.delivered = Frame.enclose payload ++ bytes := by
    rw [lossless.delivered_deliver, delivered]
  have opened : (connection.deliver bytes).isOpen = true := connected
  obtain ⟨_, _, later⟩ := readFrame_of_delivered opened lossless.plain.chunk all within expressible
  obtain ⟨_, _, now⟩ := readFrame_of_delivered connected lossless.plain.chunk
    (delivered.trans (List.append_nil _).symm) within expressible
  rw [later, now]

/-- **Where nothing has arrived, nothing can be read without waiting**: different frames could still
come. -/
theorem not_readable_of_silent (silent : connection.channel.delivered = []) :
    ¬connection.Readable := by
  intro readable
  have reads (payload : List UInt8) (short : payload.length ≤ 1) :
      connection.readFrame.1 = .ok (some payload) := by
    have all : (connection.deliver (Frame.enclose payload)).channel.delivered =
        Frame.enclose payload ++ [] := by
      rw [lossless.delivered_deliver, silent, List.append_nil]
      rfl
    have within : payload.length ≤ connection.limit :=
      lossless.limit ▸ Nat.le_trans short (by decide)
    have opened : (connection.deliver (Frame.enclose payload)).isOpen = true := connected
    obtain ⟨_, _, later⟩ := readFrame_of_delivered opened lossless.plain.chunk all within
      (Nat.le_trans short (by decide))
    rw [← readable (Frame.enclose payload), later]
  cases (reads [] (by decide)).symm.trans (reads [0] (by decide))

/-- Where nothing has arrived and nothing will, the end of the stream is read. -/
theorem readFrame_of_silent (silent : connection.channel.delivered = []) :
    connection.readFrame.1 = .ok none ∧ connection.readFrame.2.channel.delivered = [] := by
  refine ⟨?_, (kept_silent.read connection ⟨lossless.plain, silent⟩).2⟩
  rw [readFrame, if_pos connected]
  rcases Frame.readVersion_spec lossless.plain.chunk with ⟨byte, after, _, gives⟩ | ⟨_, _, read⟩
  · cases silent.symm.trans gives.delivered
  · have ends : connection.channel.ending = none := Arrival.ending_of_plain lossless.plain.data
    rw [ends] at read
    unfold Frame.read
    rw [read]

end Readable

end Connection

/-! ## The halves of a call -/

namespace Command

/-- The frame around a command. -/
def frame (command : Command) : List UInt8 := Frame.enclose (Message.payload command)

end Command

namespace Controller

variable {controller after : Controller} {command : Command}

/-- A command that respects the limit is sent whole over an open connection that takes everything. -/
theorem send_of_obliging (connected : controller.connection.isOpen = true)
    (obliging : controller.connection.channel.Obliging)
    (short : (Message.payload command).length ≤ Frame.defaultLimit) :
    ∃ channel, controller.connection.channel.Accepted command.frame channel ∧
      controller.send command.requestId command.operation =
        (.ok (), ⟨{ controller.connection with channel }⟩) := by
  have framed : Frame.ofMessage Frame.defaultLimit (Command.mk command.requestId command.operation) =
      .ok command.frame :=
    Frame.encode_eq_ok_iff.2 ⟨short, Nat.le_trans short (by decide), rfl⟩
  obtain ⟨calls, wrote⟩ := Frame.write_of_obliging command.frame obliging
  refine ⟨_, ⟨calls, rfl⟩, ?_⟩
  have written : controller.sendRaw command.frame =
      (.ok (), ⟨{ controller.connection with
        channel := (controller.connection.channel.took calls command.frame).flush.2 }⟩) := by
    rw [sendRaw, Connection.writeFrame, if_pos connected, wrote]
  unfold send
  rw [framed]
  dsimp only
  rw [written]

/-- **A command that is too long is not sent**, and the controller stays as it is. -/
theorem send_of_long (long : Frame.defaultLimit < (Message.payload command).length) :
    controller.send command.requestId command.operation =
      (.error (.protocol (.frameTooLarge (Message.payload command).length Frame.defaultLimit)),
        controller) := by
  have refused : Frame.ofMessage Frame.defaultLimit (Command.mk command.requestId command.operation) =
      .error (.frameTooLarge (Message.payload command).length Frame.defaultLimit) := by
    unfold Frame.ofMessage Frame.encode
    exact if_pos long
  unfold send
  rw [refused]

/-- Sending a command is at most writing a frame. -/
theorem send_cases (controller : Controller) (command : Command) :
    (∃ error, (∀ text, error ≠ .malformed text) ∧
      controller.send command.requestId command.operation = (.error (.protocol error), controller)) ∨
    ∃ frame, (controller.send command.requestId command.operation).2 =
        ⟨(controller.connection.writeFrame frame).2⟩ ∧
      ∀ error, (controller.send command.requestId command.operation).1 = .error error →
        ∃ cause, error = .connection cause := by
  unfold send Frame.ofMessage Frame.encode
  split
  · rename_i error found
    refine .inl ⟨error, ?_, rfl⟩
    rintro text rfl
    split at found
    · cases found
    · split at found <;> cases found
  · rename_i frame _
    refine .inr ⟨frame, ?_⟩
    unfold sendRaw
    generalize controller.connection.writeFrame frame = written
    obtain ⟨_ | _, _⟩ := written
    · exact ⟨rfl, fun error failed => by cases failed; exact ⟨_, rfl⟩⟩
    · exact ⟨rfl, nofun⟩

/-- A response that has arrived is collected. -/
theorem collect_of_delivered (lossless : controller.connection.Lossless)
    (connected : controller.connection.isOpen = true) {response : Response}
    (delivered : controller.connection.channel.delivered = response.frame)
    (fits : response.Fits Frame.defaultLimit) :
    controller.connection.readFrame.2.channel.delivered = [] ∧
      controller.collect response.requestId =
        (.ok response, ⟨controller.connection.readFrame.2⟩) := by
  obtain ⟨short, expressible⟩ := Response.fits_iff.1 fits
  have within : (Message.payload response).length ≤ controller.connection.limit :=
    lossless.limit ▸ short
  obtain ⟨channel, gives, read⟩ := Connection.readFrame_of_delivered connected lossless.plain.chunk
    (delivered.trans (List.append_nil _).symm) within expressible
  have rest : channel.delivered = [] :=
    List.append_cancel_left (gives.delivered.symm.trans (delivered.trans (List.append_nil _).symm))
  constructor
  · rw [read]
    exact rest
  · unfold collect receive
    rw [read]
    dsimp only
    rw [response.decode_payload]
    exact if_pos rfl

/-- When nothing comes any more the call fails, because the connection is closed. -/
theorem collect_of_silent (lossless : controller.connection.Lossless)
    (connected : controller.connection.isOpen = true)
    (silent : controller.connection.channel.delivered = []) (id : RequestId) :
    controller.collect id =
      (.error (.connection .closed), ⟨controller.connection.readFrame.2⟩) := by
  have read := (Connection.readFrame_of_silent lossless connected silent).1
  unfold collect receive
  generalize controller.connection.readFrame = reading at read
  obtain ⟨_, _⟩ := reading
  subst read
  rfl

end Controller

end Cosimulation
