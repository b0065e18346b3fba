import Cosimulation.Configuration
import Cosimulation.Proofs.Controller.Stages
import Cosimulation.Proofs.Session.Answers
import Cosimulation.Proofs.Session.Conversation
import Cosimulation.Proofs.Wire.Stream
/-!
# Receiving what a session has written

A session writes under the limit that its bridge was configured with.  A controller reads under the
default limit, which no configuration changes.  As long as the responses respect both, a controller
receives them one after the other as they were sent; the first response beyond the default limit is
refused, even though it was framed (`receives_unless_long`).
-/

namespace Cosimulation

set_option autoImplicit false

open Json (escapedSize)

/-- Whether a response is short enough for a controller to read it. -/
def Response.Readable (response : Response) : Prop :=
  (Message.payload response).length ≤ Frame.defaultLimit

/-- The length of the response that carries a row of digits under a path of one letter. -/
theorem Response.length_payload_digits (id : RequestId) {digits : List Char}
    (plain : ∀ digit ∈ digits, Json.IsPlain digit) :
    (Message.payload (Response.ok id (.value "v" (.bits (String.ofList digits))))).length =
      digits.length + 139 := by
  rw [Response.length_payload_ok]
  have spelled : Message.toJson (SignalValue.bits (String.ofList digits)) =
      Json.object [("type", .string "bits"), ("value", .string (String.ofList digits))] := rfl
  have names : escapedSize "type" = 4 ∧ escapedSize "path" = 4 ∧ escapedSize "v" = 1 ∧
      escapedSize "value" = 5 ∧ escapedSize "bits" = 4 := by decide +kernel
  simp [Reply.members, spelled, Json.escapedSize_of_plain plain, names]
  omega

namespace Controller

/-- What so many receptions give, one after the other. -/
def receives : Nat → Controller → List (Except Error (Option Response))
  | 0, _ => []
  | count + 1, controller => controller.receive.1 :: receives count controller.receive.2

section Delivery

variable (controller : Controller) (connected : controller.connection.isOpen = true)
  (limited : controller.connection.limit = Frame.defaultLimit)
  (chunk : controller.connection.channel.chunk ≠ some 0) {response : Response} {rest : List UInt8}
  (delivered : controller.connection.channel.delivered = response.frame ++ rest)
include connected limited chunk delivered

/-- A response within the default limit is received. -/
theorem receive_of_readable (readable : response.Readable) :
    ∃ channel, controller.connection.channel.Gives response.frame channel ∧
      controller.receive = (.ok (some response), ⟨{ controller.connection with channel }⟩) := by
  obtain ⟨channel, gives, read⟩ := Connection.readFrame_of_delivered connected chunk delivered
    (limited ▸ readable) (Nat.le_trans readable (by decide))
  refine ⟨channel, gives, ?_⟩
  unfold receive
  rw [read]
  dsimp only
  rw [response.decode_payload]

/-- A response beyond the default limit is refused. -/
theorem receive_of_long (long : ¬response.Readable)
    (expressible : (Message.payload response).length ≤ Frame.maximalLength) :
    controller.receive.1 = .error (.protocol
      (.frameTooLarge (Message.payload response).length Frame.defaultLimit)) := by
  have refused := Frame.read_of_long chunk delivered (limited ▸ Nat.lt_of_not_ge long) expressible
  have read : controller.connection.readFrame.1 = .error (.protocol
      (.frameTooLarge (Message.payload response).length Frame.defaultLimit)) := by
    unfold Connection.readFrame
    rw [if_pos connected]
    exact limited ▸ refused
  unfold receive
  generalize controller.connection.readFrame = reading at read
  obtain ⟨result, connection⟩ := reading
  dsimp only at read
  rw [read]

end Delivery

/-- What is received when every reception gives a response. -/
def received (responses : List Response) : List (Except Error (Option Response)) :=
  responses.map fun response => .ok (some response)

section Rows

variable (controller : Controller) (connected : controller.connection.isOpen = true)
  (limited : controller.connection.limit = Frame.defaultLimit)
  (chunk : controller.connection.channel.chunk ≠ some 0) {responses : List Response}
  {rest : List UInt8}
  (delivered : controller.connection.channel.delivered = Response.frames responses ++ rest)
include connected limited chunk delivered

/-- **Responses within the default limit are received in their order**, and then what is behind
them. -/
theorem receives_of_readable (readable : ∀ response ∈ responses, response.Readable) :
    ∃ channel : Channel, channel.chunk = controller.connection.channel.chunk ∧
      channel.delivered = rest ∧ ∀ count, receives (responses.length + count) controller =
        received responses ++ receives count ⟨{ controller.connection with channel }⟩ := by
  induction responses generalizing controller with
  | nil => exact ⟨_, rfl, delivered, fun count => by rw [List.length_nil, Nat.zero_add]; rfl⟩
  | cons response responses ih =>
    rw [Response.frames, List.flatMap_cons, List.append_assoc] at delivered
    obtain ⟨channel, gives, first⟩ := receive_of_readable controller connected limited chunk delivered
      (readable response List.mem_cons_self)
    have behind : channel.delivered = Response.frames responses ++ rest :=
      List.append_cancel_left (gives.delivered.symm.trans delivered)
    obtain ⟨last, pieces, left, others⟩ := ih ⟨{ controller.connection with channel }⟩
      connected limited (gives.chunk ▸ chunk) behind
      fun other member => readable other (List.mem_cons_of_mem _ member)
    refine ⟨last, pieces.trans gives.chunk, left, fun count => ?_⟩
    rw [List.length_cons, Nat.add_right_comm, receives, first, others count]
    rfl

/-- **A row of responses is received exactly when all of them are within the default limit.** -/
theorem receives_iff_readable
    (expressible : ∀ response ∈ responses,
      (Message.payload response).length ≤ Frame.maximalLength) :
    receives responses.length controller = received responses ↔
      ∀ response ∈ responses, response.Readable := by
  induction responses generalizing controller with
  | nil => simp [receives, received]
  | cons response responses ih =>
    rw [Response.frames, List.flatMap_cons, List.append_assoc] at delivered
    rw [List.length_cons, receives, received, List.map_cons, List.cons.injEq, List.forall_mem_cons]
    by_cases readable : response.Readable
    · obtain ⟨channel, gives, first⟩ :=
        receive_of_readable controller connected limited chunk delivered readable
      have behind : channel.delivered = Response.frames responses ++ rest :=
        List.append_cancel_left (gives.delivered.symm.trans delivered)
      have others := ih ⟨{ controller.connection with channel }⟩ connected limited
        (gives.chunk ▸ chunk) behind fun other member => expressible other (List.mem_cons_of_mem _ member)
      rw [first]
      exact and_congr (iff_of_true rfl readable) others
    · have refused := receive_of_long controller connected limited chunk delivered readable
        (expressible response List.mem_cons_self)
      rw [refused]
      exact iff_of_false (fun same => by cases same.1) fun all => readable all.1

end Rows

end Controller

/-! ## The frames that a session has written -/

namespace Exchange

variable {σ : Type} [Simulator σ]

omit [Simulator σ] in
/-- A session in order has a transcript. -/
theorem InOrder.transcript {limit : Nat} {begun : List UInt8} {asked : List RequestId}
    {exchange : Exchange σ} (inOrder : exchange.InOrder limit begun asked) :
    ∃ answered fragment, exchange.Transcript limit begun asked answered fragment := by
  by_cases opened : exchange.dispatcher.closeReason = none
  · obtain ⟨_, answered, transcript, _⟩ := inOrder.opened opened
    exact ⟨answered, [], transcript⟩
  · exact (inOrder.closed opened).2

/-- A response that is due and fits is written. -/
theorem Clear.written_run_cycle {limit : Nat} {exchange : Exchange σ} (clear : exchange.Clear limit)
    (least : 256 ≤ limit) (most : limit ≤ Frame.maximalLength) {command : Command}
    {response : Response} (upcoming : exchange.upcoming? = some command)
    (due : exchange.due? command = some response) (fits : response.Fits limit) :
    (exchange.run [.cycle]).connection.channel.written =
      exchange.connection.channel.written ++ response.frame := by
  show exchange.cycle.2.connection.channel.written = _
  rcases clear.cycle_concludes least most upcoming with
    ⟨ticks, waits, positive, _⟩ | ⟨other, known, _, concluded⟩
  · rw [due?, waits, Operation.apply, if_neg positive] at due
    cases due
  · cases due.symm.trans known
    obtain ⟨_, ⟨_, wrote⟩ | ⟨long, _⟩⟩ := concluded.answered_of fun stuck => stuck.1 fits
    · exact wrote
    · exact absurd fits long

/-- **The complete frames among the bytes that a session has written hold responses**, each of which
respects the limit of the session. -/
theorem split_written (limit readLimit : Nat) (peer : String) (channel : Channel) (simulator : σ)
    (events : List (Event σ)) :
    let start := begin limit (.ofChannel channel peer readLimit) simulator
    let written := (start.run events).connection.writtenSince start.connection
    ∃ answered fragment, written = Response.frames answered ++ fragment ∧
      Frame.split written = (answered.map Message.payload, fragment) ∧
      ∀ response ∈ answered, response.Fits limit := by
  intro start written
  have inOrder := (inOrder_begin limit (.ofChannel channel peer readLimit) simulator).run events
  obtain ⟨answered, fragment, transcript⟩ := inOrder.transcript
  have row : written = Response.frames answered ++ fragment :=
    Dialogue.writtenSince_eq (transcript.written.trans (List.append_assoc ..))
  -- what stands behind the last complete frame begins with none
  have behind : Frame.front? fragment = none := by
    rcases transcript.cut with rfl | ⟨response, rest, fits, more, split, _⟩
    · exact Frame.front?_nil
    · exact Frame.front?_of_cut (Response.fits_iff.1 fits).2 split more
  have enclosed : Response.frames answered =
      (answered.map Message.payload).flatMap Frame.enclose := by
    rw [List.flatMap_map]
    rfl
  refine ⟨answered, fragment, row, ?_, transcript.fits⟩
  rw [row, enclosed, Frame.split_flatMap, Frame.split_of_none behind, List.append_nil]
  rintro payload member
  obtain ⟨response, among, rfl⟩ := List.mem_map.1 member
  exact (Response.fits_iff.1 (transcript.fits response among)).2

end Exchange

namespace Controller

variable {σ : Type} [Simulator σ]

/-- **A controller receives what a session has written, as long as no response exceeds the default
limit.**  Whatever limit a session writes under, the complete frames that it has written hold a row
of responses.  A controller to which these bytes are delivered, in any pieces, receives a front of
that row exactly if all responses of the front are within the default limit, which they are if the
limit of the session is; the first that is beyond it is refused as too long, although it was
framed. -/
theorem receives_unless_long (limit readLimit : Nat) (peer : String) (channel : Channel)
    (simulator : σ) (events : List (Event σ)) :
    let start := Exchange.begin limit (.ofChannel channel peer readLimit) simulator
    let written := (start.run events).connection.writtenSince start.connection
    ∃ answered fragment, Frame.split written = (answered.map Message.payload, fragment) ∧
      ∀ (listener : Listener) (near : Channel), near.chunk ≠ some 0 → written <+: near.delivered →
        let controller := accept listener near
        (limit ≤ Frame.defaultLimit →
          receives answered.length controller = received answered) ∧
        (∀ front, front <+: answered → (receives front.length controller = received front ↔
          ∀ response ∈ front, response.Readable)) ∧
        ∀ front response, front ++ [response] <+: answered →
          (∀ earlier ∈ front, earlier.Readable) → ¬response.Readable →
          receives (front.length + 1) controller = received front ++
            [.error (.protocol
              (.frameTooLarge (Message.payload response).length Frame.defaultLimit))] := by
  intro start written
  obtain ⟨answered, fragment, row, split, fits⟩ :=
    Exchange.split_written limit readLimit peer channel simulator events
  refine ⟨answered, fragment, split, fun listener near chunk arrived => ?_⟩
  have expressible : ∀ response ∈ answered,
      (Message.payload response).length ≤ Frame.maximalLength :=
    fun response member => (Response.fits_iff.1 (fits response member)).2
  -- whatever front of the row is looked at, its frames are at the front of what is delivered
  have ahead : ∀ front, front <+: answered →
      ∃ rest, near.delivered = Response.frames front ++ rest := by
    rintro front ⟨back, rfl⟩
    obtain ⟨more, same⟩ := arrived
    refine ⟨Response.frames back ++ fragment ++ more, ?_⟩
    rw [← same, show written = _ from row, Response.frames, List.flatMap_append]
    simp only [Response.frames, List.append_assoc]
  have whole (front : List Response) (within : front <+: answered) :
      receives front.length (accept listener near) = received front ↔
        ∀ response ∈ front, response.Readable := by
    obtain ⟨rest, delivered⟩ := ahead front within
    exact receives_iff_readable (accept listener near) rfl rfl chunk delivered fun response member =>
      expressible response (within.subset member)
  refine ⟨fun within => ?_, whole, fun front response first earlier long => ?_⟩
  · refine (whole answered List.prefix_rfl).2 fun response member => ?_
    exact Nat.le_trans (Response.fits_iff.1 (fits response member)).1 within
  · obtain ⟨rest, delivered⟩ := ahead _ first
    have behind : near.delivered = Response.frames front ++ (response.frame ++ rest) := by
      rw [delivered, Response.frames, List.flatMap_append]
      simp [Response.frames]
    obtain ⟨last, pieces, left, others⟩ :=
      receives_of_readable (accept listener near) rfl rfl chunk behind earlier
    have refused := receive_of_long ⟨{ (accept listener near).connection with channel := last }⟩
      rfl rfl (pieces ▸ chunk) left long
      (expressible response (first.subset (List.mem_append_right _ List.mem_cons_self)))
    rw [others 1, receives, refused, receives]

/-- The answer to a ping is received. -/
theorem receives_unless_long_ping :
    let ping : Command := ⟨.ofNat 1, .ping⟩
    let pong : Response := .ok (.ofNat 1) (.pong 0)
    let arrived := Channel.ofArrivals [.data (Frame.enclose (Message.payload ping))]
    let start := Exchange.begin 256 (.ofChannel arrived "controller" 256) (MemorySimulator.launch ⟨[]⟩)
    let written := (start.run [.cycle]).connection.writtenSince start.connection
    receives 1 (accept ⟨"controller"⟩ (.ofArrivals [.data written])) = [.ok (some pong)] := by
  intro ping pong arrived start written
  have fits : pong.Fits 256 := Response.fits_of_isShort (by decide) _ (.inr (.inl ⟨_, rfl⟩))
  have sent := (Exchange.clear_asked 256 ping (MemorySimulator.launch ⟨[]⟩)).written_run_cycle
    (by decide) (by decide) (Exchange.upcoming?_asked (by decide +kernel) (by decide) _)
    (by decide +kernel) fits
  have wrote : written = pong.frame := Dialogue.writtenSince_eq sent
  obtain ⟨answered, fragment, split, receive⟩ :=
    receives_unless_long 256 256 "controller" arrived (MemorySimulator.launch ⟨[]⟩) [.cycle]
  have whole : Frame.split written = ([Message.payload pong], []) := by
    have enclosed := Frame.split_enclose (Response.fits_iff.1 fits).2 []
    rw [List.append_nil, Frame.split_of_none Frame.front?_nil] at enclosed
    exact wrote ▸ enclosed
  have single : answered = [pong] := by
    obtain ⟨response, rfl, same⟩ :=
      List.map_eq_singleton_iff.1 (congrArg Prod.fst (split.symm.trans whole))
    rw [Response.payload_injective same]
  obtain ⟨received, _⟩ := receive ⟨"controller"⟩ (.ofArrivals [.data written]) nofun
    ⟨[], rfl⟩
  rw [single] at received
  exact received (by decide)

/-- **A session may frame what a controller refuses.**  Under any limit beyond the default one, a
signal with enough digits is read and answered in full, and the controller refuses the frame. -/
theorem refuses_digits {limit : Nat} (most : limit ≤ Frame.maximalLength) (invocation : Invocation)
    {digits : List Char} (plain : ∀ digit ∈ digits, Json.IsPlain digit)
    (long : Frame.defaultLimit < digits.length + 139) (fits : digits.length + 139 ≤ limit) :
    let value := SignalValue.bits (String.ofList digits)
    let read : Command := ⟨.ofNat 1, .read "v"⟩
    let response : Response := .ok (.ofNat 1) (.value "v" value)
    let start := Exchange.asked limit read ((MemorySimulator.launch invocation).setSignal "v" value)
    start.upcoming? = some read ∧ start.due? read = some response ∧
      (start.run [.cycle]).connection.channel.written = response.frame ∧
      (receive (accept ⟨"controller"⟩
        (.ofArrivals [.data (start.run [.cycle]).connection.channel.written]))).1 =
          .error (.protocol (.frameTooLarge (digits.length + 139) Frame.defaultLimit)) := by
  intro value read response start
  have length : (Message.payload response).length = digits.length + 139 :=
    Response.length_payload_digits (.ofNat 1) plain
  have least : 256 ≤ limit := by
    have default : 256 ≤ Frame.defaultLimit := by decide
    omega
  have short : (Message.payload read).length ≤ 256 := by decide +kernel
  have upcoming : start.upcoming? = some read :=
    Exchange.upcoming?_asked (Nat.le_trans short least) most _
  have due : start.due? read = some response := rfl
  have wrote : (start.run [.cycle]).connection.channel.written = response.frame :=
    (Exchange.clear_asked limit read _).written_run_cycle least most upcoming due
      (Response.fits_iff.2 ⟨length ▸ fits, length ▸ Nat.le_trans fits most⟩)
  have beyond : ¬response.Readable := by
    rw [Response.Readable, length]
    omega
  have delivered : (Channel.ofArrivals [.data response.frame]).delivered = response.frame ++ [] := rfl
  have refused := receive_of_long (accept ⟨"controller"⟩ (.ofArrivals [.data response.frame]))
    rfl rfl nofun delivered beyond (length ▸ Nat.le_trans fits most)
  rw [length] at refused
  exact ⟨upcoming, due, wrote, wrote ▸ refused⟩

/-- A bridge is configured to frame up to two mebibytes, and the controller refuses an answer that is
one byte longer than one mebibyte. -/
theorem refuses_configured_frame :
    let value := SignalValue.bits (String.ofList (List.replicate 1048438 '0'))
    let read : Command := ⟨.ofNat 1, .read "v"⟩
    let response : Response := .ok (.ofNat 1) (.value "v" value)
    let invocation : Invocation := ⟨["+bridge_max_frame+2097152"]⟩
    let start := Exchange.asked 2097152 read ((MemorySimulator.launch invocation).setSignal "v" value)
    (Configuration.ofInvocation invocation).map Configuration.frameLimit = .ok 2097152 ∧
      start.upcoming? = some read ∧ start.due? read = some response ∧
      (start.run [.cycle]).connection.channel.written = response.frame ∧
      (receive (accept ⟨"controller"⟩
        (.ofArrivals [.data (start.run [.cycle]).connection.channel.written]))).1 =
          .error (.protocol (.frameTooLarge 1048577 1048576)) := by
  intro value read response invocation start
  have plain : ∀ digit ∈ List.replicate 1048438 '0', Json.IsPlain digit := by
    intro digit member
    rw [List.eq_of_mem_replicate member]
    decide
  -- the digits are never computed: all that matters of them is how many they are
  have most : 2097152 ≤ Frame.maximalLength := by decide
  have refused := refuses_digits most invocation plain
    (by rw [List.length_replicate]; decide) (by rw [List.length_replicate]; decide)
  rw [List.length_replicate] at refused
  exact ⟨by decide +kernel, refused⟩

end Controller

end Cosimulation
