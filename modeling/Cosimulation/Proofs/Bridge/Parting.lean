import Cosimulation.Proofs.Bridge.Run
import Cosimulation.Proofs.Session.Closing
import Cosimulation.Proofs.Session.Faultless
/-!
# Why the last session ended

A session is let go of on three paths: the turns of a call have closed it, the simulation ends, or
the host rejects the delay of an advance.  On each of them its dispatcher is closed with a reason and
then disappears.  What it was like when it did is told by its parting (`partings`), together with
whether a rejected delay was what parted it.

A run sees one parting at most, and after it the bridge has a reason to give: the one of the
dispatcher (`Account`, `account_settle`, `Account.invoke`).  The path of the rejected delay is the
exception.  It shuts the session down and takes no reason over, so that nothing tells why the session
ended (`reason_kept_unless_rejected`, `unexplained_of_rejected_delay`).
-/

namespace Cosimulation

set_option autoImplicit false

/-- A session that was let go of: its dispatcher as it was closed, and whether that was done because
a delay was rejected. -/
structure Parting where
  dispatcher : Dispatcher
  rejected : Bool
  deriving DecidableEq, Repr

namespace Run

variable {σ : Type} [Host σ]

/-- The parting of the session that is live, if one is, when it is shut down. -/
def shutParting (run : Run σ) (rejected : Bool) : Option Parting :=
  match run.bridge.link with
  | .live dispatcher connection =>
    some ⟨(Exchange.mk dispatcher connection run.host).shutdown.dispatcher, rejected⟩
  | _ => none

/-- The parting of the live session when the outcome of its turns is settled. -/
def settleParting (run : Run σ) : Outcome → Option Parting
  | .served | .suspended => none
  | .yielded ticks =>
    match Scheduler.register run.host ⟨.afterDelay ticks, .resume⟩ with
    | (.ok (), _) => none
    | (.error error, host) =>
      (report { run with host } (Error.configuration error).message).shutParting true
  | .closed _ => run.bridge.session?.map (⟨·, false⟩)

/-- The parting during the call of an entry point. -/
def invokeParting (run : Run σ) (entry : EntryPoint) : Option Parting :=
  match run.engaged entry with
  | some (resuming, serving) =>
    match serving.bridge.link with
    | .live dispatcher connection =>
      match turns serving.bridge.configuration.mode resuming
          ⟨dispatcher, connection, serving.host⟩ with
      | (outcome, exchange) => (serving.restore exchange).settleParting outcome
    | _ => none
  | none => if entry = .shutdown ∧ run.bridge.phase ≠ .ended then run.shutParting false else none

/-- The parting while something happens. -/
def happeningParting (run : Run σ) : Happening σ → Option Parting
  | .invoke entry => run.invokeParting entry
  | .bootstrap =>
    match run.register .endOfSimulation .shutdown with
    | (.ok (), run) => run.invokeParting .startup
    | (.error _, _) => none
  | _ => none

/-- The partings while everything happens. -/
def partings (run : Run σ) : List (Happening σ) → List Parting
  | [] => []
  | happening :: happenings =>
    (run.happeningParting happening).toList ++ (run.after happening).partings happenings

end Run

/-- The reason that a bridge gives after the partings it has seen: none as long as there is no
parting, and then the one of the parting, unless a rejected delay was the cause. -/
inductive Bridge.Account (bridge : Bridge) : List Parting → Prop where
  | together : (∀ connection, bridge.link ≠ .released connection) → bridge.lastClose = none →
      Account bridge []
  | parted {connection : Connection} {parting : Parting} {reason : CloseReason} :
      bridge.link = .released connection → bridge.phase ≠ .loaded →
      parting.dispatcher.closeReason = some reason → (parting.rejected = true → reason = .shutdown) →
      bridge.lastClose = (if parting.rejected then none else some reason) →
      Account bridge [parting]

namespace Bridge.Account

variable {bridge other : Bridge} {seen : List Parting}

/-- A bridge that has been loaded has seen no parting. -/
theorem of_load (configuration : Configuration) (invocation : Invocation) :
    (Bridge.load configuration invocation).Account [] :=
  .together (fun _ link => by cases link) rfl

/-- The account is a matter of the link, the phase and the reason given.  The phase may go on. -/
theorem of_same (account : bridge.Account seen) (link : other.link = bridge.link)
    (given : other.lastClose = bridge.lastClose)
    (phase : bridge.phase ≠ .loaded → other.phase ≠ .loaded) : other.Account seen := by
  cases account with
  | together unparted ungiven =>
    exact .together (fun connection => link ▸ unparted connection) (given.trans ungiven)
  | parted released started closed rejected explains =>
    exact .parted (link.trans released) (phase started) closed rejected (given.trans explains)

/-- As long as a session is live, there was no parting. -/
theorem of_live (account : bridge.Account seen) {dispatcher : Dispatcher} {connection : Connection}
    (live : bridge.link = .live dispatcher connection) : seen = [] ∧ bridge.lastClose = none := by
  cases account with
  | together _ ungiven => exact ⟨rfl, ungiven⟩
  | parted released => cases live.symm.trans released

/-- As long as the simulation has not started, neither. -/
theorem of_loaded (account : bridge.Account seen) (loaded : bridge.phase = .loaded) :
    seen = [] ∧ bridge.lastClose = none := by
  cases account with
  | together _ ungiven => exact ⟨rfl, ungiven⟩
  | parted _ started => exact absurd loaded started

/-- Whatever happens on the channel, the session stays what it is. -/
theorem mapChannel (account : bridge.Account seen) (alter : Channel → Channel) :
    Bridge.Account { bridge with link := bridge.link.mapChannel alter } seen := by
  cases account with
  | together unparted ungiven =>
    refine .together (fun connection => ?_) ungiven
    cases link : bridge.link with
    | released other => exact absurd link (unparted other)
    | unconnected => nofun
    | live => nofun
  | parted released started closed rejected explains =>
    exact .parted (by rw [released]; rfl) started closed rejected explains

end Bridge.Account

namespace Run

variable {σ : Type} [Host σ] {run : Run σ}

/-! ## Settling -/

omit [Host σ] in
/-- Dropping the live session releases its connection. -/
theorem bridge_dropSession {dispatcher : Dispatcher} {connection : Connection}
    (live : run.bridge.link = .live dispatcher connection) :
    run.dropSession.bridge = { run.bridge with link := .released connection.close } := by
  unfold dropSession
  rw [live]

theorem shutParting_of_live {dispatcher : Dispatcher} {connection : Connection}
    (live : run.bridge.link = .live dispatcher connection) (rejected : Bool) :
    run.shutParting rejected =
      some ⟨(Exchange.mk dispatcher connection run.host).shutdown.dispatcher, rejected⟩ := by
  unfold shutParting
  rw [live]

theorem shutParting_of_idle (idle : run.bridge.session? = none) (rejected : Bool) :
    run.shutParting rejected = none := by
  unfold shutParting
  split
  · rename_i live
    cases (session?_of_live live).symm.trans idle
  · rfl

/-- A call that neither takes turns nor ends the simulation sees no parting. -/
theorem invokeParting_of_unengaged {entry : EntryPoint} (unengaged : run.engaged entry = none)
    (goes : ¬(entry = .shutdown ∧ run.bridge.phase ≠ .ended)) : run.invokeParting entry = none := by
  unfold invokeParting
  rw [unengaged]
  exact if_neg goes

/-- A call that takes turns sees the parting in which they are settled, if they are settled so. -/
theorem invokeParting_of_engaged {entry : EntryPoint} {resuming : Bool} {serving : Run σ}
    (engaged : run.engaged entry = some (resuming, serving)) {dispatcher : Dispatcher}
    {connection : Connection} (live : serving.bridge.link = .live dispatcher connection) :
    let turn := turns serving.bridge.configuration.mode resuming
      ⟨dispatcher, connection, serving.host⟩
    run.invokeParting entry = (serving.restore turn.2).settleParting turn.1 := by
  simp only [invokeParting, engaged, live]

/-- A rejected delay parts the session, which is shut down. -/
theorem settleParting_of_rejected {dispatcher : Dispatcher} {connection : Connection}
    (live : run.bridge.link = .live dispatcher connection) {ticks : UInt64}
    {error : ConfigurationError} {host : σ}
    (registered : Scheduler.register run.host ⟨.afterDelay ticks, .resume⟩ = (.error error, host)) :
    let told := report { run with host } (Error.configuration error).message
    run.settleParting (.yielded ticks) =
      some ⟨(Exchange.mk dispatcher connection told.host).shutdown.dispatcher, true⟩ := by
  intro told
  simp only [settleParting, registered]
  have alive : told.bridge.link = .live dispatcher connection := live
  exact shutParting_of_live alive true

/-- **Settling the turns of a live session** accounts for the parting, if there is one. -/
theorem account_settle {dispatcher : Dispatcher} {connection : Connection} {outcome : Outcome}
    (live : run.bridge.link = .live dispatcher connection) (started : run.bridge.phase ≠ .loaded)
    (unparted : run.bridge.lastClose = none) (leaves : outcome.Leaves dispatcher) :
    (run.settle outcome).2.bridge.Account (run.settleParting outcome).toList := by
  have still : run.bridge.Account [] := .together (fun _ => by rw [live]; nofun) unparted
  cases outcome with
  | served => exact still
  | suspended => exact still
  | closed reason =>
    have parting : run.settleParting (.closed reason) = some ⟨dispatcher, false⟩ := by
      unfold settleParting
      rw [session?_of_live live]
      rfl
    rw [parting]
    have settled : (run.settle (.closed reason)).2.bridge =
        { run.dropSession.bridge with lastClose := some reason } := run.bridge_endSession reason
    rw [settled, bridge_dropSession live]
    exact .parted rfl started leaves nofun rfl
  | yielded ticks =>
    rcases run.scheduleResume_cases ticks with
      ⟨host, registered, same⟩ | ⟨error, host, registered, same⟩
    · rw [show run.settle (.yielded ticks) = _ from same]
      have parting : run.settleParting (.yielded ticks) = none := by
        simp only [settleParting, registered]
      rw [parting]
      exact still.of_same rfl rfl id
    · rw [show run.settle (.yielded ticks) = _ from same]
      let told := report { run with host } (Error.configuration error).message
      let last := (Exchange.mk dispatcher connection told.host).shutdown
      have shut : told.shutdownSession.bridge =
          { run.bridge with link := .released last.connection.close } := by
        unfold shutdownSession
        rw [show told.bridge.link = _ from live]
        rfl
      have closed : last.dispatcher.closeReason = some .shutdown :=
        Exchange.closeReason_shutdown leaves.1
      rw [settleParting_of_rejected live registered]
      -- the reason is not taken over
      exact .parted (congrArg Bridge.link shut) (by rw [congrArg Bridge.phase shut]; exact started)
        closed (fun _ => rfl) ((congrArg Bridge.lastClose shut).trans unparted)

/-- **The turns of a call** account for the parting, if there is one. -/
theorem account_pump {dispatcher : Dispatcher} {connection : Connection}
    (live : run.bridge.link = .live dispatcher connection) (started : run.bridge.phase ≠ .loaded)
    (unparted : run.bridge.lastClose = none) (resuming : Bool) :
    let turn := turns run.bridge.configuration.mode resuming ⟨dispatcher, connection, run.host⟩
    (run.pump resuming).2.bridge.Account ((run.restore turn.2).settleParting turn.1).toList := by
  intro turn
  rw [run.pump_of_live live]
  exact account_settle rfl started unparted (leaves_turns _ resuming _)

/-! ## Whatever happens -/

end Run

namespace Bridge.Account

variable {σ : Type} [Host σ] {run : Run σ} {seen : List Parting}

/-- **The call of an entry point** accounts for the parting, if there is one. -/
theorem invoke (account : run.bridge.Account seen) (coherent : run.bridge.Coherent)
    (entry : EntryPoint) :
    (run.invoke entry).2.bridge.Account (seen ++ (run.invokeParting entry).toList) := by
  have goes := run.goes_invoke entry
  generalize run.invoke entry = call at goes
  cases goes with
  | @serves resuming serving dispatcher connection engaged live =>
    have running := (Run.opened_of_engaged coherent engaged live).2
    have unparted : seen = [] ∧ serving.bridge.lastClose = none := by
      rcases Run.engaged_cases engaged with ⟨_, _, loaded, _, _, _, rfl⟩ | ⟨_, _, rfl⟩
      · obtain ⟨unseen, ungiven⟩ := account.of_loaded loaded
        exact ⟨unseen, by simpa using ungiven⟩
      · exact account.of_live live
    rw [Run.invokeParting_of_engaged engaged live, unparted.1]
    exact Run.account_pump live (by rw [running]; decide) unparted.2 resuming
  | @refused error host unengaged starts =>
    have goes : ¬(entry = .shutdown ∧ run.bridge.phase ≠ .ended) := by simp [starts]
    rw [Run.invokeParting_of_unengaged unengaged goes, Option.toList_none, List.append_nil]
    rw [Run.bridge_refused]
    exact account.of_same rfl rfl fun _ loaded => by cases loaded
  | nothing unengaged _ ended =>
    rw [Run.invokeParting_of_unengaged unengaged fun ends => ends.2 (ended ends.1),
      Option.toList_none, List.append_nil]
    exact account
  | ended unengaged ends idle =>
    have parting : run.invokeParting entry = none := by
      unfold Run.invokeParting
      rw [unengaged]
      dsimp only
      split
      · exact Run.shutParting_of_idle idle false
      · rfl
    rw [parting, Option.toList_none, List.append_nil]
    exact account.of_same rfl rfl fun _ loaded => by cases loaded
  | @shut dispatcher connection unengaged ends live =>
    have session := Run.session?_of_live live
    have closed : (Exchange.mk dispatcher connection run.host).shutdown.dispatcher.closeReason =
        some .shutdown := Exchange.closeReason_shutdown (coherent.opened dispatcher session)
    have ongoing : run.bridge.phase ≠ .ended := by
      rw [coherent.running dispatcher session]
      decide
    have parting : run.invokeParting entry = run.shutParting false := by
      unfold Run.invokeParting
      rw [unengaged]
      exact if_pos ⟨ends, ongoing⟩
    rw [parting, Run.shutParting_of_live live, (account.of_live live).1]
    exact .parted rfl (fun loaded => by cases loaded) closed (fun rejected => by cases rejected) closed

/-- **Whatever happens** is accounted for. -/
theorem after (account : run.bridge.Account seen) (coherent : run.bridge.Coherent)
    (happening : Happening σ) :
    (run.after happening).bridge.Account (seen ++ (run.happeningParting happening).toList) := by
  cases happening with
  | invoke entry => exact account.invoke coherent entry
  | bootstrap =>
    obtain ⟨ledger, host, registered⟩ := run.register_eq .endOfSimulation .shutdown
    unfold Run.after Run.bootstrap Run.happeningParting
    cases registering : run.register .endOfSimulation .shutdown with
    | mk result last =>
      rw [registering] at registered
      dsimp only at registered
      subst registered
      have still : Bridge.Account { run.bridge with ledger } seen := account.of_same rfl rfl id
      cases result with
      | error error =>
        dsimp only
        exact (List.append_nil seen).symm ▸ still
      | ok =>
        have alike : Bridge.Coherent { run.bridge with ledger } := coherent.of_same rfl rfl rfl
        exact still.invoke alike .startup
  | register =>
    obtain ⟨ledger, host, registered⟩ := run.registerCallbacks_eq
    rw [show run.after .register = _ from registered]
    exact (List.append_nil seen).symm ▸ account.of_same rfl rfl id
  | change alter => exact (List.append_nil seen).symm ▸ account.of_same rfl rfl id
  | channel alter => exact (List.append_nil seen).symm ▸ account.mapChannel alter

/-- A run accounts for all its partings. -/
theorem follow (account : run.bridge.Account seen) (coherent : run.bridge.Coherent)
    (happenings : List (Happening σ)) :
    (run.follow happenings).bridge.Account (seen ++ run.partings happenings) := by
  induction happenings generalizing run seen with
  | nil => exact (List.append_nil seen).symm ▸ account
  | cons happening happenings ih =>
    have accounts := ih (account.after coherent happening) (Run.coherent_after coherent happening)
    rw [List.append_assoc] at accounts
    exact accounts

end Bridge.Account

namespace Run

variable {σ : Type} [Host σ]

/-- **Why the last session ended is told, unless a rejected delay ended it.**  Whatever has happened
to a bridge since it was loaded, there was a parting exactly if a session was established and is live
no more.  Before it the bridge gives no reason.  There is no second one.  The dispatcher that was let
go of had been closed for a reason, and that is the reason which the bridge gives, except for the one
parting in which the host rejected a delay: it gives none there, although the dispatcher was shut
down. -/
theorem reason_kept_unless_rejected (configuration : Configuration) (invocation : Invocation)
    (host : σ) (happenings : List (Happening σ)) :
    let start := Run.mk (.load configuration invocation) host
    let bridge := (start.follow happenings).bridge
    let partings := start.partings happenings
    (partings ≠ [] ↔ bridge.link.isConnected = true ∧ bridge.session? = none) ∧
    (partings = [] → bridge.lastClose = none) ∧
    ∀ parting ∈ partings, partings = [parting] ∧
      ∃ reason, parting.dispatcher.closeReason = some reason ∧
        bridge.lastClose = (if parting.rejected then none else some reason) ∧
        (parting.rejected = true → reason = .shutdown) := by
  intro start bridge partings
  have loaded : start.bridge.Account [] := .of_load configuration invocation
  have account : bridge.Account partings := loaded.follow (.of_idle rfl) happenings
  clear_value partings bridge
  cases account with
  | together unparted ungiven =>
    refine ⟨iff_of_false (fun nonempty => nonempty rfl) ?_, fun _ => ungiven,
      fun _ member => absurd member List.not_mem_nil⟩
    rintro ⟨connected, idle⟩
    unfold Bridge.session? at idle
    cases link : bridge.link with
    | unconnected => simp [link, Link.isConnected, Link.connection?] at connected
    | live => simp [link, Link.session?] at idle
    | released connection => exact unparted connection link
  | @parted connection parting reason released _ closed rejected given =>
    have nonempty : [parting] ≠ [] := List.cons_ne_nil _ _
    refine ⟨iff_of_true nonempty ?_, fun empty => absurd empty nonempty, fun other member => ?_⟩
    · unfold Bridge.session?
      rw [released]
      exact ⟨rfl, rfl⟩
    · cases List.mem_singleton.1 member
      exact ⟨rfl, reason, closed, given, rejected⟩

/-- A session in single mode that yields to a delay which the host rejects sees its parting. -/
theorem invokeParting_of_yielded {run serving : Run σ} {entry : EntryPoint} {resuming : Bool}
    (engaged : run.engaged entry = some (resuming, serving)) {dispatcher : Dispatcher}
    {connection : Connection} (live : serving.bridge.link = .live dispatcher connection)
    (single : serving.bridge.configuration.mode = .single) {ticks : UInt64} {after : Exchange σ}
    (yields : firstTurn resuming ⟨dispatcher, connection, serving.host⟩ = (.yielded ticks, after))
    {error : ConfigurationError} {host : σ}
    (registered : Scheduler.register after.simulator ⟨.afterDelay ticks, .resume⟩ =
      (.error error, host)) :
    ∃ dispatcher, run.invokeParting entry = some ⟨dispatcher, true⟩ := by
  have parting := invokeParting_of_engaged engaged live
  rw [single, turns_single, yields] at parting
  exact ⟨_, parting.trans (settleParting_of_rejected rfl registered)⟩

/-- A host in memory rejects the triggers that it was told to reject. -/
theorem register_of_rejected {host : MemoryHost} {registration : Registration}
    (rejects : registration.trigger ∈ host.recorder.rejected) :
    Scheduler.register host registration =
      (.error (.registrationRejected registration.trigger.display), host) := by
  have recorded : Recorder.register host.recorder registration =
      (.error (.registrationRejected registration.trigger.display), host.recorder) := if_pos rejects
  show host.onRecorder (·.register registration) = _
  simp only [MemoryHost.onRecorder, recorded]

/-- A controller that listens in the directory of a host in memory is reached. -/
theorem establish_of_listening {host : MemoryHost} {path : String} {channel : Channel}
    (listens : host.directory.dial path = .ok channel) (nonempty : path.isEmpty = false)
    (option : String) (limit : Nat) :
    Connection.establish host (.some path) option limit =
      (.ok (.ofChannel channel path limit), host) := by
  have dials : Network.dial host path = (.ok channel, host) := by
    rw [show Network.dial host path = (host.directory.dial path, host) from rfl, listens]
  simp only [Connection.establish, nonempty, dials, Bool.false_eq_true, if_false]

/-- A path of one name. -/
theorem names_single : Directory.names "c" = ["c"] := by
  have split : "c".splitOn "/" = ["c"] := by
    rw [String.splitOn, if_neg (by decide), String.splitOnAux, if_neg (by decide +kernel),
      if_neg (by decide +kernel), String.splitOnAux, if_pos (by decide +kernel)]
    decide +kernel
  rw [Directory.names, split]
  decide

theorem dial_listening (listener : Channel) :
    (Directory.empty.put ["tmp", "work", "c"] (.socket (some listener))).dial "c" =
      .ok listener := by
  have located : (Directory.empty.put ["tmp", "work", "c"] (.socket (some listener))).locate "c" =
      .ok ["tmp", "work", "c"] := by
    rw [Directory.locate, names_single]
    rfl
  rw [Directory.dial, located]
  rfl

/-- The controller asks for an advance, and the host rejects its delay: the session is shut down and
let go of, and no reason is given. -/
theorem unexplained_of_rejected_delay :
    let command : Command := ⟨.ofNat 1, .advance 5⟩
    let listener := Channel.ofArrivals [.data (Frame.enclose (Message.payload command))]
    let invocation : Invocation := ⟨["+socket+c"]⟩
    let host : MemoryHost := ⟨.launch invocation, Recorder.empty.reject (.afterDelay 5),
      Directory.empty.put ["tmp", "work", "c"] (.socket (some listener))⟩
    let start := Run.mk (.load .standard invocation) host
    let bridge := (start.follow [.invoke .startup]).bridge
    bridge.link.isConnected = true ∧ bridge.session? = none ∧ bridge.lastClose = none ∧
      ∃ parting, start.partings [.invoke .startup] = [parting] ∧
        parting.dispatcher.closeReason = some .shutdown := by
  intro command listener invocation host start bridge
  let connection := Connection.ofChannel listener "c" Frame.defaultLimit
  have dialled : start.dialled = (.ok connection, host) := by
    have path : Configuration.standard.socketPath invocation = some "c" := by decide +kernel
    unfold Run.dialled
    rw [show start.bridge.configuration.socketPath start.bridge.invocation = _ from path]
    exact establish_of_listening (dial_listening listener) (by decide) _ _
  have engaged : start.engaged .startup = some (false, start.greeted connection host) := by
    simp only [Run.engaged, dialled]
    rfl
  let exchange : Exchange MemoryHost :=
    ⟨.start start.bridge.configuration.frameLimit, connection, (start.greeted connection host).host⟩
  have upcoming : exchange.upcoming? = some command :=
    Exchange.upcoming?_begin (by decide +kernel) (by decide +kernel) _ _
  have yields : firstTurn false exchange = _ :=
    (firstTurn_false exchange).trans (Exchange.cycle_of_advance rfl rfl upcoming rfl (by decide))
  have rejects : .afterDelay 5 ∈ (start.greeted connection host).host.recorder.rejected :=
    List.mem_singleton.2 rfl
  obtain ⟨dispatcher, parted⟩ :=
    invokeParting_of_yielded engaged rfl rfl yields (register_of_rejected rejects)
  have account : bridge.Account [⟨dispatcher, true⟩] := by
    have loaded : start.bridge.Account [] := .of_load .standard invocation
    have accounts := loaded.invoke (.of_idle rfl) .startup
    rw [parted] at accounts
    exact accounts
  clear_value bridge
  cases account with
  | parted released _ closed shut given =>
    unfold Bridge.session?
    rw [released]
    exact ⟨rfl, rfl, given, _, congrArg (·.toList ++ []) parted, shut rfl ▸ closed⟩

end Run

end Cosimulation
