import Cosimulation.Proofs.Bridge.Coupling
import Cosimulation.Proofs.Bridge.Effects
import Cosimulation.Proofs.Bridge.Parting
/-!
# What a quiet bridge keeps back

A quiet bridge keeps back what is only information, and nothing else about it is different.  To say
so, two bridges are loaded into the same host, one of them quiet, and the same happens to both
(`quiet_changes_console_only`).  Their hosts come to differ in what was printed, so that a host may
not look at that (`MemoryHost.couples_hears`), and neither may what changes a host from outside
(`Happening.unheard`).

Which lines are kept back can be read off the bridge: one tells of the connection that is there after
a call and was not before (`Bridge.arrival`), another that there is none or why the session was
closed (`Bridge.departure`).  That these are all such lines is the content of `tidings_after`.  It
rests on what holds of a bridge between its calls, for instance that a bridge which still has a
session has given no reason yet.  With it a single happening is accounted for (`alike_step`), and by
induction all that happens to the two bridges (`alike_follow`).
-/

namespace Cosimulation

set_option autoImplicit false

namespace Bridge

/-- The line that tells of a connection that was made between two moments. -/
def arrival (before after : Bridge) : List Line :=
  match before.link.connection?, after.link.connection? with
  | none, some connection => [.aside (before.line s!"connected to controller at {connection.peer}")]
  | _, _ => []

/-- The line that tells, between two moments of a running simulation, why a session was closed, or
that no connection could be made. -/
def departure (before after : Bridge) : List Line :=
  match before.lastClose, after.lastClose with
  | none, some reason =>
    if reason.isError ∨ after.phase = .ended then []
    else [.aside (before.line s!"session ended: {reason.display}")]
  | _, _ =>
    if before.phase = .loaded ∧ after.phase = .running ∧ after.link.connection? = none then
      [.aside (before.line "couldn't connect to the controller")]
    else []

variable {before after : Bridge}

/-- Nothing is told when no connection was made. -/
theorem arrival_of_same (same : before.link.connection? = none → after.link.connection? = none) :
    before.arrival after = [] := by
  unfold arrival
  cases found : before.link.connection? with
  | none => rw [same found]
  | some connection => rfl

/-- Nothing is told when neither a session was closed nor the simulation started. -/
theorem departure_of_same (same : after.lastClose = before.lastClose)
    (still : before.phase = .loaded → after.phase ≠ .running) : before.departure after = [] := by
  have idle : ¬(before.phase = .loaded ∧ after.phase = .running ∧ after.link.connection? = none) :=
    fun started => still started.1 started.2.1
  unfold departure
  rw [same]
  cases before.lastClose <;> exact if_neg idle

end Bridge

/-- A connection keeps the name of its other end. -/
theorem Connection.kept_peer (peer : String) : Kept fun connection => connection.peer = peer where
  read connection held := by
    obtain ⟨_, _, same⟩ := connection.onlyRead_readFrame
    rw [same]
    exact held
  write connection frame held := by
    obtain ⟨_, _, _, _, _, same, _⟩ := connection.writeFrame_wrote frame
    rw [same]
    exact held
  close connection held := by
    unfold close
    split <;> exact held

namespace Run

variable {σ : Type} [Host σ] {run : Run σ}

/-- The reason that is given when the turns have been settled. -/
theorem lastClose_settle (run : Run σ) (outcome : Outcome) :
    (run.settle outcome).2.bridge.lastClose =
      match outcome with
      | .closed reason => some reason
      | _ => run.bridge.lastClose := by
  cases outcome with
  | served => rfl
  | suspended => rfl
  | closed reason =>
    show (run.endSession reason).2.bridge.lastClose = _
    rw [bridge_endSession]
  | yielded ticks =>
    rcases run.scheduleResume_cases ticks with ⟨host, _, same⟩ | ⟨error, host, _, same⟩
    · rw [show run.settle (.yielded ticks) = _ from same]
    · rw [show run.settle (.yielded ticks) = _ from same]
      show (shutdownSession _).bridge.lastClose = _
      unfold shutdownSession dropSession restore
      split <;> rfl

/-- What is told at the end of turns is what the bridge shows of them afterwards. -/
theorem parting_eq_departure {before : Bridge} {dispatcher : Dispatcher} {connection : Connection}
    (live : run.bridge.link = .live dispatcher connection) (ongoing : run.bridge.phase ≠ .ended)
    (unclosed : run.bridge.lastClose = none) (same : before.line = run.bridge.line)
    (also : before.lastClose = none) (resuming : Bool) :
    run.parting resuming = before.departure (run.pump resuming).2.bridge := by
  obtain ⟨last, connected, _⟩ := kept_pump (Connection.kept_peer connection.peer) live rfl resuming
  have closes := (run.restore (turns run.bridge.configuration.mode resuming
    ⟨dispatcher, connection, run.host⟩).2).lastClose_settle (turns run.bridge.configuration.mode
      resuming ⟨dispatcher, connection, run.host⟩).1
  have phase : (run.pump resuming).2.bridge.phase ≠ .ended := by
    rw [run.pump_of_live live, phase_settle]
    exact ongoing
  rw [← run.pump_of_live live] at closes
  simp only [parting, live]
  generalize (turns run.bridge.configuration.mode resuming ⟨dispatcher, connection, run.host⟩).1 =
    outcome at closes ⊢
  cases outcome with
  | closed reason => simp [Bridge.departure, Bridge.farewell, also, closes, phase, same]
  | served => simp [Bridge.departure, Bridge.farewell, also, closes, unclosed, restore, connected]
  | suspended => simp [Bridge.departure, Bridge.farewell, also, closes, unclosed, restore, connected]
  | yielded ticks =>
    simp [Bridge.departure, Bridge.farewell, also, closes, unclosed, restore, connected]

omit [Host σ] in
/-- As long as the simulation has not started, there is no connection. -/
theorem unconnected_of_loaded (coherent : run.bridge.Coherent) {seen : List Parting}
    (account : run.bridge.Account seen) (loaded : run.bridge.phase = .loaded) :
    run.bridge.link.connection? = none := by
  cases link : run.bridge.link with
  | unconnected => rfl
  | live dispatcher connection =>
    cases loaded.symm.trans (coherent.running dispatcher (session?_of_live link))
  | released connection =>
    cases account with
    | together unparted => exact absurd link (unparted connection)
    | parted _ started => exact absurd loaded started

/-- **What a call tells at its beginning and at its end** is what the bridge shows of it afterwards:
that it has connected, that it could not, or why its session was closed. -/
theorem tidings_invoke (coherent : run.bridge.Coherent) {seen : List Parting}
    (account : run.bridge.Account seen) (entry : EntryPoint) :
    run.opening entry = run.bridge.arrival (run.invoke entry).2.bridge ∧
      run.closing entry = run.bridge.departure (run.invoke entry).2.bridge := by
  have goes := run.goes_invoke entry
  generalize run.invoke entry = call at goes
  cases goes with
  | @serves resuming serving dispatcher connection engaged live =>
    have running := (opened_of_engaged coherent engaged live).2
    have ongoing : serving.bridge.phase ≠ .ended := by
      rw [running]
      decide
    obtain ⟨last, connected, named⟩ :=
      kept_pump (Connection.kept_peer connection.peer) live rfl resuming
    have closes : run.closing entry = serving.parting resuming := by
      simp only [closing, engaged]
    rcases engaged_cases engaged with ⟨rfl, rfl, loaded, _, host, dialled, rfl⟩ | ⟨rfl, _, rfl⟩
    · cases live
      have silent := (account.of_loaded loaded).2
      have alone := unconnected_of_loaded coherent account loaded
      refine ⟨?_, ?_⟩
      · simp [opening, loaded, dialled, Bridge.arrival, alone, connected, named]
      · rw [closes]
        refine parting_eq_departure rfl ongoing ?_ ?_ silent false
        · simpa using silent
        · simp [Bridge.line, funext_iff]
    · have silent := (account.of_live live).2
      have linked : serving.bridge.link.connection? = some connection := congrArg Link.connection? live
      refine ⟨?_, ?_⟩
      · cases resuming <;> simp [opening, Bridge.arrival, linked]
      · rw [closes]
        exact parting_eq_departure live ongoing silent rfl silent resuming
  | @refused error host unengaged starts loaded dialled =>
    subst starts
    have silent := (account.of_loaded loaded).2
    have alone := unconnected_of_loaded coherent account loaded
    simp [opening, closing, unengaged, loaded, dialled, Bridge.arrival, Bridge.departure, silent,
      alone]
  | nothing unengaged started =>
    have resting : ¬(entry = .startup ∧ run.bridge.phase = .loaded) := fun starts =>
      started starts.1 starts.2
    refine ⟨?_, ?_⟩
    · rw [Bridge.arrival_of_same id]
      cases entry with
      | startup => exact if_neg (started rfl)
      | shutdown => rfl
      | service => rfl
      | resume => rfl
    · rw [Bridge.departure_of_same rfl fun loaded => by rw [loaded]; decide]
      simp only [closing, unengaged, if_neg resting]
  | ended unengaged ends =>
    subst ends
    have silent : run.bridge.departure { run.bridge with phase := .ended } = [] :=
      Bridge.departure_of_same rfl fun _ => by simp
    exact ⟨(Bridge.arrival_of_same id).symm, silent.symm⟩
  | @shut dispatcher connection unengaged ends live =>
    subst ends
    have linked : run.bridge.link.connection? = some connection := congrArg Link.connection? live
    have closed : (Exchange.mk dispatcher connection run.host).shutdown.dispatcher.closeReason =
        some .shutdown := Exchange.closeReason_shutdown (coherent.opened dispatcher (session?_of_live live))
    simp [opening, closing, engaged, Bridge.arrival, Bridge.departure, linked, concluded, closed,
      (account.of_live live).2]

/-- What is told at the beginning of what happens. -/
def front (run : Run σ) : Happening σ → List Line
  | .invoke entry => run.opening entry
  | .bootstrap => run.bootOpening
  | .register | .change _ | .channel _ => []

/-- What is told at the end of what happens. -/
def back (run : Run σ) : Happening σ → List Line
  | .invoke entry => run.closing entry
  | .bootstrap => run.bootClosing
  | .register | .change _ | .channel _ => []

/-- **Whatever happens, what is told of it** is what the bridge shows of it afterwards. -/
theorem tidings_after (coherent : run.bridge.Coherent) {seen : List Parting}
    (account : run.bridge.Account seen) (happening : Happening σ) :
    run.front happening = run.bridge.arrival (run.after happening).bridge ∧
      run.back happening = run.bridge.departure (run.after happening).bridge := by
  have silent (other : Bridge)
      (link : run.bridge.link.connection? = none → other.link.connection? = none)
      (given : other.lastClose = run.bridge.lastClose) (phase : other.phase = run.bridge.phase) :
      [] = run.bridge.arrival other ∧ [] = run.bridge.departure other :=
    ⟨(Bridge.arrival_of_same link).symm,
      (Bridge.departure_of_same given fun loaded => by rw [phase, loaded]; decide).symm⟩
  cases happening with
  | invoke entry => exact tidings_invoke coherent account entry
  | bootstrap =>
    obtain ⟨ledger, host, registered⟩ := run.register_eq .endOfSimulation .shutdown
    simp only [front, back, after, bootOpening, bootClosing, bootstrap]
    cases registering : run.register .endOfSimulation .shutdown with
    | mk result last =>
      rw [registering] at registered
      dsimp only at registered
      subst registered
      cases result with
      | error error => exact silent _ id rfl rfl
      | ok =>
        have alike : Bridge.Coherent { run.bridge with ledger } := coherent.of_same rfl rfl rfl
        have still : Bridge.Account { run.bridge with ledger } seen := account.of_same rfl rfl id
        exact tidings_invoke alike still .startup
  | register =>
    obtain ⟨ledger, host, registered⟩ := run.registerCallbacks_eq
    rw [show run.after .register = _ from registered]
    exact silent _ id rfl rfl
  | change change => exact silent _ id rfl rfl
  | channel change =>
    refine silent _ (fun unconnected => ?_) rfl rfl
    show (run.bridge.link.mapChannel change).connection? = none
    cases link : run.bridge.link with
    | unconnected => rfl
    | live => simp [link, Link.connection?] at unconnected
    | released => simp [link, Link.connection?] at unconnected

end Run

/-! ## What a quiet bridge prints -/

/-- What a quiet bridge prints of lines. -/
def Line.kept (lines : List Line) : List String :=
  (lines.filter fun line => !line.informational).map Line.text

@[simp] theorem Line.kept_append (front back : List Line) :
    Line.kept (front ++ back) = Line.kept front ++ Line.kept back := by
  simp [Line.kept]

@[simp] theorem Line.kept_spoken (texts : List String) :
    Line.kept (texts.map Line.spoken) = texts := by
  induction texts with
  | nil => rfl
  | cons text texts ih => exact congrArg (text :: ·) ih

namespace Bridge

/-- A quiet bridge prints nothing of a connection that was made. -/
@[simp] theorem kept_arrival (before after : Bridge) : Line.kept (before.arrival after) = [] := by
  unfold arrival
  split <;> rfl

/-- Nor does it tell why a session was closed, unless that is an error. -/
@[simp] theorem kept_departure (before after : Bridge) : Line.kept (before.departure after) = [] := by
  unfold departure
  split <;> split <;> rfl

end Bridge

/-! ## Two hosts in memory -/

namespace MemorySimulator

/-- The simulator with other lines printed. -/
def withOutput (simulator : MemorySimulator) (output : List String) : MemorySimulator :=
  { simulator with output }

/-- A call that does not look at what was printed, and prints nothing. -/
def Deaf {α : Type} (call : MemorySimulator → α × MemorySimulator) : Prop :=
  ∀ simulator output,
    call (simulator.withOutput output) = ((call simulator).1, (call simulator).2.withOutput output)

theorem deaf_lookup (path : String) : Deaf (·.lookup path) := by
  intro simulator output
  have position : (simulator.withOutput output).indexOf? path = simulator.indexOf? path := rfl
  simp only [lookup, position]
  cases simulator.indexOf? path <;> rfl

theorem deaf_write (reference : ObjectReference) (path : String) (value : SignalValue)
    (mode : WriteMode) : Deaf (·.write reference path value mode) := by
  intro simulator output
  have signal : (simulator.withOutput output).referred reference path =
      simulator.referred reference path := rfl
  simp only [write, signal]
  cases simulator.referred reference path <;> rfl

theorem deaf_release (reference : ObjectReference) (path : String) :
    Deaf (·.release reference path) := by
  intro simulator output
  have signal : (simulator.withOutput output).referred reference path =
      simulator.referred reference path := rfl
  simp only [release, signal]
  cases simulator.referred reference path <;> rfl

end MemorySimulator

namespace MemoryHost

/-- The lines printed so far. -/
def output (host : MemoryHost) : List String := host.simulator.output

/-- The host with other lines printed. -/
def withOutput (host : MemoryHost) (output : List String) : MemoryHost :=
  { host with simulator := host.simulator.withOutput output }

@[simp] theorem output_withOutput (host : MemoryHost) (output : List String) :
    (host.withOutput output).output = output := rfl

@[simp] theorem withOutput_withOutput (host : MemoryHost) (first second : List String) :
    (host.withOutput first).withOutput second = host.withOutput second := rfl

/-- Two hosts that differ at most in what was printed.  Behind what was printed before, one has
printed all of the lines and the other what a quiet bridge prints of them. -/
inductive Hears (before : List String) (lines : List Line) : MemoryHost → MemoryHost → Prop where
  | intro (host : MemoryHost) : Hears before lines
      (host.withOutput (before ++ lines.map Line.text))
      (host.withOutput (before ++ Line.kept lines))

section Hears

variable {before : List String} {lines : List Line} {first second : MemoryHost}
  (hears : Hears before lines first second)
include hears

theorem Hears.onSimulator {α : Type} {call : MemorySimulator → α × MemorySimulator}
    (deaf : MemorySimulator.Deaf call) :
    Coupled (Hears before lines) (first.onSimulator call) (second.onSimulator call) := by
  cases hears with
  | intro host =>
    simp only [MemoryHost.onSimulator, withOutput, deaf host.simulator]
    exact .intro _ (.intro { host with simulator := (call host.simulator).2 })

/-- A line is printed by both, or by the first alone if it is informational. -/
theorem Hears.say (line : Line) :
    Hears before (lines ++ [line]) (first.withOutput (first.output ++ [line.text]))
      (if line.informational then second else second.withOutput (second.output ++ [line.text])) := by
  cases hears with
  | intro host =>
    have said : Hears before (lines ++ [line]) _ _ := .intro host
    obtain ⟨text, informational⟩ := line
    cases informational <;> simpa [Line.kept, List.append_assoc] using said

end Hears

/-- **Hosts in memory cannot be told apart by what was printed.** -/
theorem couples_hears (before : List String) : Host.Couples false true (Hears before) where
  answers _ :=
    { lookup := fun path hears => hears.onSimulator (MemorySimulator.deaf_lookup path)
      read := fun _ _ hears => hears.onSimulator fun _ _ => rfl
      write := fun reference path value mode hears =>
        hears.onSimulator (MemorySimulator.deaf_write reference path value mode)
      release := fun reference path hears =>
        hears.onSimulator (MemorySimulator.deaf_release reference path)
      time := fun hears => hears.onSimulator fun _ _ => rfl }
  print text hears := hears.say (.spoken text)
  inform text hears := hears.say (.aside text)
  finish hears := by
    cases hears with
    | intro host => exact .intro { host with simulator := host.simulator.finish }
  alert _ hears := hears
  register registration hears := by
    cases hears with
    | intro host =>
      exact .intro _ (.intro { host with recorder := (host.recorder.register registration).2 })
  dial path hears := by
    cases hears with
    | intro host => exact .intro _ (.intro host)

end MemoryHost

/-! ## Two runs -/

/-- A change of a host that has nothing to do with what was printed. -/
def MemoryHost.unheard (change : MemoryHost → MemoryHost) (host : MemoryHost) : MemoryHost :=
  (change (host.withOutput [])).withOutput host.output

/-- What happens, if the host changes without regard to what was printed. -/
def Happening.unheard : Happening MemoryHost → Happening MemoryHost
  | .change alter => .change (MemoryHost.unheard alter)
  | .invoke entry => .invoke entry
  | .bootstrap => .bootstrap
  | .register => .register
  | .channel alter => .channel alter

/-- What the host is returned from a call. -/
inductive Returned where
  | status (status : HostStatus)
  | registered (result : Except ConfigurationError Unit)
  /-- It was no call. -/
  | nothing

namespace Run

variable {σ : Type} [Host σ]

/-- What the host is returned when something happens. -/
def returned (run : Run σ) : Happening σ → Returned
  | .invoke entry => .status (run.invoke entry).1
  | .bootstrap => .status run.bootstrap.1
  | .register => .registered run.registerCallbacks.1
  | .change _ | .channel _ => .nothing

/-- What the host is returned while everything happens. -/
def returns (run : Run σ) : List (Happening σ) → List Returned
  | [] => []
  | happening :: happenings => run.returned happening :: (run.after happening).returns happenings

/-- The lines that there are to print while everything happens to a quiet bridge: those that it
prints, and around them those that it keeps back. -/
def lines (run : Run MemoryHost) : List (Happening MemoryHost) → List Line
  | [] => []
  | happening :: happenings =>
    let next := run.after happening
    run.bridge.arrival next.bridge ++
      (next.host.output.drop run.host.output.length).map Line.spoken ++
      run.bridge.departure next.bridge ++ next.lines happenings

variable {before : List String} {lines : List Line} {loud quiet : Run MemoryHost}

theorem alike_after (alike : Alike false true (MemoryHost.Hears before lines) loud quiet)
    (happening : Happening MemoryHost) :
    loud.returned happening.unheard = quiet.returned happening.unheard ∧
      Alike false true (Between (MemoryHost.Hears before) (lines ++ loud.front happening.unheard)
        (loud.back happening.unheard)) (loud.after happening.unheard)
        (quiet.after happening.unheard) := by
  have couples := MemoryHost.couples_hears before
  cases happening with
  | invoke entry =>
    have called := coupled_invoke couples alike entry
    exact ⟨congrArg Returned.status called.value, called.state⟩
  | bootstrap =>
    have called := coupled_bootstrap couples alike
    exact ⟨congrArg Returned.status called.value, called.state⟩
  | register =>
    have called := coupled_registerCallbacks couples alike
    refine ⟨congrArg Returned.registered called.value, called.state.imp fun hears => ?_⟩
    exact .of_related (by simpa [front, Happening.unheard] using hears)
  | change change =>
    refine ⟨rfl, ?_⟩
    cases alike with
    | intro bridge hears =>
      cases hears with
      | intro host =>
        refine .intro bridge (.of_related ?_)
        simp only [front, Happening.unheard, List.append_nil]
        exact .intro (change (host.withOutput []))
  | channel change =>
    refine ⟨rfl, ?_⟩
    cases alike with
    | intro bridge hears =>
      refine .intro { bridge with link := bridge.link.mapChannel change } (.of_related ?_)
      simp only [front, Happening.unheard, List.append_nil]
      exact hears

/-- The lines that were printed between two others in any case are what a quiet bridge has printed in
the meantime. -/
theorem hears_of_between {front back : List Line} (silent : Line.kept front = [])
    (alsoSilent : Line.kept back = []) {first second : MemoryHost}
    (between : Between (MemoryHost.Hears before) (lines ++ front) back first second) :
    MemoryHost.Hears before (lines ++ (front ++
      (second.output.drop (before ++ Line.kept lines).length).map Line.spoken ++ back)) first second := by
  obtain ⟨texts, hears⟩ := between
  cases hears with
  | intro host =>
    have printed : before ++ Line.kept (lines ++ front ++ texts.map Line.spoken ++ back) =
        (before ++ Line.kept lines) ++ texts := by
      simp [silent, alsoSilent]
    rw [MemoryHost.output_withOutput, printed, List.drop_left, ← printed]
    have whole : lines ++ (front ++ texts.map Line.spoken ++ back) =
        lines ++ front ++ texts.map Line.spoken ++ back := by simp
    rw [whole]
    exact .intro host

/-- **One happening**, of which a quiet bridge and one that is not return the same and leave the same,
and what they print of it differs in what the bridge shows of it. -/
theorem alike_step (alike : Alike false true (MemoryHost.Hears before lines) loud quiet)
    (coherent : loud.bridge.Coherent) {seen : List Parting} (account : loud.bridge.Account seen)
    (happening : Happening MemoryHost) :
    loud.returned happening.unheard = quiet.returned happening.unheard ∧
      Alike false true (MemoryHost.Hears before (lines ++ quiet.lines [happening.unheard]))
        (loud.after happening.unheard) (quiet.after happening.unheard) := by
  obtain ⟨returned, next⟩ := alike_after alike happening
  obtain ⟨front, back⟩ := tidings_after coherent account happening.unheard
  refine ⟨returned, ?_⟩
  rw [front, back] at next
  simp only [Run.lines, List.append_nil]
  generalize loud.after happening.unheard = loudNext at next
  generalize quiet.after happening.unheard = quietNext at next
  cases alike with
  | intro bridge hears =>
    cases hears with
    | intro host =>
      cases next with
      | intro next between =>
        have told := hears_of_between (Bridge.kept_arrival _ _) (Bridge.kept_departure _ _) between
        exact .intro next told

/-- **Two runs side by side**, of which one is quiet: all that is returned and all that is left is the
same but for what was printed, and that is as it should be. -/
theorem alike_follow (alike : Alike false true (MemoryHost.Hears before lines) loud quiet)
    (coherent : loud.bridge.Coherent) {seen : List Parting} (account : loud.bridge.Account seen)
    (happenings : List (Happening MemoryHost)) :
    let row := happenings.map Happening.unheard
    loud.returns row = quiet.returns row ∧
      Alike false true (MemoryHost.Hears before (lines ++ quiet.lines row)) (loud.follow row)
        (quiet.follow row) := by
  induction happenings generalizing loud quiet lines seen with
  | nil => exact ⟨rfl, (List.append_nil lines).symm ▸ alike⟩
  | cons happening happenings ih =>
    obtain ⟨returned, next⟩ := alike_step alike coherent account happening
    obtain ⟨others, last⟩ := ih next (coherent_after coherent happening.unheard)
      (account.after coherent happening.unheard)
    refine ⟨?_, ?_⟩
    · rw [List.map_cons, returns, returns, returned, others]
    · simp only [Run.lines, List.append_nil, List.append_assoc] at last
      simp only [Run.lines, List.map_cons, List.append_assoc]
      exact last

/-- **Being quiet changes nothing but what is printed.**  Two bridges that differ only in being quiet
are loaded into the same host, and the same happens to both of them.  Whatever that is, the calls
return the same; the bridges, their sessions and connections with all that was read and written, and
the hosts with their signals, their clock, their registrations and their end are the same.  Of the
lines there are to print, the one bridge has printed all, and the quiet one has left out those that
tell that it has connected, that it could not, or why a session was closed in good order. -/
theorem quiet_changes_console_only (configuration : Configuration) (invocation : Invocation)
    (host : MemoryHost) (happenings : List (Happening MemoryHost)) :
    let loud := Run.mk (.load { configuration with quiet := false } invocation) host
    let quiet := Run.mk (.load { configuration with quiet := true } invocation) host
    let row := happenings.map Happening.unheard
    let lines := quiet.lines row
    quiet.returns row = loud.returns row ∧
    (quiet.follow row).bridge = (loud.follow row).bridge.hush true ∧
    (quiet.follow row).host = (loud.follow row).host.withOutput (host.output ++ Line.kept lines) ∧
    (loud.follow row).host.output = host.output ++ lines.map Line.text := by
  intro loud quiet row lines
  have alike : Alike false true (MemoryHost.Hears host.output []) loud quiet := by
    have hears : MemoryHost.Hears host.output [] _ _ := .intro host
    simp only [Line.kept, List.filter_nil, List.map_nil, List.append_nil] at hears
    exact .intro (.load configuration invocation) hears
  obtain ⟨returned, last⟩ := alike_follow alike (.of_idle rfl) (.of_load _ _) happenings
  refine ⟨returned.symm, ?_⟩
  rw [List.nil_append] at last
  generalize loud.follow row = loudLast at last ⊢
  change Alike _ _ (MemoryHost.Hears _ lines) _ _ at last
  generalize quiet.follow row = quietLast at last ⊢
  cases last with
  | intro bridge hears =>
    cases hears with
    | intro host => exact ⟨rfl, rfl, rfl⟩

end Run

end Cosimulation
