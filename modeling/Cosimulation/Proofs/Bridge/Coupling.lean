import Cosimulation.Proofs.Bridge.Run
import Cosimulation.Proofs.Session.Coupling
/-!
# Two bridges side by side

Two bridges that differ at most in whether they are quiet, in hosts that cannot be told apart by
their calls, go the same way: every entry point returns the same and leaves bridges that again differ
in nothing else (`coupled_invoke`, `coupled_bootstrap`, `coupled_registerCallbacks`).

What the two print may differ, for a quiet bridge keeps its informational lines back.  Therefore the
relation between the two hosts keeps account of the lines that were printed, of each whether it is
informational (`Host.Couples`).  A call prints informational lines at its beginning and at its end
(`opening`, `closing`), and what it prints between them it prints in either bridge.
-/

namespace Cosimulation

set_option autoImplicit false

/-- A line that a bridge has to print, and whether it is one that a quiet bridge keeps back. -/
structure Line where
  text : String
  informational : Bool
  deriving DecidableEq, Repr

namespace Line

/-- A line that is printed in any case. -/
def spoken (text : String) : Line := ⟨text, false⟩

/-- A line that a quiet bridge keeps back. -/
def aside (text : String) : Line := ⟨text, true⟩

end Line

variable {σ : Type}

/-- Two states that are related when, between two rows of lines, some lines more were printed in any
case. -/
def Between (related : List Line → σ → σ → Prop) (front back : List Line) (first second : σ) : Prop :=
  ∃ texts : List String, related (front ++ texts.map .spoken ++ back) first second

/-- Every call of the host respects a relation that keeps account of the lines printed.  Of two hosts
in which a bridge informs of something, each is told only if its bridge is not quiet. -/
structure Host.Couples [Host σ] (quiet also : Bool) (related : List Line → σ → σ → Prop) : Prop where
  answers : ∀ lines, Simulator.Answers (related lines)
  print : ∀ {lines first second} text, related lines first second →
    related (lines ++ [.spoken text]) (Simulator.print first text) (Simulator.print second text)
  inform : ∀ {lines first second} text, related lines first second →
    related (lines ++ [.aside text]) (if quiet then first else Simulator.print first text)
      (if also then second else Simulator.print second text)
  finish : ∀ {lines first second}, related lines first second →
    related lines (Simulator.finish first) (Simulator.finish second)
  alert : ∀ {lines first second} message, related lines first second →
    related lines (Host.alert first message) (Host.alert second message)
  register : ∀ {lines first second} registration, related lines first second →
    Coupled (related lines) (Scheduler.register first registration)
      (Scheduler.register second registration)
  dial : ∀ {lines first second} path, related lines first second →
    Coupled (related lines) (Network.dial first path) (Network.dial second path)

namespace Between

variable {related : List Line → σ → σ → Prop} {lines : List Line} {first second : σ}

theorem of_related (alike : related lines first second) : Between related lines [] first second :=
  ⟨[], by simpa using alike⟩

end Between

section Host

variable [Host σ] {quiet also : Bool} {related : List Line → σ → σ → Prop}
  (couples : Host.Couples quiet also related)
include couples

/-- The turns of a session respect the relation, whatever they print. -/
theorem Host.Couples.serves (lines : List Line) : Simulator.Couples (Between related lines []) where
  toAnswers := .exists fun texts => couples.answers (lines ++ List.map Line.spoken texts ++ [])
  print text := fun ⟨texts, alike⟩ => ⟨texts ++ [text], by simpa using couples.print text alike⟩
  finish := fun ⟨texts, alike⟩ => ⟨texts, couples.finish alike⟩

end Host

namespace Bridge

/-- The bridge that is the same but for being quiet or not. -/
def hush (quiet : Bool) (bridge : Bridge) : Bridge :=
  { bridge with configuration.quiet := quiet }

/-- A line as the bridge prints it. -/
def line (bridge : Bridge) (text : String) : String :=
  s!"{bridge.configuration.logPrefix} {text}"

/-- What a bridge tells when its turns have come to an end. -/
def farewell (bridge : Bridge) : Outcome → List Line
  | .closed reason =>
    if reason.isError then [] else [.aside (bridge.line s!"session ended: {reason.display}")]
  | _ => []

end Bridge

namespace Run

/-- Two runs of bridges that differ at most in being quiet, in related hosts. -/
inductive Alike (quiet also : Bool) (related : σ → σ → Prop) : Run σ → Run σ → Prop where
  | intro (bridge : Bridge) {first second : σ} : related first second →
      Alike quiet also related ⟨bridge.hush quiet, first⟩ ⟨bridge.hush also, second⟩

variable [Host σ] {quiet also : Bool} {related : List Line → σ → σ → Prop} {lines : List Line}
  {first second : Run σ}

omit [Host σ] in
theorem Alike.imp {related weaker : σ → σ → Prop} (alike : Alike quiet also related first second)
    (weakens : ∀ {first second}, related first second → weaker first second) :
    Alike quiet also weaker first second := by
  cases alike with
  | intro bridge alike => exact .intro bridge (weakens alike)

omit [Host σ] in
/-- Bridges may be changed alike, if the change does not look at whether they are quiet. -/
theorem Alike.alter {related : σ → σ → Prop} (alike : Alike quiet also related first second)
    (change : Bridge → Bridge)
    (heedless : ∀ quiet bridge, change (bridge.hush quiet) = (change bridge).hush quiet) :
    Alike quiet also related { first with bridge := change first.bridge }
      { second with bridge := change second.bridge } := by
  cases alike with
  | intro bridge alike =>
    simp only [heedless]
    exact .intro _ alike

/-- Whether a bridge is quiet decides whether it informs. -/
theorem inform_hush (bridge : Bridge) (host : σ) (text : String) (quiet : Bool) :
    (Run.mk (bridge.hush quiet) host).inform text =
      ⟨bridge.hush quiet, if quiet then host else Simulator.print host (bridge.line text)⟩ := by
  cases quiet <;> rfl

section Coupled

variable (couples : Host.Couples quiet also related)
include couples

theorem alike_report (alike : Alike quiet also (Between related lines []) first second)
    (message : String) :
    Alike quiet also (Between related lines []) (first.report message) (second.report message) := by
  cases alike with
  | intro bridge between =>
    obtain ⟨texts, alike⟩ := between
    exact .intro bridge ((couples.serves lines).print (bridge.line s!"ERROR: {message}")
      ⟨texts, couples.alert message alike⟩)

theorem alike_inform (alike : Alike quiet also (related lines) first second) (text : String) :
    Alike quiet also (related (lines ++ [.aside (first.bridge.line text)])) (first.inform text)
      (second.inform text) := by
  cases alike with
  | intro bridge alike =>
    rw [inform_hush, inform_hush]
    exact .intro bridge (couples.inform (bridge.line text) alike)

theorem alike_inform_behind (alike : Alike quiet also (Between related lines []) first second)
    (text : String) :
    Alike quiet also (Between related lines [.aside (first.bridge.line text)]) (first.inform text)
      (second.inform text) := by
  cases alike with
  | intro bridge between =>
    obtain ⟨texts, alike⟩ := between
    rw [List.append_nil] at alike
    exact (alike_inform couples (.intro bridge alike) text).imp fun alike => ⟨texts, alike⟩

theorem coupled_register (alike : Alike quiet also (related lines) first second)
    (trigger : Trigger) (entry : EntryPoint) :
    Coupled (Alike quiet also (related lines)) (first.register trigger entry)
      (second.register trigger entry) := by
  cases alike with
  | @intro bridge host other alike =>
    have registered := couples.register ⟨trigger, entry⟩ alike
    simp only [register, Ledger.register]
    generalize Scheduler.register host ⟨trigger, entry⟩ = result at registered
    generalize Scheduler.register other ⟨trigger, entry⟩ = also at registered
    cases registered with
    | intro result alike =>
      cases result with
      | error error => exact .intro _ (.intro bridge alike)
      | ok => exact .intro _ (.intro { bridge with ledger := bridge.ledger.enter _ } alike)

theorem coupled_register_between (alike : Alike quiet also (Between related lines []) first second)
    (trigger : Trigger) (entry : EntryPoint) :
    Coupled (Alike quiet also (Between related lines [])) (first.register trigger entry)
      (second.register trigger entry) := by
  cases alike with
  | intro bridge between =>
    obtain ⟨texts, alike⟩ := between
    exact (coupled_register couples (.intro bridge alike) trigger entry).imp
      fun alike => alike.imp fun alike => ⟨texts, alike⟩

theorem coupled_registerAll (alike : Alike quiet also (related lines) first second)
    (bindings : List (Trigger × EntryPoint)) :
    Coupled (Alike quiet also (related lines)) (first.registerAll bindings)
      (second.registerAll bindings) := by
  induction bindings generalizing first second with
  | nil => exact .intro _ alike
  | cons binding bindings ih =>
    obtain ⟨trigger, entry⟩ := binding
    have registered := coupled_register couples alike trigger entry
    simp only [registerAll]
    generalize first.register trigger entry = result at registered
    generalize second.register trigger entry = also at registered
    cases registered with
    | intro result alike =>
      cases result with
      | error error => exact .intro _ alike
      | ok => exact ih alike

/-- **Registering** when the bridge is loaded. -/
theorem coupled_registerCallbacks (alike : Alike quiet also (related lines) first second) :
    Coupled (Alike quiet also (related lines)) first.registerCallbacks second.registerCallbacks := by
  cases alike with
  | intro bridge alike => exact coupled_registerAll couples (.intro bridge alike) _

/-! ## Settling -/

theorem alike_shutdownSession (alike : Alike quiet also (Between related lines []) first second) :
    Alike quiet also (Between related lines []) first.shutdownSession second.shutdownSession := by
  cases alike with
  | @intro bridge host other between =>
    obtain ⟨configuration, invocation, ledger, link, lastClose, phase⟩ := bridge
    cases link with
    | unconnected => exact .intro _ between
    | released connection => exact .intro _ between
    | live dispatcher connection =>
      have shut := Exchange.alike_shutdown (couples.serves lines) (.intro dispatcher connection between)
      simp only [shutdownSession, Bridge.hush]
      generalize (Exchange.mk dispatcher connection host).shutdown = last at shut
      generalize (Exchange.mk dispatcher connection other).shutdown = also at shut
      cases shut with
      | intro dispatcher connection between =>
        exact .intro ⟨configuration, invocation, ledger, .released connection.close, lastClose, phase⟩
          between

theorem coupled_scheduleResume (alike : Alike quiet also (Between related lines []) first second)
    (ticks : UInt64) :
    Coupled (Alike quiet also (Between related lines [])) (first.scheduleResume ticks)
      (second.scheduleResume ticks) := by
  have registered := coupled_register_between couples alike (.afterDelay ticks) .resume
  simp only [scheduleResume]
  generalize first.register (.afterDelay ticks) .resume = result at registered
  generalize second.register (.afterDelay ticks) .resume = also at registered
  cases registered with
  | @intro result first second alike =>
    cases result with
    | ok => exact .intro _ alike
    | error error =>
      have shut := alike_shutdownSession couples
        (alike_report couples alike (Error.configuration error).message)
      dsimp only
      generalize (first.report (Error.configuration error).message).shutdownSession = last at shut ⊢
      generalize (second.report (Error.configuration error).message).shutdownSession = also at shut ⊢
      cases shut with
      | intro bridge between =>
        exact .intro _ (.intro bridge ((couples.serves lines).finish between))

omit couples [Host σ] in
theorem alike_dropSession {related : σ → σ → Prop} (alike : Alike quiet also related first second) :
    Alike quiet also related first.dropSession second.dropSession := by
  cases alike with
  | intro bridge alike =>
    obtain ⟨configuration, invocation, ledger, link, lastClose, phase⟩ := bridge
    cases link with
    | unconnected => exact .intro _ alike
    | released connection => exact .intro _ alike
    | live dispatcher connection =>
      exact .intro
        ⟨configuration, invocation, ledger, .released connection.close, lastClose, phase⟩ alike

omit couples [Host σ] in
/-- Dropping a session leaves the wording of lines alone. -/
theorem farewell_dropSession (run : Run σ) (outcome : Outcome) :
    run.dropSession.bridge.farewell outcome = run.bridge.farewell outcome := by
  obtain ⟨⟨_, _, _, link, _, _⟩, _⟩ := run
  cases link <;> rfl

theorem coupled_announce (alike : Alike quiet also (Between related lines []) first second)
    (reason : CloseReason) :
    Coupled (Alike quiet also (Between related lines (first.bridge.farewell (.closed reason))))
      (first.announce reason) (second.announce reason) := by
  unfold announce Bridge.farewell
  by_cases error : reason.isError
  · simp only [error, if_true]
    exact .intro _ (alike_report couples alike reason.display)
  · simp only [error, Bool.false_eq_true, if_false]
    exact .intro _ (alike_inform_behind couples alike _)

theorem alike_endUnlessFinished {back : List Line}
    (alike : Alike quiet also (Between related lines back) first second) (reason : CloseReason) :
    Alike quiet also (Between related lines back) (first.endUnlessFinished reason)
      (second.endUnlessFinished reason) := by
  unfold endUnlessFinished
  split
  · exact alike
  · cases alike with
    | intro bridge between =>
      obtain ⟨texts, alike⟩ := between
      exact .intro bridge ⟨texts, couples.finish alike⟩

theorem coupled_endSession (alike : Alike quiet also (Between related lines []) first second)
    (reason : CloseReason) :
    Coupled (Alike quiet also (Between related lines (first.bridge.farewell (.closed reason))))
      (first.endSession reason) (second.endSession reason) := by
  have announced := coupled_announce couples (alike_dropSession alike) reason
  rw [farewell_dropSession] at announced
  let release (bridge : Bridge) : Bridge := { bridge with lastClose := some reason }
  have released : ∀ {left right : Run σ} {back : List Line},
      Alike quiet also (Between related lines back) left right →
        Alike quiet also (Between related lines back)
          { left.endUnlessFinished reason with bridge.lastClose := some reason }
          { right.endUnlessFinished reason with bridge.lastClose := some reason } :=
    fun alike => (alike_endUnlessFinished couples alike reason).alter release fun _ _ => rfl
  exact announced.map released

/-- **Settling** goes the same way, and tells what there is to tell at the end. -/
theorem coupled_settle (alike : Alike quiet also (Between related lines []) first second)
    (outcome : Outcome) :
    Coupled (Alike quiet also (Between related lines (first.bridge.farewell outcome)))
      (first.settle outcome) (second.settle outcome) := by
  cases outcome with
  | served => exact .intro _ alike
  | suspended => exact .intro _ alike
  | yielded ticks => exact coupled_scheduleResume couples alike ticks
  | closed reason => exact coupled_endSession couples alike reason

/-! ## Taking turns -/

omit couples in
/-- The turns of a callback go the same way on both sessions. -/
theorem coupled_turns {related : σ → σ → Prop} (couples : Simulator.Couples related)
    (mode : DispatchMode) (resuming : Bool) {first second : Exchange σ}
    (alike : Exchange.Alike related first second) :
    Coupled (Exchange.Alike related) (turns mode resuming first) (turns mode resuming second) := by
  have turn : Coupled (Exchange.Alike related) (firstTurn resuming first)
      (firstTurn resuming second) := by
    cases resuming with
    | false => exact Exchange.coupled_cycle couples alike
    | true => exact Exchange.coupled_resume couples alike
  by_cases stopped : (firstTurn resuming first).1 = .served
  · cases mode with
    | single => exact turn
    | drain =>
      rw [turns_drain_of_served (Prod.ext stopped rfl),
        turns_drain_of_served (Prod.ext (turn.value ▸ stopped) rfl)]
      exact Exchange.coupled_drain couples _ _ turn.state
  · rw [turns_of_stopped mode stopped, turns_of_stopped mode (turn.value ▸ stopped)]
    exact turn

omit couples in
/-- What a bridge tells at the end of the turns of a callback. -/
def parting (run : Run σ) (resuming : Bool) : List Line :=
  match run.bridge.link with
  | .live dispatcher connection =>
    run.bridge.farewell
      (turns run.bridge.configuration.mode resuming ⟨dispatcher, connection, run.host⟩).1
  | _ => []

/-- **Taking turns** goes the same way. -/
theorem coupled_pump (alike : Alike quiet also (Between related lines []) first second)
    (resuming : Bool) :
    Coupled (Alike quiet also (Between related lines (first.parting resuming)))
      (first.pump resuming) (second.pump resuming) := by
  cases alike with
  | @intro bridge host other between =>
    obtain ⟨configuration, invocation, ledger, link, lastClose, phase⟩ := bridge
    cases link with
    | unconnected => exact .intro _ (.intro _ between)
    | released connection => exact .intro _ (.intro _ between)
    | live dispatcher connection =>
      have turned : Coupled (Exchange.Alike (Between related lines []))
          (turns configuration.mode resuming ⟨dispatcher, connection, host⟩)
          (turns configuration.mode resuming ⟨dispatcher, connection, other⟩) :=
        coupled_turns (couples.serves lines) _ _ (.intro dispatcher connection between)
      simp only [pump, parting, Bridge.hush]
      generalize turns configuration.mode resuming ⟨dispatcher, connection, host⟩ = turn at turned ⊢
      generalize turns configuration.mode resuming ⟨dispatcher, connection, other⟩ = also at turned ⊢
      cases turned with
      | intro outcome alike =>
        cases alike with
        | intro dispatcher connection between =>
          exact coupled_settle couples (.intro ⟨configuration, invocation, ledger,
            .live dispatcher connection, lastClose, phase⟩ between) outcome

/-! ## Entry points -/

theorem coupled_establish {host other : σ} (alike : related lines host other) (path : Option String)
    (option : String) (limit : Nat) :
    Coupled (related lines) (Connection.establish host path option limit)
      (Connection.establish other path option limit) := by
  unfold Connection.establish
  split
  · exact .intro _ alike
  · rename_i path
    split
    · exact .intro _ alike
    · have dials := couples.dial path alike
      generalize Network.dial host path = result at dials
      generalize Network.dial other path = also at dials
      cases dials with
      | intro result alike => cases result <;> exact .intro _ alike

theorem coupled_dialled (alike : Alike quiet also (related lines) first second) :
    Coupled (related lines) first.dialled second.dialled := by
  cases alike with
  | intro bridge alike => exact coupled_establish couples alike _ _ _

end Coupled

omit [Host σ] in
theorem Alike.phase {related : σ → σ → Prop} (alike : Alike quiet also related first second) :
    first.bridge.phase = second.bridge.phase := by
  cases alike
  rfl

/-- What a call tells before it takes turns: that it has connected. -/
def opening (run : Run σ) : EntryPoint → List Line
  | .startup =>
    if run.bridge.phase = .loaded then
      match run.dialled.1 with
      | .ok connection =>
        [.aside (run.bridge.line s!"connected to controller at {connection.peer}")]
      | .error _ => []
    else []
  | .shutdown | .service | .resume => []

/-- What a call tells at its end: that it could not connect, or why the session was closed. -/
def closing (run : Run σ) (entry : EntryPoint) : List Line :=
  match run.engaged entry with
  | some (resuming, serving) => serving.parting resuming
  | none =>
    if entry = .startup ∧ run.bridge.phase = .loaded then
      [.aside (run.bridge.line "couldn't connect to the controller")]
    else []

section Coupled

variable (couples : Host.Couples quiet also related)
include couples

theorem coupled_start (alike : Alike quiet also (related lines) first second) :
    Coupled (Alike quiet also
        (Between related (lines ++ first.opening .startup) (first.closing .startup)))
      first.start second.start := by
  have dials := coupled_dialled couples alike
  rcases first.start_cases with ⟨started, unengaged, same⟩ |
    ⟨loaded, error, host, dialled, unengaged, same⟩ | ⟨loaded, connection, host, dialled, engaged, same⟩
  · simp only [same, start_of_started (alike.phase ▸ started), opening, closing, unengaged, started,
      and_false, if_false, List.append_nil]
    exact .intro _ (alike.imp .of_related)
  · rw [dialled] at dials
    generalize dialling : second.dialled = result at dials
    cases dials with
    | @intro _ _ other alongside =>
      rw [same, start_of_refused (alike.phase ▸ loaded) dialling]
      simp only [opening, closing, unengaged, loaded, dialled, and_self, if_true, List.append_nil]
      cases alike with
      | intro bridge _ =>
        have going : Alike quiet also (Between related lines [])
            ⟨Bridge.hush quiet { bridge with phase := .running }, host⟩
            ⟨Bridge.hush also { bridge with phase := .running }, other⟩ :=
          .intro _ (.of_related alongside)
        exact .intro _ (alike_inform_behind couples (alike_report couples going _) _)
  · rw [dialled] at dials
    generalize dialling : second.dialled = result at dials
    cases dials with
    | @intro _ _ other alongside =>
      rw [same, start_of_dialled (alike.phase ▸ loaded) dialling]
      simp only [opening, closing, engaged, loaded, dialled, if_true]
      cases alike with
      | intro bridge _ =>
        have going : Alike quiet also (related lines)
            ⟨Bridge.hush quiet { bridge with phase := .running }, host⟩
            ⟨Bridge.hush also { bridge with phase := .running }, other⟩ := .intro _ alongside
        have told := alike_inform couples going s!"connected to controller at {connection.peer}"
        have live := told.alter (fun told =>
          { told with link := .live (.start bridge.configuration.frameLimit) connection })
          fun _ _ => rfl
        exact coupled_pump couples (live.imp .of_related) false

theorem coupled_conclude (alike : Alike quiet also (related lines) first second) :
    Coupled (Alike quiet also (Between related lines [])) first.conclude second.conclude := by
  cases alike with
  | @intro bridge host other alike =>
    obtain ⟨configuration, invocation, ledger, link, lastClose, phase⟩ := bridge
    have between : Between related lines [] host other := .of_related alike
    by_cases ended : phase = .ended
    · subst ended
      exact .intro _ (.intro ⟨configuration, invocation, ledger, link, lastClose, .ended⟩ between)
    · simp only [conclude, Bridge.hush, ended, if_false]
      cases link with
      | unconnected => exact .intro _ (.intro ⟨_, _, _, .unconnected, _, .ended⟩ between)
      | released connection =>
        exact .intro _ (.intro ⟨_, _, _, .released connection, _, .ended⟩ between)
      | live dispatcher connection =>
        have shut : Exchange.Alike (Between related lines [])
            (Exchange.mk dispatcher connection host).shutdown
            (Exchange.mk dispatcher connection other).shutdown :=
          Exchange.alike_shutdown (couples.serves lines) (.intro dispatcher connection between)
        dsimp only
        generalize (Exchange.mk dispatcher connection host).shutdown = last at shut ⊢
        generalize (Exchange.mk dispatcher connection other).shutdown = also at shut ⊢
        cases shut with
        | intro dispatcher connection between =>
          exact .intro _ (.intro ⟨configuration, invocation, ledger, .released connection.close,
            dispatcher.closeReason, .ended⟩ between)

omit couples in
/-- What a call for service tells at its end. -/
theorem closing_of_calling (run : Run σ) (entry : EntryPoint) (starts : entry ≠ .startup)
    {resuming : Bool}
    (engaged : run.engaged entry = if run.bridge.session? = none then none else some (resuming, run)) :
    run.closing entry = run.parting resuming := by
  unfold closing
  rw [engaged]
  rcases run.live_or_idle with ⟨dispatcher, connection, live⟩ | idle
  · rw [if_neg (by simp [session?_of_live live])]
  · simp only [idle, if_true, starts, false_and, if_false, parting]
    split
    · rename_i live
      cases (session?_of_live live).symm.trans idle
    · rfl

/-- **Every entry point goes the same way in both bridges**, and what only the one that is not quiet
prints stands at the beginning and at the end of what is printed. -/
theorem coupled_invoke (alike : Alike quiet also (related lines) first second) (entry : EntryPoint) :
    Coupled (Alike quiet also (Between related (lines ++ first.opening entry) (first.closing entry)))
      (first.invoke entry) (second.invoke entry) := by
  cases entry with
  | startup => exact coupled_start couples alike
  | shutdown =>
    have concluded := coupled_conclude couples alike
    rwa [← List.append_nil lines] at concluded
  | service =>
    have closes : first.closing .service = first.parting false :=
      first.closing_of_calling .service nofun rfl
    rw [closes, opening, List.append_nil]
    exact coupled_pump couples (alike.imp .of_related) false
  | resume =>
    have closes : first.closing .resume = first.parting true :=
      first.closing_of_calling .resume nofun rfl
    rw [closes, opening, List.append_nil]
    exact coupled_pump couples (alike.imp .of_related) true

omit couples in
/-- What starting at once tells at its beginning, if it comes to starting. -/
def bootOpening (run : Run σ) : List Line :=
  match run.register .endOfSimulation .shutdown with
  | (.ok (), run) => run.opening .startup
  | (.error _, _) => []

omit couples in
/-- What starting at once tells at its end, if it comes to starting. -/
def bootClosing (run : Run σ) : List Line :=
  match run.register .endOfSimulation .shutdown with
  | (.ok (), run) => run.closing .startup
  | (.error _, _) => []

/-- **Starting at once** goes the same way. -/
theorem coupled_bootstrap (alike : Alike quiet also (related lines) first second) :
    Coupled (Alike quiet also (Between related (lines ++ first.bootOpening) first.bootClosing))
      first.bootstrap second.bootstrap := by
  have registered := coupled_register couples alike .endOfSimulation .shutdown
  unfold bootstrap bootOpening bootClosing
  generalize first.register .endOfSimulation .shutdown = result at registered
  generalize second.register .endOfSimulation .shutdown = also at registered
  cases registered with
  | intro result alike =>
    cases result with
    | error error =>
      rw [List.append_nil]
      exact .intro _ (alike_report couples (alike.imp .of_related) _)
    | ok => exact coupled_start couples alike

end Coupled

/-! ## Two runs of the same bridge -/

/-- A relation that keeps no account of the lines printed. -/
def Regardless (related : σ → σ → Prop) (_ : List Line) : σ → σ → Prop := related

/-- Two runs of the same bridge, in related hosts. -/
inductive Same (related : σ → σ → Prop) : Run σ → Run σ → Prop where
  | intro (bridge : Bridge) {first second : σ} : related first second →
      Same related ⟨bridge, first⟩ ⟨bridge, second⟩

omit [Host σ] in
theorem Same.alike {related : σ → σ → Prop} (same : Same related first second) :
    Alike first.bridge.configuration.quiet first.bridge.configuration.quiet
      (Regardless related []) first second := by
  cases same with
  | intro bridge alike => exact .intro bridge alike

omit [Host σ] in
theorem Same.of_alike {related : σ → σ → Prop} (alike : Alike quiet quiet related first second) :
    Same related first second := by
  cases alike with
  | intro bridge alike => exact .intro _ alike

section Same

variable {related : σ → σ → Prop} (couples : ∀ quiet, Host.Couples quiet quiet (Regardless related))
  (same : Same related first second)
include couples same

theorem same_registerCallbacks :
    Coupled (Same related) first.registerCallbacks second.registerCallbacks :=
  (coupled_registerCallbacks (couples _) same.alike).imp .of_alike

/-- **Every entry point of the same bridge** goes the same way in related hosts. -/
theorem same_invoke (entry : EntryPoint) :
    Coupled (Same related) (first.invoke entry) (second.invoke entry) := by
  have called := coupled_invoke (couples _) same.alike entry
  exact called.imp fun alike => .of_alike (alike.imp fun ⟨_, alike⟩ => alike)

theorem same_bootstrap : Coupled (Same related) first.bootstrap second.bootstrap := by
  have called := coupled_bootstrap (couples _) same.alike
  exact called.imp fun alike => .of_alike (alike.imp fun ⟨_, alike⟩ => alike)

end Same

end Run

end Cosimulation
