import Cosimulation.Proofs.Bridge.Coupling
import Cosimulation.Proofs.Vpi.Process
/-!
# Two processes side by side

Every entry point of the library is made of few things: the call of an installed bridge, what a bridge
does that was just installed, and what is asked of the simulator in between.  A relation between two
processes that respects these is respected by every entry point (`Plugin.Couples`, `coupled_call`).

The calls that arrive while a line is printed are part of that.  They are taken one after the other,
so that printing respects the relation by induction on them (`related_print`), and attempts to install
a bridge, which may print, after that (`install_cases`).
-/

namespace Cosimulation

set_option autoImplicit false

namespace Plugin

/-- What a call into the library answers. -/
def answer (plugin : Plugin) : Reentry → HostStatus × Plugin
  | .service => plugin.service
  | .callback code => plugin.callback code

theorem reenter_eq (plugin : Plugin) (reentry : Reentry) :
    plugin.reenter reentry =
      (plugin.answer reentry).2.onHost (·.note (.reentered (plugin.answer reentry).1.code)) := by
  cases reentry <;> rfl

/-- Every entry point of the library respects a relation between processes, for all that it is made
of does. -/
structure Couples (related : Plugin → Plugin → Prop) : Prop where
  /-- Whether a bridge is installed, what is called while a line is printed, and the command line are
  the same. -/
  vacant : ∀ {first second}, related first second →
    (first.installed = none ↔ second.installed = none)
  duringPrint : ∀ {first second}, related first second →
    first.host.duringPrint = second.host.duringPrint
  told : ∀ {first second}, related first second →
    first.host.vlogInfo.1 = second.host.vlogInfo.1
  note : ∀ {first second call}, call ≠ VpiCall.ending → related first second →
    related (first.onHost (·.note call)) (second.onHost (·.note call))
  unprint : ∀ {first second}, related first second →
    related (first.onHost fun host => { host with duringPrint := [] })
      (second.onHost fun host => { host with duringPrint := [] })
  invoke : ∀ {first second} entry, related first second →
    Coupled related (first.withBridge (·.invoke entry)) (second.withBridge (·.invoke entry))
  announce : ∀ {first second}, related first second → first.installed = none →
    ∀ configuration invocation, related
      (ofRun (Plugin.announce ⟨.load configuration invocation, ⟨[], first.host⟩⟩).2)
      (ofRun (Plugin.announce ⟨.load configuration invocation, ⟨[], second.host⟩⟩).2)
  bootstrap : ∀ {first second}, related first second → first.installed = none →
    ∀ configuration invocation, Coupled related
      ((ofRun ⟨.load configuration invocation, ⟨[], first.host⟩⟩).withBridge Run.bootstrap)
      ((ofRun ⟨.load configuration invocation, ⟨[], second.host⟩⟩).withBridge Run.bootstrap)

section Couples

variable {related : Plugin → Plugin → Prop} (couples : Couples related) {first second : Plugin}
include couples

theorem coupled_callback (alike : related first second) (code : Nat) :
    Coupled related (first.callback code) (second.callback code) := by
  unfold callback
  split
  · exact couples.invoke _ alike
  · exact .intro _ alike

theorem coupled_onCallback (alike : related first second) (data : Option Nat) :
    Coupled related (first.onCallback data) (second.onCallback data) := by
  cases data with
  | none => exact .intro _ alike
  | some code => exact coupled_callback couples alike code

theorem coupled_answer (alike : related first second) (reentry : Reentry) :
    Coupled related (first.answer reentry) (second.answer reentry) := by
  cases reentry with
  | service => exact couples.invoke .service alike
  | callback code => exact coupled_callback couples alike code

theorem related_reenter (alike : related first second) (reentry : Reentry) :
    related (first.reenter reentry) (second.reenter reentry) := by
  have answered := coupled_answer couples alike reentry
  rw [reenter_eq, reenter_eq, answered.value]
  exact couples.note nofun answered.state

/-- **Printing a line** goes the same way, with all the calls that arrive meanwhile. -/
theorem related_print (alike : related first second) (line : String) :
    related (first.print line) (second.print line) := by
  have goesOn (reentries : List Reentry) {first second : Plugin} (alike : related first second) :
      related (reentries.foldl reenter first) (reentries.foldl reenter second) := by
    induction reentries generalizing first second with
    | nil => exact alike
    | cons reentry reentries ih => exact ih (related_reenter couples alike reentry)
  have printing : VpiCall.printf "%s" (VpiHost.printed line) ≠ .ending := nofun
  have printed := couples.unprint (couples.note printing alike)
  have same : first.host.duringPrint = second.host.duringPrint := couples.duringPrint alike
  have through := goesOn first.host.duringPrint printed
  have also : second.print line = second.host.duringPrint.foldl reenter
    ((second.onHost (·.note (.printf "%s" (VpiHost.printed line)))).onHost
      fun host => { host with duringPrint := [] }) := rfl
  rw [also, ← same]
  exact through

/-- **An attempt to install a bridge** goes the same way: it fails, or it installs the same bridge. -/
theorem install_cases (alike : related first second) :
    (∃ next other, first.install = (false, next) ∧ second.install = (false, other) ∧
      related next other) ∨
    ∃ configuration invocation,
      let told := first.onHost (·.note .getVlogInfo)
      let other := second.onHost (·.note .getVlogInfo)
      told.installed = none ∧ related told other ∧
      first.install = (true, ofRun ⟨.load configuration invocation, ⟨[], told.host⟩⟩) ∧
      second.install = (true, ofRun ⟨.load configuration invocation, ⟨[], other.host⟩⟩) := by
  have asks (host : VpiHost) : Simulator.invocation (VpiSimulator.mk [] host) =
    (⟨((host.vlogInfo.1.getD []).filterMap id).map terminatedText⟩,
      ⟨[], host.note .getVlogInfo⟩) := rfl
  have listens : VpiCall.getVlogInfo ≠ .ending := nofun
  have noted := couples.note listens alike
  simp only [install, Run.load, asks, couples.told alike]
  generalize Invocation.mk _ = invocation
  cases Configuration.ofInvocation invocation with
  | error error => exact .inl ⟨_, _, rfl, rfl, related_print couples noted _⟩
  | ok configuration =>
    have both := couples.vacant alike
    cases occupied : first.installed with
    | none =>
      rw [both.1 occupied]
      exact .inr ⟨configuration, invocation, occupied, noted, rfl, rfl⟩
    | some installation =>
      obtain ⟨other, also⟩ := Option.ne_none_iff_exists'.1 fun vacant =>
        Option.some_ne_none installation (occupied.symm.trans (both.2 vacant))
      simp only [onHost, occupied, also] at noted
      rw [also]
      exact .inl ⟨_, _, rfl, rfl, noted⟩

theorem related_initialise (alike : related first second) :
    related first.initialise second.initialise := by
  unfold initialise
  rcases install_cases couples alike with
    ⟨next, other, installs, also, alike⟩ | ⟨configuration, invocation, vacant, told, installs, also⟩
  · rw [installs, also]
    exact alike
  · rw [installs, also]
    exact couples.announce told vacant configuration invocation

theorem coupled_installInline (alike : related first second) :
    Coupled related first.installInline second.installInline := by
  unfold installInline
  rcases install_cases couples alike with
    ⟨next, other, installs, also, alike⟩ | ⟨configuration, invocation, vacant, told, installs, also⟩
  · rw [installs, also]
    exact .intro _ alike
  · rw [installs, also]
    exact couples.bootstrap told vacant configuration invocation

/-- **Every call into the library** goes the same way. -/
theorem coupled_call (alike : related first second) (call : Call) :
    Coupled related (first.call call) (second.call call) := by
  have answers {first second : HostStatus × Plugin} (coupled : Coupled related first second) :
      Coupled related (some first.1, first.2) (some second.1, second.2) := by
    cases coupled with
    | intro status alike => exact .intro _ alike
  cases call with
  | load => exact .intro none (related_initialise couples alike)
  | bootstrap =>
    exact .intro _ (related_initialise couples (related_print couples alike (line "initialized")))
  | installInline => exact answers (coupled_installInline couples alike)
  | service => exact answers (couples.invoke .service alike)
  | callback data => exact answers (coupled_onCallback couples alike data)

end Couples

end Plugin

namespace Run

/-- Registering what a bridge registers when it is installed goes the same way in simulators that
cannot be told apart. -/
theorem same_announce {related : VpiSimulator → VpiSimulator → Prop}
    (couples : ∀ quiet, Host.Couples quiet quiet (Regardless related)) {first second : Run VpiSimulator}
    (same : Same related first second) :
    Coupled (Same related) (Plugin.announce first) (Plugin.announce second) := by
  have registered := same_registerCallbacks couples same
  unfold Plugin.announce
  generalize first.registerCallbacks = done at registered
  generalize second.registerCallbacks = also at registered
  cases registered with
  | intro result same =>
    cases result with
    | ok => exact .intro _ same
    | error error =>
      cases same with
      | @intro bridge host other alike =>
        have alike : Regardless related [] host other := alike
        exact .intro _ (.intro bridge ((couples false).print _ alike))

end Run

end Cosimulation
