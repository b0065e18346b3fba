import Cosimulation.Error
import Cosimulation.Frame.Basic
import Cosimulation.Invocation
import Cosimulation.Text.Blank
import Cosimulation.Text.Numeral
/-!
# Configuration

The bridge runs with defaults that three options on the simulator's command line override:
`bridge_mode` says how many commands one callback may serve, `bridge_max_frame` limits the payload
of a frame, and `bridge_quiet` silences the informational lines.  The mode is judged first, so of
two options at fault it is the mode that is reported.
-/

namespace Cosimulation

set_option autoImplicit false

/-- How many commands one callback may serve. -/
inductive DispatchMode where
  /-- At most one. -/
  | single
  /-- All of them, until the controller advances time, finishes or closes. -/
  | drain
  deriving DecidableEq, Repr

namespace DispatchMode

/-- The name of a mode. -/
def name : DispatchMode → String
  | .single => "single"
  | .drain => "drain"

/-- The mode that a text names, in either case and with blanks around it. -/
def parse (text : String) : Except String DispatchMode :=
  match Text.lowercase (Text.trim text) with
  | "single" => .ok .single
  | "drain" => .ok .drain
  | other => .error s!"expected 'single' or 'drain', got '{other}'"

end DispatchMode

/-- What a run of the bridge depends on. -/
structure Configuration where
  /-- The option that gives the path of the controller's socket. -/
  socketOption : String
  /-- The system task that asks for service. -/
  serviceTask : String
  mode : DispatchMode
  /-- The largest payload of a frame in either direction. -/
  frameLimit : Nat
  /-- What every printed line begins with. -/
  logPrefix : String
  /-- Whether informational lines are kept back. -/
  quiet : Bool
  deriving DecidableEq, Repr

namespace Configuration

/-- The configuration without any override. -/
def standard : Configuration where
  socketOption := "socket"
  serviceTask := "$hdl_bridge_service"
  mode := .single
  frameLimit := Frame.defaultLimit
  logPrefix := "[hdl-bridge]"
  quiet := false

/-- The smallest frame limit that may be configured. -/
def minimalLimit : Nat := 256

/-- The frame limit that a text gives, with blanks around it. -/
def parseLimit (text : String) : Except String Nat :=
  match Numeral.read 10 UInt64.size (Text.trim text).toList with
  | .error malformation => .error malformation.message
  | .ok value =>
    if value < minimalLimit ∨ Frame.maximalLength < value then
      .error s!"must be between {minimalLimit} and {Frame.maximalLength}"
    else .ok value

/-- The standard limit is one that may be configured. -/
theorem standard_bounds :
    minimalLimit ≤ standard.frameLimit ∧ standard.frameLimit ≤ Frame.maximalLength := by
  decide

theorem parseLimit_bounds {text : String} {limit : Nat} (h : parseLimit text = .ok limit) :
    minimalLimit ≤ limit ∧ limit ≤ Frame.maximalLength := by
  unfold parseLimit at h
  split at h
  · cases h
  · split at h
    · cases h
    · cases h
      omega

/-- The value of an option that may be left out; a value that cannot be read is reported as it was
given. -/
def override {α : Type} (invocation : Invocation) (option : String) (standard : α)
    (parse : String → Except String α) : Except ConfigurationError α :=
  match invocation.resolve option with
  | none => .ok standard
  | some text =>
    match parse text with
    | .ok value => .ok value
    | .error reason => .error (.invalidOption option text reason)

/-- The configuration that an invocation asks for. -/
def ofInvocation (invocation : Invocation) : Except ConfigurationError Configuration :=
  match override invocation "bridge_mode" standard.mode DispatchMode.parse with
  | .error error => .error error
  | .ok mode =>
    match override invocation "bridge_max_frame" standard.frameLimit parseLimit with
    | .error error => .error error
    | .ok frameLimit =>
      .ok { standard with mode, frameLimit, quiet := invocation.flag "bridge_quiet" }

/-- A value that an option may override is the standard one or was read from a text. -/
theorem override_cases {α : Type} {invocation : Invocation} {option : String} {standard value : α}
    {parse : String → Except String α} (h : override invocation option standard parse = .ok value) :
    value = standard ∨ ∃ text, parse text = .ok value := by
  unfold override at h
  split at h
  · exact .inl (Except.ok.inj h).symm
  · rename_i text _
    split at h
    · rename_i parsed
      cases h
      exact .inr ⟨text, parsed⟩
    · cases h

/-- **A limit that was configured is one that may be configured.** -/
theorem frameLimit_bounds {invocation : Invocation} {configuration : Configuration}
    (configured : ofInvocation invocation = .ok configuration) :
    minimalLimit ≤ configuration.frameLimit ∧ configuration.frameLimit ≤ Frame.maximalLength := by
  unfold ofInvocation at configured
  split at configured
  · cases configured
  · split at configured
    · cases configured
    · rename_i limit found
      cases configured
      rcases override_cases found with rfl | ⟨text, parsed⟩
      · exact standard_bounds
      · exact parseLimit_bounds parsed

/-- The path of the controller's socket. -/
def socketPath (configuration : Configuration) (invocation : Invocation) : Option String :=
  invocation.resolve configuration.socketOption

end Configuration

end Cosimulation
