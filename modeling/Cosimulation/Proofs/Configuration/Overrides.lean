import Cosimulation.Configuration
import Cosimulation.Proofs.Text.Blank
import Cosimulation.Proofs.Text.Numeral
import Cosimulation.Proofs.Wire.Stream
/-!
# Which overrides are accepted

What an option may be given as is said without reading it: the name of a mode in either case
(`DispatchMode.Denoted`), a decimal numeral of a number between two bounds
(`Configuration.LimitDenoted`), both with blanks around them.  Each reader accepts exactly these
texts (`DispatchMode.parse_eq_ok_iff`, `Configuration.parseLimit_eq_ok_iff`), so a numeral of any
length is taken for the number that it is written for or not at all.  A configuration is then the
standard one with what was given in place (`ofInvocation_accepts_legal`).  Since no limit exceeds what
four bytes express, the limit alone decides which payloads are framed, and their length is told as
it is.
-/

namespace Cosimulation

set_option autoImplicit false

/-! ## The texts of the two options -/

namespace DispatchMode

/-- A text that is the name of a mode, in either case and with blanks around it. -/
def Denoted (text : String) (mode : DispatchMode) : Prop :=
  ∃ core, Text.Padded core text ∧ core.map Char.toLower = mode.name.toList

theorem parse_eq_ok_iff_name {text : String} {mode : DispatchMode} :
    parse text = .ok mode ↔ Text.lowercase (Text.trim text) = mode.name := by
  unfold parse
  split
  · rename_i named
    rw [named]
    cases mode <;> simp [name]
  · rename_i named
    rw [named]
    cases mode <;> simp [name]
  · rename_i notSingle notDrain
    cases mode with
    | single => simpa [name] using notSingle
    | drain => simpa [name] using notDrain

/-- **A mode is read exactly from its name.** -/
theorem parse_eq_ok_iff (text : String) (mode : DispatchMode) :
    parse text = .ok mode ↔ Denoted text mode := by
  have solid : ∀ char ∈ mode.name.toList, Text.isBlank char = false := by
    have noBlank : mode.name.toList.any Text.isBlank = false := by
      cases mode <;> decide
    simpa using noBlank
  have nonempty : mode.name ≠ "" := by
    cases mode <;> decide
  rw [parse_eq_ok_iff_name, Text.lowercase_trim_eq_iff solid nonempty, Denoted]

end DispatchMode

namespace Configuration

/-- A text that is a decimal numeral, with a plus sign or without, of a number that four bytes
express and that is not too small, with blanks around it. -/
def LimitDenoted (text : String) (limit : Nat) : Prop :=
  ∃ digits, (Text.Padded digits text ∨ Text.Padded ('+' :: digits) text) ∧ digits ≠ [] ∧
    (∀ char ∈ digits, char.isDigit = true) ∧ Nat.ofDigitChars 10 digits 0 = limit ∧
    256 ≤ limit ∧ limit ≤ UInt32.size - 1

/-- A limit is read exactly if the trimmed text is a numeral of a number within the bounds. -/
theorem parseLimit_eq_ok_iff_read {text : String} {limit : Nat} :
    parseLimit text = .ok limit ↔
      Numeral.read 10 UInt64.size (Text.trim text).toList = .ok limit ∧
        256 ≤ limit ∧ limit ≤ UInt32.size - 1 := by
  have bounds : minimalLimit = 256 ∧ Frame.maximalLength = UInt32.size - 1 := ⟨rfl, rfl⟩
  unfold parseLimit
  split
  · rename_i refused
    simp [refused]
  · rename_i value read
    rw [read, bounds.1, bounds.2]
    split
    · rename_i outside
      simp only [reduceCtorEq, Except.ok.injEq, false_iff]
      rintro ⟨rfl, inside⟩
      omega
    · rename_i inside
      simp only [Except.ok.injEq]
      constructor
      · rintro rfl
        omega
      · exact fun h => h.1

/-- **A limit is read exactly from a numeral of a number within the bounds.** -/
theorem parseLimit_eq_ok_iff (text : String) (limit : Nat) :
    parseLimit text = .ok limit ↔ LimitDenoted text limit := by
  have decimal (digits : List Char) :
      (∀ char ∈ digits, (Numeral.digit? 10 char).isSome = true) ↔
        ∀ char ∈ digits, char.isDigit = true := by
    simp only [Numeral.isSome_digit?_ten]
  rw [parseLimit_eq_ok_iff_read, Numeral.read_eq_ok_iff (by decide) (by decide)]
  constructor
  · rintro ⟨⟨digits, written, nonempty, all, number, _⟩, least, most⟩
    refine ⟨digits, ?_, nonempty, (decimal digits).1 all, number, least, most⟩
    rcases written with same | same
    · exact .inl (same ▸ Text.padded_trim text)
    · exact .inr (same ▸ Text.padded_trim text)
  · rintro ⟨digits, padded, nonempty, all, number, least, most⟩
    have below : limit < UInt64.size := Nat.lt_of_le_of_lt most (by decide)
    have solid : ∀ char ∈ digits, Text.isBlank char = false :=
      fun char member => Text.isBlank_of_isDigit (all char member)
    refine ⟨⟨digits, ?_, nonempty, (decimal digits).2 all, number, below⟩, least, most⟩
    refine padded.imp (fun core => Text.toList_trim_of_padded core solid nonempty) fun core => ?_
    exact Text.toList_trim_of_padded core (List.forall_mem_cons.2 ⟨by decide, solid⟩) nofun

/-! ## Options that may be left out -/

section Overrides

variable {α : Type}

/-- The value that an option comes to: the standard one if it is left out, and what its text denotes
if it is given. -/
inductive Takes (Denotes : String → α → Prop) (standard : α) : Option String → α → Prop where
  | standard : Takes Denotes standard none standard
  | given {text : String} {value : α} (denotes : Denotes text value) :
      Takes Denotes standard (some text) value

/-- The text of an option that was given but denotes no value. -/
def Faulty (Denotes : String → α → Prop) (given : Option String) (text : String) : Prop :=
  given = some text ∧ ∀ value, ¬ Denotes text value

variable {Denotes : String → α → Prop} {parse : String → Except String α}
  (reads : ∀ text value, parse text = .ok value ↔ Denotes text value)
  {invocation : Invocation} {option : String} {standard : α}
include reads

/-- A text that is refused denotes nothing. -/
theorem not_denotes {text : String} (refused : (parse text).toOption = none) (value : α) :
    ¬ Denotes text value := by
  intro denotes
  rw [(reads text value).2 denotes] at refused
  cases refused

/-- An option is read exactly as what it comes to. -/
theorem override_eq_ok_iff {value : α} :
    override invocation option standard parse = .ok value ↔
      Takes Denotes standard (invocation.resolve option) value := by
  unfold override
  cases invocation.resolve option with
  | none =>
    simp only [Except.ok.injEq]
    constructor
    · rintro rfl
      exact .standard
    · rintro ⟨⟩
      rfl
  | some text =>
    have given : Takes Denotes standard (some text) value ↔ Denotes text value :=
      ⟨fun | .given denotes => denotes, .given⟩
    rw [given, ← reads text value]
    dsimp only
    split
    · rename_i parsed
      simp only [parsed, Except.ok.injEq]
    · rename_i refused
      simp only [refused, reduceCtorEq]

/-- What cannot be read is reported with its option, as it was given. -/
theorem override_of_faulty {text : String}
    (faulty : Faulty Denotes (invocation.resolve option) text) :
    ∃ reason, override invocation option standard parse =
      .error (.invalidOption option text reason) := by
  obtain ⟨given, nothing⟩ := faulty
  rw [override, given]
  dsimp only
  cases parsed : parse text with
  | ok value => exact absurd ((reads text value).1 parsed) (nothing value)
  | error reason => exact ⟨reason, rfl⟩

omit reads in
/-- An option comes to a value unless its text is at fault. -/
theorem exists_takes {given : Option String} (sound : ∀ text, ¬ Faulty Denotes given text) :
    ∃ value, Takes Denotes standard given value := by
  cases given with
  | none => exact ⟨standard, .standard⟩
  | some text =>
    have denotes : ∃ value, Denotes text value := by
      by_contra nothing
      exact sound text ⟨rfl, not_exists.1 nothing⟩
    obtain ⟨value, denotes⟩ := denotes
    exact ⟨value, .given denotes⟩

end Overrides

/-! ## The whole configuration -/

section Invocations

variable {invocation : Invocation}

theorem ofInvocation_eq_ok_iff {configuration : Configuration} :
    ofInvocation invocation = .ok configuration ↔
      ∃ mode limit,
        Takes DispatchMode.Denoted standard.mode (invocation.resolve "bridge_mode") mode ∧
        Takes LimitDenoted standard.frameLimit (invocation.resolve "bridge_max_frame") limit ∧
        configuration =
          { standard with mode, frameLimit := limit, quiet := invocation.flag "bridge_quiet" } := by
  constructor
  · intro configured
    unfold ofInvocation at configured
    split at configured
    · cases configured
    · rename_i mode moded
      split at configured
      · cases configured
      · rename_i limit limited
        cases configured
        exact ⟨mode, limit, (override_eq_ok_iff DispatchMode.parse_eq_ok_iff).1 moded,
          (override_eq_ok_iff parseLimit_eq_ok_iff).1 limited, rfl⟩
  · rintro ⟨mode, limit, moded, limited, rfl⟩
    rw [ofInvocation, (override_eq_ok_iff DispatchMode.parse_eq_ok_iff).2 moded]
    dsimp only
    rw [(override_eq_ok_iff parseLimit_eq_ok_iff).2 limited]

/-- A mode at fault is reported whatever the limit is. -/
theorem ofInvocation_of_faulty_mode {text : String}
    (faulty : Faulty DispatchMode.Denoted (invocation.resolve "bridge_mode") text) :
    ∃ reason, ofInvocation invocation = .error (.invalidOption "bridge_mode" text reason) := by
  obtain ⟨reason, refused⟩ := override_of_faulty DispatchMode.parse_eq_ok_iff faulty
  exact ⟨reason, by rw [ofInvocation, refused]⟩

/-- A limit at fault is reported if the mode is not at fault. -/
theorem ofInvocation_of_faulty_limit {text : String}
    (sound : ∀ other, ¬ Faulty DispatchMode.Denoted (invocation.resolve "bridge_mode") other)
    (faulty : Faulty LimitDenoted (invocation.resolve "bridge_max_frame") text) :
    ∃ reason, ofInvocation invocation = .error (.invalidOption "bridge_max_frame" text reason) := by
  obtain ⟨mode, takes⟩ := exists_takes sound
  obtain ⟨reason, refused⟩ := override_of_faulty parseLimit_eq_ok_iff faulty
  refine ⟨reason, ?_⟩
  rw [ofInvocation, (override_eq_ok_iff DispatchMode.parse_eq_ok_iff).2 takes]
  dsimp only
  rw [refused]

end Invocations

end Configuration

/-! ## Frames under a configured limit -/

namespace Frame

variable {limit : Nat} {serialized : Except String (List UInt8)}

/-- Under a limit that four bytes express, it is this limit that a long payload breaks. -/
theorem ofSerialized_eq_frameTooLarge_iff (expressible : limit ≤ maximalLength)
    {length maximum : Nat} :
    ofSerialized limit serialized = .error (.frameTooLarge length maximum) ↔
      ∃ payload, serialized = .ok payload ∧ limit < payload.length ∧
        length = payload.length ∧ maximum = limit := by
  cases serialized with
  | error message => simp [ofSerialized]
  | ok payload =>
    constructor
    · intro refused
      exact ⟨payload, rfl, eq_of_frameTooLarge expressible refused⟩
    · rintro ⟨_, ⟨⟩, long, rfl, rfl⟩
      exact if_pos long

/-- Under a limit that four bytes express, the length of a payload within the limit is announced as
it is. -/
theorem ofSerialized_eq_ok_iff (expressible : limit ≤ maximalLength) {frame : List UInt8} :
    ofSerialized limit serialized = .ok frame ↔
      ∃ payload, serialized = .ok payload ∧ payload.length ≤ limit ∧ frame = enclose payload ∧
        announced (frame.drop 1) = payload.length := by
  cases serialized with
  | error message => simp [ofSerialized]
  | ok payload =>
    rw [ofSerialized, encode_eq_ok_iff]
    constructor
    · rintro ⟨short, fits, rfl⟩
      refine ⟨payload, rfl, short, rfl, ?_⟩
      rw [enclose_eq]
      exact announced_body fits
    · rintro ⟨_, ⟨⟩, short, same, _⟩
      exact ⟨short, Nat.le_trans short expressible, same⟩

end Frame

namespace Configuration

/-- **Exactly the legal overrides are accepted.**  An invocation is accepted if the mode is left out
or named and the limit is left out or a numeral of a number within the bounds; the configuration then
has these values, or the standard ones, is quiet if this is asked for, and is the standard one in
everything else.  If the mode is at fault it is reported as it was given, and otherwise the limit if
it is at fault.  Under a limit that was accepted a payload is refused for its length exactly if it is
longer than the limit, and what is framed announces its length as it is. -/
theorem ofInvocation_accepts_legal (invocation : Invocation) :
    let givenMode := invocation.resolve "bridge_mode"
    let givenLimit := invocation.resolve "bridge_max_frame"
    (∀ configuration, ofInvocation invocation = .ok configuration ↔
      ∃ mode limit, Takes DispatchMode.Denoted standard.mode givenMode mode ∧
        Takes LimitDenoted standard.frameLimit givenLimit limit ∧
        configuration =
          { standard with mode, frameLimit := limit, quiet := invocation.flag "bridge_quiet" }) ∧
    (∀ text, Faulty DispatchMode.Denoted givenMode text →
      ∃ reason, ofInvocation invocation = .error (.invalidOption "bridge_mode" text reason)) ∧
    (∀ text, (∀ other, ¬ Faulty DispatchMode.Denoted givenMode other) →
      Faulty LimitDenoted givenLimit text →
      ∃ reason, ofInvocation invocation = .error (.invalidOption "bridge_max_frame" text reason)) ∧
    ∀ configuration, ofInvocation invocation = .ok configuration →
      ∀ serialized : Except String (List UInt8),
        let framed := Frame.ofSerialized configuration.frameLimit serialized
        (∀ length maximum, framed = .error (.frameTooLarge length maximum) ↔
          ∃ payload, serialized = .ok payload ∧ configuration.frameLimit < payload.length ∧
            length = payload.length ∧ maximum = configuration.frameLimit) ∧
        ∀ frame, framed = .ok frame ↔
          ∃ payload, serialized = .ok payload ∧ payload.length ≤ configuration.frameLimit ∧
            frame = Frame.enclose payload ∧ Frame.announced (frame.drop 1) = payload.length := by
  intro givenMode givenLimit
  refine ⟨fun _ => ofInvocation_eq_ok_iff, fun _ => ofInvocation_of_faulty_mode,
    fun _ => ofInvocation_of_faulty_limit, fun configuration configured serialized => ?_⟩
  have expressible : configuration.frameLimit ≤ Frame.maximalLength :=
    (frameLimit_bounds configured).2
  exact ⟨fun _ _ => Frame.ofSerialized_eq_frameTooLarge_iff expressible,
    fun _ => Frame.ofSerialized_eq_ok_iff expressible⟩

/-- Names in capitals and padded numerals are accepted, and one byte more than the limit is refused.
A limit of 256 more than four bytes count is not taken for 256, and a mode at fault comes first. -/
theorem ofInvocation_accepts_legal_padded :
    let accepted : Invocation :=
      ⟨["-bridge_mode", " DRAIN\t", "+bridge_max_frame= +00256", "+bridge_quiet"]⟩
    let exceeding : Invocation := ⟨["+bridge_max_frame+4294967552"]⟩
    let unnamed : Invocation := ⟨["+bridge_mode+turbo", "+bridge_max_frame+4294967552"]⟩
    ofInvocation accepted =
        .ok { standard with mode := .drain, frameLimit := 256, quiet := true } ∧
      Frame.ofSerialized 256 (.ok (List.replicate 257 0)) = .error (.frameTooLarge 257 256) ∧
      (∃ reason, ofInvocation exceeding =
        .error (.invalidOption "bridge_max_frame" "4294967552" reason)) ∧
      ∃ reason, ofInvocation unnamed = .error (.invalidOption "bridge_mode" "turbo" reason) := by
  intro accepted exceeding unnamed
  have moded : accepted.resolve "bridge_mode" = some " DRAIN\t" := by decide
  have limited : accepted.resolve "bridge_max_frame" = some " +00256" := by decide
  have mode : DispatchMode.Denoted " DRAIN\t" .drain :=
    ⟨"DRAIN".toList, ⟨[' '], ['\t'], by decide, List.all_eq_true.1 (by decide),
      List.all_eq_true.1 (by decide)⟩, by decide⟩
  have limit : LimitDenoted " +00256" 256 :=
    ⟨"00256".toList, .inr ⟨[' '], [], by decide, List.all_eq_true.1 (by decide), nofun⟩,
      by decide, List.all_eq_true.1 (by decide), by decide, by decide, by decide⟩
  have configured := ((ofInvocation_accepts_legal accepted).1 _).2
    ⟨.drain, 256, moded ▸ .given mode, limited ▸ .given limit, rfl⟩
  have refused : ∀ limit, ¬ LimitDenoted "4294967552" limit :=
    not_denotes parseLimit_eq_ok_iff (by decide +kernel)
  have misnamed : ∀ mode, ¬ DispatchMode.Denoted "turbo" mode :=
    not_denotes DispatchMode.parse_eq_ok_iff (by decide +kernel)
  refine ⟨configured, ?_, ?_, ?_⟩
  · have length : (List.replicate 257 (0 : UInt8)).length = 257 := List.length_replicate
    refine (((ofInvocation_accepts_legal accepted).2.2.2 _ configured _).1 _ _).2
      ⟨_, rfl, ?_, length.symm, rfl⟩
    rw [length]
    decide
  · refine (ofInvocation_accepts_legal exceeding).2.2.1 _ ?_ ⟨by decide, refused⟩
    rintro text ⟨given, _⟩
    have omitted : exceeding.resolve "bridge_mode" = none := by decide
    rw [omitted] at given
    cases given
  · exact (ofInvocation_accepts_legal unnamed).2.1 _ ⟨by decide, misnamed⟩

end Configuration

end Cosimulation
