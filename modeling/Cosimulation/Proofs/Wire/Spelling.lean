import Cosimulation.Proofs.Wire.RoundTrip
import Cosimulation.Wire.Command
/-!
# Commands in every spelling

A reader asks an object for the values that are given to a name, and what it is given depends
neither on the order of the members nor on members of other names (`Extends.required?`,
`Extends.optional?`).  So a command is read off every text that spells its members in any order, those
of its payload in any order, and further members among both, whatever their values are, as long as
these can be held.  A member or a field of the payload that is given twice is never read
(`decodes_every_spelling`).
-/

namespace Cosimulation

set_option autoImplicit false

/-! ## Members -/

namespace Json

section Given

variable {Text : Type} {name : String} {members others : List (String × Json Text)}

/-- The order of the members is the order in which values are given. -/
theorem given_perm (name : String) (order : members.Perm others) :
    (given name members).Perm (given name others) :=
  (order.filter _).map _

/-- A value that must be given depends on what is given to its name, in any order. -/
theorem required?_congr (same : (given name members).Perm (given name others)) :
    required? name members = required? name others := by
  unfold required?
  split
  · rename_i value one
    rw [one] at same
    rw [List.perm_singleton.1 same.symm]
  · rename_i several
    split
    · rename_i value one
      rw [one] at same
      exact absurd (List.perm_singleton.1 same) (several value)
    · rfl

theorem optional?_congr (same : (given name members).Perm (given name others)) :
    optional? name members = optional? name others := by
  unfold optional?
  split
  · rename_i nothing
    rw [nothing] at same
    rw [List.nil_perm.1 same]
  · rename_i value one
    rw [one] at same
    rw [List.perm_singleton.1 same.symm]
  · rename_i nonempty several
    split
    · rename_i nothing
      rw [nothing] at same
      exact absurd (List.perm_nil.1 same) nonempty
    · rename_i value one
      rw [one] at same
      exact absurd (List.perm_singleton.1 same) (several value)
    · rfl

/-- What is given more than once is not read. -/
theorem required?_of_repeated (repeated : 2 ≤ (given name members).length) :
    required? name members = none := by
  unfold required?
  split
  · rename_i value one
    rw [one] at repeated
    exact absurd repeated (by simp)
  · rfl

theorem optional?_of_repeated (repeated : 2 ≤ (given name members).length) :
    optional? name members = none := by
  unfold optional?
  split
  · rename_i nothing
    rw [nothing] at repeated
    exact absurd repeated (by simp)
  · rename_i value one
    rw [one] at repeated
    exact absurd repeated (by simp)
  · rfl

theorem given_append (name : String) (members others : List (String × Json Text)) :
    given name (members ++ others) = given name members ++ given name others := by
  rw [given, List.filter_append, List.map_append]
  rfl

/-- Nothing is given to a name that does not stand among the members. -/
theorem given_eq_nil_iff : given name members = [] ↔ name ∉ members.map Prod.fst := by
  rw [given, List.map_eq_nil_iff, List.filter_eq_nil_iff, List.mem_map]
  constructor
  · rintro absent ⟨member, inside, rfl⟩
    exact absent member inside (decide_eq_true rfl)
  · exact fun absent member inside same => absent ⟨member, inside, of_decide_eq_true same⟩

/-- A further member of a name that stands among the members is given behind another. -/
theorem length_given_cons (value : Json Text) (named : name ∈ members.map Prod.fst) :
    2 ≤ (given name ((name, value) :: members)).length := by
  have front : given name ((name, value) :: members) = value :: given name members := by
    simp [given]
  have nonempty : given name members ≠ [] := fun nothing => given_eq_nil_iff.1 nothing named
  rw [front, List.length_cons]
  exact Nat.succ_le_succ (List.length_pos_iff.2 nonempty)

end Given

/-- Members in any order, and among them further ones of other names that can be held. -/
def Extends (room : Nat) (names : List String) (known members : List (String × Json String)) :
    Prop :=
  ∃ further, members.Perm (known ++ further) ∧
    ∀ member ∈ further, member.1 ∉ names ∧ Holdable room member.2

namespace Extends

variable {room : Nat} {names : List String} {name : String}
  {known members : List (String × Json String)}

theorem refl (room : Nat) (names : List String) (known : List (String × Json String)) :
    Extends room names known known :=
  ⟨[], by simp, nofun⟩

/-- **To a known name the same values are given**, in any order. -/
theorem given (extended : Extends room names known members) (isKnown : name ∈ names) :
    (Json.given name members).Perm (Json.given name known) := by
  obtain ⟨further, order, other⟩ := extended
  have unnamed : Json.given name further = [] := by
    refine given_eq_nil_iff.2 fun named => ?_
    obtain ⟨member, inside, rfl⟩ := List.mem_map.1 named
    exact (other member inside).1 isKnown
  have order := given_perm name order
  rwa [given_append, unnamed, List.append_nil] at order

theorem holdable (extended : Extends room names known members)
    (all : ∀ member ∈ known, Holdable room member.2) :
    ∀ member ∈ members, Holdable room member.2 := by
  obtain ⟨further, order, other⟩ := extended
  intro member inside
  rcases List.mem_append.1 (order.mem_iff.1 inside) with among | among
  · exact all member among
  · exact (other member among).2

theorem required? (extended : Extends room names known members) (isKnown : name ∈ names) :
    Json.required? name members = Json.required? name known :=
  required?_congr (extended.given isKnown)

theorem optional? (extended : Extends room names known members) (isKnown : name ∈ names) :
    Json.optional? name members = Json.optional? name known :=
  optional?_congr (extended.given isKnown)

/-- A known name that is given twice is given twice among further members. -/
theorem repeated {value : Json String}
    (extended : Extends room names ((name, value) :: known) members) (isKnown : name ∈ names)
    (named : name ∈ known.map Prod.fst) : 2 ≤ (Json.given name members).length := by
  rw [(extended.given isKnown).length_eq]
  exact length_given_cons value named

end Extends

/-- The members of a held object are at hand. -/
theorem members?_object (members : List (String × Json String)) :
    (object members).members? = some members := by
  rw [members?]
  induction members with
  | nil => rfl
  | cons member members ih =>
    rw [List.mapM_cons, ih]
    rfl

end Json

/-! ## Operations -/

namespace Operation

/-- An operation is read off the name and the payload that its members give. -/
theorem ofJson?_of_members {members : List (String × Json String)} {name : String}
    {payload : Option (Json String)} (room : Nat)
    (named : Json.required? "op" members = some (.string name))
    (content : Json.optional? "payload" members = some payload) :
    ofJson? room (.object members) = ofNamed? (room - 2) name payload := by
  have kind : (Json.string name : Json String).variant? = some name := rfl
  unfold ofJson? Json.paired?
  simp only [Json.members?_object, named, content, kind, Option.bind_eq_bind, Option.bind_some]
  cases payload with
  | none => rfl
  | some value =>
    by_cases first : (members.map Prod.fst).find? (fun name => name = "op" ∨ name = "payload") =
        some "op"
    · simp only [first, if_true]
      rfl
    · simp only [first, if_false]
      rfl

/-- An operation is not read off members that give no name, or two payloads. -/
theorem ofJson?_of_missing {members : List (String × Json String)} (room : Nat)
    (missing : Json.required? "op" members = none ∨ Json.optional? "payload" members = none) :
    ofJson? room (Json.object members) = none := by
  unfold ofJson? Json.paired?
  simp only [Json.members?_object, Option.bind_eq_bind, Option.bind_some]
  rcases missing with missing | missing
  · rw [missing]
    rfl
  · simp only [missing, Option.bind_none, Option.bind_fun_none]

/-- No field of an operation is written twice. -/
theorem required?_payload (operation : Operation) :
    ∀ field ∈ operation.payload, Json.required? field.1 operation.payload = some field.2 := by
  cases operation <;> simp [payload, Json.required?, Json.given]

/-- An operation is read off its fields, in any order and among further ones. -/
theorem ofNamed?_of_extended (operation : Operation) {room : Nat}
    {fields : List (String × Json String)}
    (extended : Json.Extends room (operation.payload.map Prod.fst) operation.payload fields)
    (space : Nat) :
    ofNamed? space operation.name
      (if operation.payload = [] then none else some (Json.object fields)) = some operation := by
  have found (field : String × Json String) (written : field ∈ operation.payload) :
      Json.required? field.1 fields = some field.2 :=
    (extended.required? (List.mem_map_of_mem written)).trans (operation.required?_payload field written)
  cases operation with
  | ping => rfl
  | time => rfl
  | finish => rfl
  | _ =>
    simp only [payload, List.forall_mem_cons] at found
    simp [payload, Operation.name, ofNamed?, ofObject?, Json.members?_object, ofText?,
      ofAssignment?, ofTicks?, found, Json.string?, Json.Reading.text?]

/-- An operation is not read off fields one of which is missing or given twice. -/
theorem ofNamed?_of_missing (operation : Operation) {name : String}
    {fields : List (String × Json String)} (known : name ∈ operation.payload.map Prod.fst)
    (missing : Json.required? name fields = none) (space : Nat) :
    ofNamed? space operation.name (some (Json.object fields)) = none := by
  cases operation with
  | ping | time | finish => cases known
  | write | force =>
    simp only [payload, List.map_cons, List.map_nil, List.mem_cons, List.not_mem_nil,
      or_false] at known
    rcases known with rfl | rfl <;>
      simp [Operation.name, ofNamed?, ofObject?, Json.members?_object, ofAssignment?, missing]
  | _ =>
    cases List.mem_singleton.1 known
    simp [Operation.name, ofNamed?, ofObject?, Json.members?_object, ofText?, ofTicks?, missing]

end Operation

/-! ## Commands -/

namespace Command

/-- The names of the members of a command. -/
def names : List String := ["request_id", "op", "payload"]

/-- The members that a command is written as, with other fields in its payload, if it has one. -/
def membersWith (command : Command) (fields : List (String × Json String)) :
    List (String × Json String) :=
  ("request_id", Message.toJson command.requestId) :: ("op", .string command.operation.name) ::
    if command.operation.payload = [] then [] else [("payload", .object fields)]

/-- A text that says a command: its members in any order, those of the payload in any order, and
among both further members of other names, which can be held where they stand. -/
def SpelledBy (command : Command) (text : List Char) : Prop :=
  ∃ fields members,
    Json.Extends (Json.maximalDepth - 2) (command.operation.payload.map Prod.fst)
      command.operation.payload fields ∧
    Json.Extends (Json.maximalDepth - 1) names (command.membersWith fields) members ∧
    Json.SpellsValue (.object members) text

/-- A text that says a command but gives one of its members, or one of the fields of its payload,
once more and with any value. -/
inductive RepeatedBy (command : Command) (text : List Char) : Prop where
  | member {name : String} {value : Json String} {fields members : List (String × Json String)} :
      name ∈ (command.membersWith fields).map Prod.fst →
      Json.Extends (Json.maximalDepth - 2) (command.operation.payload.map Prod.fst)
        command.operation.payload fields →
      Json.Extends (Json.maximalDepth - 1) names ((name, value) :: command.membersWith fields)
        members →
      Json.SpellsValue (.object members) text → RepeatedBy command text
  | field {name : String} {value : Json String} {fields members : List (String × Json String)} :
      name ∈ command.operation.payload.map Prod.fst →
      Json.Extends (Json.maximalDepth - 2) (command.operation.payload.map Prod.fst)
        ((name, value) :: command.operation.payload) fields →
      Json.Extends (Json.maximalDepth - 1) names (command.membersWith fields) members →
      Json.SpellsValue (.object members) text → RepeatedBy command text

section Members

variable (command : Command) (fields : List (String × Json String))

theorem required?_membersWith :
    Json.required? "request_id" (command.membersWith fields) =
        some (Message.toJson command.requestId) ∧
      Json.required? "op" (command.membersWith fields) = some (.string command.operation.name) ∧
      Json.optional? "payload" (command.membersWith fields) =
        some (if command.operation.payload = [] then none else some (.object fields)) := by
  unfold membersWith
  split <;> simp [Json.required?, Json.optional?, Json.given]

theorem mem_names_of_membersWith {name : String}
    (named : name ∈ (command.membersWith fields).map Prod.fst) : name ∈ names := by
  unfold membersWith at named
  simp only [names, List.mem_cons, List.not_mem_nil, or_false]
  split at named
  · simp only [List.map_cons, List.map_nil, List.mem_cons, List.not_mem_nil, or_false] at named
    rcases named with first | second
    · exact .inl first
    · exact .inr (.inl second)
  · simpa using named

theorem forall_membersWith {Good : Json String → Prop} (strings : ∀ text, Good (.string text))
    (payload : Good (.object fields)) : ∀ member ∈ command.membersWith fields, Good member.2 := by
  refine List.forall_mem_cons.2 ⟨strings _, List.forall_mem_cons.2 ⟨strings _, ?_⟩⟩
  split
  · nofun
  · exact List.forall_mem_singleton.2 payload

end Members

variable {command : Command} {fields members : List (String × Json String)}

/-- The fields of an operation are plain. -/
theorem plain_payload (operation : Operation) :
    ∀ field ∈ operation.payload, Json.Plain (Json.maximalDepth - 2) field.2 := by
  cases operation <;> simp [Operation.payload, Json.maximalDepth]

/-- The members that a command is read off give a request id, and the operation. -/
theorem of_ofJson?_raw (read : Message.ofJson? (Json.raw (.object members)) = some command) :
    (Json.required? "request_id" members).isSome ∧
      Operation.ofJson? Json.maximalDepth (Json.object members) = some command.operation := by
  simp only [Message.ofJson?, Option.bind_eq_bind, Option.bind_eq_some_iff, Option.pure_def,
    Option.some.injEq] at read
  obtain ⟨⟨id, rest⟩, taken, operation, named, rfl⟩ := read
  unfold RequestId.ofMembers? at taken
  split at taken
  · rename_i held holds
    obtain ⟨_, same⟩ := Json.hold?_eq_some_iff.1 holds
    cases Json.raw_injective same
    simp only [Option.bind_eq_bind, Option.bind_eq_some_iff, Option.pure_def, Option.some.injEq,
      Prod.mk.injEq] at taken
    obtain ⟨_, ⟨_, found, _⟩, rfl, rfl⟩ := taken
    exact ⟨Option.isSome_of_eq_some found, named⟩
  · cases taken

/-- **A text that says a command is read as that command.** -/
theorem decode_of_spelledBy {text : List Char} (spelled : command.SpelledBy text) :
    Message.decode (Utf8.encode text) = .ok command := by
  obtain ⟨fields, members, inner, outer, spells⟩ := spelled
  obtain ⟨id, operation, payload⟩ := command.required?_membersWith fields
  have holdable : Json.Holdable Json.maximalDepth (.object members) :=
    .object (outer.holdable (command.forall_membersWith fields (fun _ => .string _)
      (.object (inner.holdable fun field written => (plain_payload _ field written).holdable))))
  have held := RequestId.ofMembers?_raw holdable ((outer.required? (by decide)).trans id)
  have named : Operation.ofJson? Json.maximalDepth (.object members) = some command.operation := by
    rw [Operation.ofJson?_of_members _ ((outer.required? (by decide)).trans operation)
      ((outer.optional? (by decide)).trans payload)]
    exact command.operation.ofNamed?_of_extended inner _
  exact Message.decode_of_spells spells (by simp [Message.ofJson?, held, named])

/-- **A text that gives a member or a field twice is read as no command.** -/
theorem decode_of_repeatedBy {text : List Char} (repeats : command.RepeatedBy text) :
    ∃ reason, (Message.decode (Utf8.encode text) : Except ProtocolError Command) =
      .error (.malformed reason) := by
  have refused {members : List (String × Json String)}
      (spells : Json.SpellsValue (.object members) text)
      (unread : Json.required? "request_id" members = none ∨
        Operation.ofJson? Json.maximalDepth (Json.object members) = none) :
      ∃ reason, (Message.decode (Utf8.encode text) : Except ProtocolError Command) =
        .error (.malformed reason) := by
    refine Message.decode_of_unread spells (Option.eq_none_iff_forall_ne_some.2 fun value read => ?_)
    obtain ⟨identified, named⟩ := of_ofJson?_raw read
    rcases unread with missing | missing
    · rw [missing] at identified
      cases identified
    · cases missing.symm.trans named
  cases repeats with
  | member named inner outer spells =>
    have known := command.mem_names_of_membersWith _ named
    have twice := outer.repeated known named
    refine refused spells ?_
    simp only [names, List.mem_cons, List.not_mem_nil, or_false] at known
    rcases known with rfl | rfl | rfl
    · exact .inl (Json.required?_of_repeated twice)
    · exact .inr (Operation.ofJson?_of_missing _ (.inl (Json.required?_of_repeated twice)))
    · exact .inr (Operation.ofJson?_of_missing _ (.inr (Json.optional?_of_repeated twice)))
  | @field name value fields members known inner outer spells =>
    obtain ⟨_, operation, payload⟩ := command.required?_membersWith fields
    have nonempty : command.operation.payload ≠ [] := by
      intro nothing
      rw [nothing] at known
      cases known
    rw [if_neg nonempty] at payload
    have missing := Json.required?_of_repeated (inner.repeated known known)
    refine refused spells (.inr ?_)
    rw [Operation.ofJson?_of_members _ ((outer.required? (by decide)).trans operation)
      ((outer.optional? (by decide)).trans payload)]
    exact command.operation.ofNamed?_of_missing known missing _

/-- The text that a command is written as says it. -/
theorem spelledBy_print (command : Command) :
    command.SpelledBy (Json.print (Message.toJson command)) := by
  have plain : Json.Plain Json.maximalDepth (Message.toJson command) :=
    .object (command.forall_membersWith _ (fun _ => .string _)
      (.object (plain_payload command.operation)))
  exact ⟨_, _, .refl _ _ _, .refl _ _ _, plain.spells⟩

/-- **A command is read back from the bytes that it is written as.** -/
@[simp] theorem decode_payload (command : Command) :
    Message.decode (Message.payload command) = .ok command :=
  decode_of_spelledBy command.spelledBy_print

/-- **A command means the same in every spelling.**  A text that says a command, whatever the order
of its members and of the fields of its payload, wherever blanks stand in it, however its characters
are escaped and whatever else stands among the members and the fields, is read as that command.  If a
member or a field is given twice, it is malformed. -/
theorem decodes_every_spelling (command : Command) (text : List Char) :
    (command.SpelledBy text → Message.decode (Utf8.encode text) = .ok command) ∧
      (command.RepeatedBy text → ∃ reason,
        (Message.decode (Utf8.encode text) : Except ProtocolError Command) =
          .error (.malformed reason)) :=
  ⟨decode_of_spelledBy, decode_of_repeatedBy⟩

/-- An advance whose payload stands in front, with blanks, an escaped name and a further field; and a
ping that names its operation twice. -/
theorem decodes_every_spelling_advance :
    let text := "\x7b \"payload\":\x7b\"\\u0074icks\":5,\"note\":null\x7d,\"op\":\"advance\"," ++
      "\"request_id\":\"00000000-0000-0000-0000-000000000001\"\x7d"
    let twice := "\x7b\"op\":null,\"request_id\":\"00000000-0000-0000-0000-000000000001\"," ++
      "\"op\":\"ping\"\x7d"
    Message.decode (Utf8.encode text.toList) = .ok (⟨.ofNat 1, .advance 5⟩ : Command) ∧
      ∃ reason, (Message.decode (Utf8.encode twice.toList) : Except ProtocolError Command) =
        .error (.malformed reason) := by
  intro text twice
  let command : Command := ⟨.ofNat 1, .advance 5⟩
  let ping : Command := ⟨.ofNat 1, .ping⟩
  let fields : List (String × Json String) := [("ticks", .natural 5), ("note", .null)]
  let others : List (String × Json String) :=
    [("op", .string "advance"), ("request_id", Message.toJson command.requestId)]
  have inner : Json.Extends (Json.maximalDepth - 2) (command.operation.payload.map Prod.fst)
      command.operation.payload fields :=
    ⟨[("note", .null)], .refl _, List.forall_mem_singleton.2 ⟨by decide, .null⟩⟩
  have outer : Json.Extends (Json.maximalDepth - 1) names (command.membersWith fields)
      (command.membersWith fields).reverse :=
    ⟨[], (List.reverse_perm _).trans (by rw [List.append_nil]), nofun⟩
  have spells : Json.SpellsValue (.object (command.membersWith fields).reverse) text.toList := by
    have ended : Json.Spells [] [] := .ended Json.blanks_nil
    have blank : Json.Blanks [' '] := List.forall_mem_singleton.2 (by decide)
    have letter : Json.SpellsChar 't' ('\\' :: 'u' :: ['0', '0', '7', '4']) :=
      .unit ⟨by decide, by decide⟩
    have ticks : Json.SpellsToken (.string (some "ticks")) _ :=
      .string (.cons letter (Json.spellsChars_escape ['i', 'c', 'k', 's']))
    have strings : ∀ member ∈ others, Json.SpellsValue member.2 (Json.print member.2) :=
      List.forall_mem_cons.2 ⟨(Json.plain_string 0 _).spells,
        List.forall_mem_singleton.2 (Json.plain_string 0 _).spells⟩
    have behind := ((Json.spells_printMembers strings).append (ended.cons .closeBrace)).cons .comma
    have note := (((behind.cons .closeBrace).cons .null).cons .colon).cons
      (Json.spellsToken_quoted "note")
    have inside := (((note.cons .comma).cons (Json.spellsToken_natural 5)).cons .colon).cons ticks
    have payload := Json.Spells.token blank (Json.spellsToken_quoted "payload")
      ((inside.cons .openBrace).cons .colon)
    have whole := payload.cons .openBrace
    exact (congrArg (Json.Spells _) (by decide +kernel)).mpr whole
  have repeated : Json.SpellsValue (.object (("op", .null) :: ping.membersWith [])) twice.toList := by
    have plain : Json.Plain 127 (.object (("op", .null) :: ping.membersWith [])) := by
      rw [Json.plain_object]
      exact List.forall_mem_cons.2 ⟨.null, ping.forall_membersWith [] (fun _ => .string _)
        (.object nofun)⟩
    have printed : twice.toList = Json.print (.object (("op", .null) :: ping.membersWith [])) := by
      decide +kernel
    rw [printed]
    exact plain.spells
  refine ⟨(decodes_every_spelling command _).1 ⟨fields, _, inner, outer, spells⟩,
    (decodes_every_spelling ping _).2 (.member ?_ (.refl _ _ _) (.refl _ _ _) repeated)⟩
  decide

end Command

end Cosimulation
