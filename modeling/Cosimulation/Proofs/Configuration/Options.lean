import Cosimulation.Invocation
/-!
# The element that decides an option

An element spells an option as a switch or with the value in itself (`Spells`), and never as both,
since the two differ in their first character.  Looking an option up passes over the elements that
do not spell it (`resolveIn_append_of_unspelled`) and ends at the first that does
(`resolveIn_cons_of_spells`), so what is found is what the first spelling says, wherever it stands
(`resolveIn_of_decides`).  A switch at the very end decides as well, and leaves the option without a
value.
-/

namespace Cosimulation.Invocation

set_option autoImplicit false

/-! ## Spellings -/

/-- An element that spells an option, with the value that it holds.  A switch holds none: its value
is the element behind it. -/
inductive Spells (name : String) : String → Option String → Prop where
  | minus : Spells name ("-" ++ name) none
  | plus (value : String) : Spells name ("+" ++ name ++ "+" ++ value) (some value)
  | equals (value : String) : Spells name ("+" ++ name ++ "=" ++ value) (some value)

/-- An element that spells an option in one way or another. -/
def Spelled (name element : String) : Prop := ∃ held, Spells name element held

variable {name element value : String} {held : Option String}

theorem spells_none_iff : Spells name element none ↔ element.toList = '-' :: name.toList := by
  constructor
  · rintro ⟨⟩
    simp
  · intro signed
    have same : element = "-" ++ name := String.toList_inj.1 (by simpa using signed)
    exact same ▸ .minus

theorem spells_some_iff : Spells name element (some value) ↔
    ∃ separator, (separator = '+' ∨ separator = '=') ∧
      element.toList = '+' :: (name.toList ++ separator :: value.toList) := by
  constructor
  · intro spells
    cases spells with
    | plus => exact ⟨'+', .inl rfl, by simp⟩
    | equals => exact ⟨'=', .inr rfl, by simp⟩
  · rintro ⟨separator, rfl | rfl, signed⟩
    · have same : element = "+" ++ name ++ "+" ++ value :=
        String.toList_inj.1 (by simpa using signed)
      exact same ▸ .plus value
    · have same : element = "+" ++ name ++ "=" ++ value :=
        String.toList_inj.1 (by simpa using signed)
      exact same ▸ .equals value

theorem isMinus_iff : isMinus name element = true ↔ Spells name element none := by
  rw [isMinus, decide_eq_true_iff, spells_none_iff]

theorem rest?_eq_some_iff {start text rest : List Char} :
    rest? start text = some rest ↔ text = start ++ rest := by
  unfold rest?
  split
  · rename_i front
    obtain ⟨behind, rfl⟩ := List.isPrefixOf_iff_prefix.1 front
    rw [List.drop_left, Option.some.injEq, List.append_cancel_left_eq]
  · rename_i other
    simp only [reduceCtorEq, false_iff]
    rintro rfl
    exact other (List.isPrefixOf_iff_prefix.2 (List.prefix_append start rest))

/-- The value that is read in an element is the one that the element holds. -/
theorem plusValue?_eq_some_iff :
    plusValue? name element = some value ↔ Spells name element (some value) := by
  rw [spells_some_iff]
  constructor
  · intro found
    unfold plusValue? at found
    split at found
    · rename_i text signed
      split at found
      · rename_i separator behind rest
        split at found
        · rename_i separates
          obtain rfl := Option.some.inj found
          refine ⟨separator, separates, ?_⟩
          rw [signed, rest?_eq_some_iff.1 rest, String.toList_ofList]
        · cases found
      · cases found
    · cases found
  · rintro ⟨separator, separates, signed⟩
    have rest : rest? name.toList (name.toList ++ separator :: value.toList) =
        some (separator :: value.toList) := rest?_eq_some_iff.2 rfl
    simp only [plusValue?, signed, rest, if_pos separates, String.ofList_toList]

/-- An element that holds a value is no switch. -/
theorem Spells.not_minus (spells : Spells name element (some value)) :
    ¬ isMinus name element = true := by
  obtain ⟨separator, _, signed⟩ := spells_some_iff.1 spells
  rw [isMinus_iff, spells_none_iff, signed]
  simp

theorem spelled_iff :
    Spelled name element ↔ isMinus name element = true ∨ (plusValue? name element).isSome := by
  constructor
  · rintro ⟨held, spells⟩
    cases held with
    | none => exact .inl (isMinus_iff.2 spells)
    | some value => exact .inr (plusValue?_eq_some_iff.2 spells ▸ rfl)
  · rintro (minus | holds)
    · exact ⟨none, isMinus_iff.1 minus⟩
    · obtain ⟨value, found⟩ := Option.isSome_iff_exists.1 holds
      exact ⟨some value, plusValue?_eq_some_iff.1 found⟩

instance (name element : String) : Decidable (Spelled name element) :=
  decidable_of_iff _ spelled_iff.symm

/-! ## One step of the search -/

/-- The first element that spells the option ends the search. -/
theorem resolveIn_cons_of_spells (spells : Spells name element held) (rest : List String) :
    resolveIn name (element :: rest) = held.or rest.head? := by
  rw [resolveIn]
  cases held with
  | none => rw [if_pos (isMinus_iff.2 spells), Option.none_or]
  | some value =>
    rw [if_neg spells.not_minus, plusValue?_eq_some_iff.2 spells]
    rfl

theorem resolveIn_cons_of_unspelled (unspelled : ¬ Spelled name element) (rest : List String) :
    resolveIn name (element :: rest) = resolveIn name rest := by
  rw [spelled_iff, not_or, Bool.not_eq_true, Option.not_isSome_iff_eq_none] at unspelled
  rw [resolveIn, if_neg (Bool.not_eq_true _ ▸ unspelled.1), unspelled.2]

/-- **What does not spell the option is passed over.** -/
theorem resolveIn_append_of_unspelled {front : List String}
    (unspelled : ∀ element ∈ front, ¬ Spelled name element) (elements : List String) :
    resolveIn name (front ++ elements) = resolveIn name elements := by
  induction front with
  | nil => rfl
  | cons element front ih =>
    obtain ⟨first, others⟩ := List.forall_mem_cons.1 unspelled
    rw [List.cons_append, resolveIn_cons_of_unspelled first, ih others]

/-! ## The first spelling -/

/-- The element at an index is the first that spells an option, and this is the value it holds. -/
structure Decides (name : String) (elements : List String) (index : Nat) (held : Option String) :
    Prop where
  spells : ∃ element, elements[index]? = some element ∧ Spells name element held
  least : ∀ earlier < index, ∀ element, elements[earlier]? = some element →
    ¬ Spelled name element

variable {elements : List String} {index : Nat}

/-- Elements that are appended leave the first spelling where it is. -/
theorem Decides.append (decides : Decides name elements index held) (more : List String) :
    Decides name (elements ++ more) index held := by
  obtain ⟨⟨element, here, spells⟩, least⟩ := decides
  have inside : index < elements.length := (List.getElem?_eq_some_iff.1 here).1
  refine ⟨⟨element, ?_, spells⟩, fun earlier before other there => least earlier before other ?_⟩
  · rw [List.getElem?_append_left inside, here]
  · rwa [List.getElem?_append_left (Nat.lt_trans before inside)] at there

/-- What is found is what the first spelling says. -/
theorem resolveIn_of_decides (decides : Decides name elements index held) :
    resolveIn name elements = held.or elements[index + 1]? := by
  induction elements generalizing index with
  | nil =>
    obtain ⟨_, here, _⟩ := decides.spells
    cases here
  | cons element rest ih =>
    cases index with
    | zero =>
      obtain ⟨_, here, spells⟩ := decides.spells
      obtain rfl := Option.some.inj here
      rw [resolveIn_cons_of_spells spells, List.head?_eq_getElem?]
      rfl
    | succ index =>
      have unspelled := decides.least 0 (Nat.succ_pos index) element rfl
      rw [resolveIn_cons_of_unspelled unspelled]
      exact ih ⟨decides.spells, fun earlier before =>
        decides.least (earlier + 1) (Nat.succ_lt_succ before)⟩

/-- Either no element spells an option or one of them is the first to do so. -/
theorem unspelled_or_decides (name : String) (elements : List String) :
    (∀ element ∈ elements, ¬ Spelled name element) ∨
      ∃ index held, Decides name elements index held := by
  induction elements with
  | nil => exact .inl nofun
  | cons element rest ih =>
    by_cases first : Spelled name element
    · obtain ⟨held, spells⟩ := first
      exact .inr ⟨0, held, ⟨element, rfl, spells⟩, nofun⟩
    · rcases ih with unspelled | ⟨index, held, spells, least⟩
      · exact .inl (List.forall_mem_cons.2 ⟨first, unspelled⟩)
      · refine .inr ⟨index + 1, held, spells, fun earlier before other there => ?_⟩
        cases earlier with
        | zero => exact Option.some.inj there ▸ first
        | succ earlier => exact least earlier (Nat.lt_of_succ_lt_succ before) other there

/-- What the first spelling makes of an option. -/
inductive Resolves (name : String) (elements : List String) : Option String → Prop where
  /-- No element spells the option. -/
  | absent (unspelled : ∀ element ∈ elements, ¬ Spelled name element) :
      Resolves name elements none
  /-- The first spelling holds the value. -/
  | held {index : Nat} {value : String} (decides : Decides name elements index (some value)) :
      Resolves name elements (some value)
  /-- The first spelling is a switch, and the value is the element behind it. -/
  | following {index : Nat} {value : String} (decides : Decides name elements index none)
      (behind : elements[index + 1]? = some value) : Resolves name elements (some value)
  /-- The first spelling is a switch at the very end. -/
  | trailing {index : Nat} (decides : Decides name elements index none)
      (last : index + 1 = elements.length) : Resolves name elements none

theorem resolves_resolveIn (name : String) (elements : List String) :
    Resolves name elements (resolveIn name elements) := by
  rcases unspelled_or_decides name elements with unspelled | ⟨index, held, decides⟩
  · have nothing : resolveIn name elements = none := by
      simpa [resolveIn] using resolveIn_append_of_unspelled unspelled []
    exact nothing ▸ .absent unspelled
  · rw [resolveIn_of_decides decides]
    cases held with
    | some value => exact .held decides
    | none =>
      rw [Option.none_or]
      cases behind : elements[index + 1]? with
      | some value => exact .following decides behind
      | none =>
        obtain ⟨_, here, _⟩ := decides.spells
        have inside := (List.getElem?_eq_some_iff.1 here).1
        have outside := List.getElem?_eq_none_iff.1 behind
        exact .trailing decides (Nat.le_antisymm inside outside)

theorem Resolves.resolveIn_eq {result : Option String} (resolves : Resolves name elements result) :
    resolveIn name elements = result := by
  cases resolves with
  | absent unspelled => simpa [resolveIn] using resolveIn_append_of_unspelled unspelled []
  | held decides => exact resolveIn_of_decides decides
  | following decides behind => rw [resolveIn_of_decides decides, behind, Option.none_or]
  | trailing decides last =>
    rw [resolveIn_of_decides decides, List.getElem?_eq_none (Nat.le_of_eq last.symm), Option.none_or]

/-- A value that is found stays the same when elements are appended. -/
theorem Resolves.append (resolves : Resolves name elements (some value)) (more : List String) :
    Resolves name (elements ++ more) (some value) := by
  cases resolves with
  | held decides => exact .held (decides.append more)
  | following decides behind =>
    have inside := (List.getElem?_eq_some_iff.1 behind).1
    exact .following (decides.append more) (by rw [List.getElem?_append_left inside, behind])

/-- **The first spelling decides.**  An option has no value if no element spells it.  Otherwise the
first element that spells it settles the matter: the option has the value that this element holds,
or the next element for its value if this one is a switch, and it has no value if the switch is the
last element.  So a value that is found is not changed by elements that are appended, and nothing is
changed by elements in front that do not spell the option. -/
theorem resolve_first_spelling (invocation : Invocation) (name : String) :
    (∀ result, invocation.resolve name = result ↔ Resolves name invocation.elements result) ∧
      (∀ value more, invocation.resolve name = some value →
        (Invocation.mk (invocation.elements ++ more)).resolve name = some value) ∧
      ∀ front, (∀ element ∈ front, ¬ Spelled name element) →
        (Invocation.mk (front ++ invocation.elements)).resolve name = invocation.resolve name := by
  have found : Resolves name invocation.elements (invocation.resolve name) :=
    resolves_resolveIn name invocation.elements
  refine ⟨fun result => ⟨fun same => same ▸ found, Resolves.resolveIn_eq⟩, ?_, ?_⟩
  · intro value more resolved
    rw [resolved] at found
    exact (found.append more).resolveIn_eq
  · intro front unspelled
    exact resolveIn_append_of_unspelled unspelled invocation.elements

/-- A switch takes the next element for its value even if this is a spelling in its turn.  Names that
overlap and a name without a separator are passed over in front, and later spellings change nothing. -/
theorem resolve_first_spelling_overlapping :
    let invocation : Invocation := ⟨["-socket", "+socket+/tmp/b"]⟩
    Resolves "socket" invocation.elements (some "+socket+/tmp/b") ∧
      (Invocation.mk (invocation.elements ++ ["+socket=/tmp/c"])).resolve "socket" =
        some "+socket+/tmp/b" ∧
      (Invocation.mk (["+socketfoo+/tmp/a", "+socket"] ++ invocation.elements)).resolve "socket" =
        some "+socket+/tmp/b" := by
  intro invocation
  have resolved : invocation.resolve "socket" = some "+socket+/tmp/b" := by decide
  obtain ⟨first, appended, prepended⟩ := resolve_first_spelling invocation "socket"
  have unspelled : ∀ element ∈ ["+socketfoo+/tmp/a", "+socket"], ¬ Spelled "socket" element := by
    decide
  exact ⟨(first _).1 resolved, appended _ _ resolved, (prepended _ unspelled).trans resolved⟩

end Cosimulation.Invocation
