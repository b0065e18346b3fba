import Cosimulation.Text.Blank
/-!
# Trimming

A text is its trimmed form with blanks around it (`padded_trim`), and a core that has no blank in it
is the trimmed form of every text that pads it (`toList_trim_of_padded`).  So a value in which no
blank may occur is read from a trimmed text exactly if the text is some padding of it.
-/

namespace Cosimulation.Text

set_option autoImplicit false

/-- A text that consists of a core with blanks in front of it and behind it. -/
def Padded (core : List Char) (text : String) : Prop :=
  ∃ front back, text.toList = front ++ core ++ back ∧
    (∀ char ∈ front, isBlank char = true) ∧ ∀ char ∈ back, isBlank char = true

/-- Nothing but blanks is dropped at the front, so what is left is what stood behind them. -/
theorem blanks_append_dropWhile (text : List Char) :
    ∃ front, text = front ++ text.dropWhile isBlank ∧ ∀ char ∈ front, isBlank char = true :=
  ⟨text.takeWhile isBlank, List.takeWhile_append_dropWhile.symm,
    List.all_eq_true.1 List.all_takeWhile⟩

/-- **A text pads its trimmed form.** -/
theorem padded_trim (text : String) : Padded (trim text).toList text := by
  obtain ⟨front, whole, leading⟩ := blanks_append_dropWhile text.toList
  obtain ⟨back, rest, trailing⟩ := blanks_append_dropWhile (text.toList.dropWhile isBlank).reverse
  refine ⟨front, back.reverse, ?_, leading, fun char member => ?_⟩
  · have behind := congrArg List.reverse rest
    rw [List.reverse_append, List.reverse_reverse] at behind
    rw [trim, String.toList_ofList, List.append_assoc, ← behind, ← whole]
  · exact trailing char (List.mem_reverse.1 member)

/-- Dropping stops in front of a core without blanks. -/
theorem dropWhile_padded {front core : List Char} (leading : ∀ char ∈ front, isBlank char = true)
    (solid : ∀ char ∈ core, isBlank char = false) (nonempty : core ≠ []) (back : List Char) :
    (front ++ core ++ back).dropWhile isBlank = core ++ back := by
  obtain ⟨first, others, rfl⟩ := List.exists_cons_of_ne_nil nonempty
  rw [List.append_assoc, List.dropWhile_append_of_pos leading, List.cons_append,
    List.dropWhile_cons_of_neg (by simp [solid first List.mem_cons_self])]

/-- **A core without blanks is the trimmed form of every text that pads it.** -/
theorem toList_trim_of_padded {core : List Char} {text : String} (padded : Padded core text)
    (solid : ∀ char ∈ core, isBlank char = false) (nonempty : core ≠ []) :
    (trim text).toList = core := by
  obtain ⟨front, back, whole, leading, trailing⟩ := padded
  have solidBackwards : ∀ char ∈ core.reverse, isBlank char = false :=
    fun char member => solid char (List.mem_reverse.1 member)
  have leadingBackwards : ∀ char ∈ back.reverse, isBlank char = true :=
    fun char member => trailing char (List.mem_reverse.1 member)
  have behind : (back.reverse ++ core.reverse).dropWhile isBlank = core.reverse := by
    simpa using dropWhile_padded leadingBackwards solidBackwards (by simpa using nonempty) []
  rw [trim, String.toList_ofList, whole, dropWhile_padded leading solid nonempty,
    List.reverse_append, behind, List.reverse_reverse]

/-! ## Characters that are no blanks -/

/-- What holds of every code in a range holds of every character whose code is in the range. -/
theorem of_codes (holds : Char → Prop) {char : Char} (first count : Nat)
    (codes : ∀ offset ∈ List.range count, holds (Char.ofNat (first + offset)))
    (least : first ≤ char.toNat) (below : char.toNat < first + count) : holds char := by
  have here := codes (char.toNat - first) (List.mem_range.2 (by omega))
  rwa [Nat.add_sub_cancel' least, Char.ofNat_toNat] at here

/-- No capital is a blank. -/
theorem isBlank_of_capital {char : Char} (capital : 'A' ≤ char ∧ char ≤ 'Z') :
    isBlank char = false := by
  have bounds : 65 ≤ char.toNat ∧ char.toNat ≤ 90 := capital
  exact of_codes (isBlank · = false) 65 26 (by decide) bounds.1 (by omega)

/-- No digit is a blank. -/
theorem isBlank_of_isDigit {char : Char} (digit : char.isDigit = true) : isBlank char = false := by
  have bounds : 48 ≤ char.toNat ∧ char.toNat ≤ 57 := Char.isDigit_iff_toNat.1 digit
  exact of_codes (isBlank · = false) 48 10 (by decide) bounds.1 (by omega)

/-- A blank has no other case. -/
theorem toLower_of_isBlank {char : Char} (blank : isBlank char = true) : char.toLower = char :=
  dif_neg fun capital => Bool.false_ne_true ((isBlank_of_capital capital).symm.trans blank)

/-- **A trimmed text is a name in one case or another exactly if it pads a spelling of the name.** -/
theorem lowercase_trim_eq_iff {text name : String}
    (solid : ∀ char ∈ name.toList, isBlank char = false) (nonempty : name ≠ "") :
    lowercase (trim text) = name ↔
      ∃ core, Padded core text ∧ core.map Char.toLower = name.toList := by
  rw [lowercase, ← String.toList_inj, String.toList_ofList]
  constructor
  · intro same
    exact ⟨_, padded_trim text, same⟩
  · rintro ⟨core, padded, same⟩
    -- A blank of the core would be a blank of the name as well.
    have solidCore : ∀ char ∈ core, isBlank char = false := by
      intro char member
      refine eq_false_of_ne_true fun blank => ?_
      have inside : char.toLower ∈ name.toList := same ▸ List.mem_map_of_mem member
      rw [toLower_of_isBlank blank] at inside
      exact Bool.false_ne_true ((solid char inside).symm.trans blank)
    have nonemptyCore : core ≠ [] := by
      rintro rfl
      exact nonempty (String.toList_eq_nil_iff.1 same.symm)
    rw [toList_trim_of_padded padded solidCore nonemptyCore, same]

end Cosimulation.Text
