import Cosimulation.Json.Printer
import Cosimulation.Text.Utf8
/-!
# How many bytes a value takes

The bytes of a printed value are counted part by part.  All that depends on what a string says is
`escapedSize`, the number of bytes between its quotes; it is additive, and for a text without
characters that need more than one byte it is the length of the text.
-/

namespace Cosimulation.Json

set_option autoImplicit false

/-- The number of bytes of a text. -/
def byteCount (text : List Char) : Nat := (Utf8.encode text).length

/-- The number of bytes that a string takes between its quotes. -/
def escapedSize (text : String) : Nat := byteCount (text.toList.flatMap escape)

/-- The number of bytes that a value takes. -/
def size (json : Json String) : Nat := byteCount (print json)

/-- The number of bytes that members take, with the commas between them. -/
def membersSize (members : List (String × Json String)) : Nat := byteCount (printMembers members)

/-! ## Texts -/

@[simp] theorem byteCount_nil : byteCount [] = 0 := rfl

@[simp] theorem byteCount_append (front back : List Char) :
    byteCount (front ++ back) = byteCount front + byteCount back := by
  simp [byteCount, Utf8.encode]

@[simp] theorem byteCount_cons (char : Char) (text : List Char) :
    byteCount (char :: text) = char.utf8Size + byteCount text := by
  simp [byteCount, Utf8.encode]

@[simp] theorem escapedSize_append (front back : String) :
    escapedSize (front ++ back) = escapedSize front + escapedSize back := by
  simp [escapedSize]

/-- A character that stands for itself in one byte. -/
def IsPlain (char : Char) : Prop := escape char = [char] ∧ char.utf8Size = 1

instance (char : Char) : Decidable (IsPlain char) := inferInstanceAs (Decidable (_ ∧ _))

theorem byteCount_of_plain {text : List Char} (plain : ∀ char ∈ text, IsPlain char) :
    byteCount text = text.length := by
  induction text with
  | nil => rfl
  | cons char text ih =>
    have rest := ih fun char member => plain char (List.mem_cons_of_mem _ member)
    rw [byteCount_cons, rest, (plain char List.mem_cons_self).2, List.length_cons, Nat.add_comm]

/-- A text of plain characters takes as many bytes as it has characters. -/
theorem escapedSize_of_plain {text : List Char} (plain : ∀ char ∈ text, IsPlain char) :
    escapedSize (String.ofList text) = text.length := by
  have itself : text.flatMap escape = text := by
    induction text with
    | nil => rfl
    | cons char text ih =>
      have rest := ih fun char member => plain char (List.mem_cons_of_mem _ member)
      rw [List.flatMap_cons, rest, (plain char List.mem_cons_self).1]
      rfl
  rw [escapedSize, String.toList_ofList, itself, byteCount_of_plain plain]

theorem isPlain_of_isDigit {char : Char} (digit : char.isDigit = true) : IsPlain char := by
  have bounds := Char.isDigit_iff_toNat.1 digit
  have plain : ∀ code ≤ 57, 48 ≤ code → IsPlain (Char.ofNat code) := by decide
  rw [← Char.ofNat_toNat char]
  exact plain char.toNat bounds.2 bounds.1

@[simp] theorem escapedSize_toString (text : String) :
    escapedSize (toString text) = escapedSize text := rfl

/-- A number is written in as many bytes as it has digits. -/
@[simp] theorem escapedSize_toString_nat (value : Nat) :
    escapedSize (toString value) = (Nat.toDigits 10 value).length := by
  rw [Nat.toString_eq_ofList_toDigits]
  exact escapedSize_of_plain fun char member =>
    isPlain_of_isDigit (Nat.isDigit_of_mem_toDigits (by decide) (by decide) member)

/-- No character takes more than six bytes in a string. -/
theorem byteCount_escape_le (char : Char) : byteCount (escape char) ≤ 6 := by
  have digits : ∀ digit < 16, (Nat.digitChar digit).utf8Size = 1 := by decide
  unfold escape
  split
  · decide
  · decide
  · decide
  · decide
  · decide
  · decide
  · decide
  · split
    · rename_i control
      have code : char.toNat < 32 := control
      have first := digits (char.toNat / 16) (by omega)
      have second := digits (char.toNat % 16) (by omega)
      have rest : '\\'.utf8Size = 1 ∧ 'u'.utf8Size = 1 ∧ '0'.utf8Size = 1 := by decide
      simp [first, second, rest]
    · have := char.utf8Size_le_four
      simp
      omega

theorem escapedSize_toString_char_le (char : Char) : escapedSize (toString char) ≤ 6 := by
  have single : (toString char).toList = [char] := String.toList_singleton char
  rw [escapedSize, single, List.flatMap_singleton]
  exact byteCount_escape_le char

/-! ## Values -/

theorem byteCount_quoted (text : String) : byteCount (quoted text) = escapedSize text + 2 := by
  have quote : '"'.utf8Size = 1 := by decide
  rw [quoted, byteCount_append, byteCount_cons, byteCount_cons, byteCount_nil, quote, escapedSize]
  omega

@[simp] theorem size_string (text : String) : size (.string text) = escapedSize text + 2 :=
  byteCount_quoted text

/-- A number is written in as many bytes as it has digits. -/
@[simp] theorem size_natural (value : Nat) :
    size (.natural value) = (Nat.toDigits 10 value).length := by
  have digits := byteCount_of_plain fun char member =>
    isPlain_of_isDigit (Nat.isDigit_of_mem_toDigits (b := 10) (n := value) (by decide) (by decide) member)
  rw [← digits]
  simp [size, natural, print, Numeral.print, Numeral.ofNat]

@[simp] theorem size_object (members : List (String × Json String)) :
    size (.object members) = membersSize members + 2 := by
  have braces : '{'.utf8Size = 1 ∧ '}'.utf8Size = 1 := by decide
  rw [size, print, byteCount_append, byteCount_cons, byteCount_cons, byteCount_nil, braces.1,
    braces.2, membersSize]
  omega

@[simp] theorem membersSize_singleton (name : String) (value : Json String) :
    membersSize [(name, value)] = escapedSize name + size value + 3 := by
  have colon : ':'.utf8Size = 1 := by decide
  rw [membersSize, printMembers, byteCount_append, byteCount_cons, byteCount_quoted, colon, size]
  omega

@[simp] theorem membersSize_cons_cons (name : String) (value : Json String)
    (next : String × Json String) (rest : List (String × Json String)) :
    membersSize ((name, value) :: next :: rest) =
      escapedSize name + size value + membersSize (next :: rest) + 4 := by
  have separators : ':'.utf8Size = 1 ∧ ','.utf8Size = 1 := by decide
  rw [membersSize, printMembers, byteCount_append, byteCount_cons, byteCount_append, byteCount_cons,
    byteCount_quoted, separators.1, separators.2, size, membersSize]
  omega

end Cosimulation.Json
