/-!
# White space and letter case

Values given on the command line may be padded with any Unicode white space and may be written in
either ASCII case.  The table below is the Unicode property `White_Space`; it is larger than the
class of blanks that may stand between two tokens of a JSON text.
-/

namespace Cosimulation.Text

set_option autoImplicit false

/-- Membership in the Unicode property `White_Space`. -/
def isBlank (char : Char) : Bool :=
  ('\t' ≤ char && char ≤ '\r') || char = ' ' || char = '\u0085' || char = '\u00a0'
    || char = '\u1680' || ('\u2000' ≤ char && char ≤ '\u200a') || char = '\u2028'
    || char = '\u2029' || char = '\u202f' || char = '\u205f' || char = '\u3000'

/-- A text without the blanks at its two ends. -/
def trim (text : String) : String :=
  String.ofList ((text.toList.dropWhile isBlank).reverse.dropWhile isBlank).reverse

/-- A text with its ASCII capitals made small; every other character stays as it is. -/
def lowercase (text : String) : String :=
  String.ofList (text.toList.map Char.toLower)

end Cosimulation.Text
