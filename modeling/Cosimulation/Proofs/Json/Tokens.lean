import Cosimulation.Json.Parser
/-!
# Reading values off their tokens

A text is read in two steps that have nothing to do with each other: it is taken apart into tokens
(`Lexes`), and the tokens are walked over (`walk_of_lexes`).  This module is about the second step.
`tokens` lists the tokens of a value, and walking over them delivers the value (`walkTokens_tokens`),
so that a text of these tokens is read as that value, whatever blanks and escapes it was written
with (`parse?_of_lexes`).
-/

namespace Cosimulation.Json

set_option autoImplicit false

open Utf8 (Symbol)

/-- A text that is taken apart into tokens. -/
inductive Lexes : List Symbol → List Token → Prop where
  | ended {text : List Symbol} : Token.next text = .ended → Lexes text []
  | token (text : List Symbol) {rest : List Symbol} {token : Token} {tokens : List Token} :
      Token.next text = .token token rest → Lexes rest tokens → Lexes text (token :: tokens)

namespace Stage

/-- The stage behind a row of tokens. -/
def walkTokens (stage : Stage) (tokens : List Token) : Option Stage :=
  tokens.foldlM step stage

@[simp] theorem walkTokens_nil (stage : Stage) : stage.walkTokens [] = some stage := rfl

@[simp] theorem walkTokens_cons (stage : Stage) (token : Token) (tokens : List Token) :
    stage.walkTokens (token :: tokens) =
      (stage.step token).bind fun next => next.walkTokens tokens := rfl

@[simp] theorem walkTokens_append (stage : Stage) (front back : List Token) :
    stage.walkTokens (front ++ back) =
      (stage.walkTokens front).bind fun next => next.walkTokens back := by
  simp [walkTokens]

/-- Walking over a text is walking over its tokens. -/
theorem walk_of_lexes {text : List Symbol} {tokens : List Token} (lexes : Lexes text tokens)
    (stage : Stage) : walk stage text = stage.walkTokens tokens := by
  induction lexes generalizing stage with
  | ended next =>
    rw [walk]
    split
    · rfl
    · rename_i found
      rw [next] at found
      cases found
    · rename_i found
      rw [next] at found
      cases found
  | token _ next _ ih =>
    rw [walk]
    split
    · rename_i found
      rw [next] at found
      cases found
    · rename_i found
      rw [next] at found
      cases found
    · rename_i found
      rw [next] at found
      cases found
      rw [walkTokens_cons]
      split
      · rename_i stepped
        rw [stepped, ih]
        rfl
      · rename_i stuck
        rw [stuck]
        rfl

end Stage

/-! ## The tokens of a value -/

mutual
/-- The tokens of a value. -/
def tokens : Raw → List Token
  | .null => [.null]
  | .boolean value => [.boolean value]
  | .number numeral => [.number numeral]
  | .string text => [.string text]
  | .array items => .openBracket :: itemTokens items ++ [.closeBracket]
  | .object members => .openBrace :: memberTokens members ++ [.closeBrace]

/-- The tokens of the items of an array. -/
def itemTokens : List Raw → List Token
  | [] => []
  | [item] => tokens item
  | item :: next :: rest => tokens item ++ .comma :: itemTokens (next :: rest)

/-- The tokens of the members of an object. -/
def memberTokens : List (Option String × Raw) → List Token
  | [] => []
  | [(name, value)] => .string name :: .colon :: tokens value
  | (name, value) :: next :: rest =>
    .string name :: .colon :: (tokens value ++ .comma :: memberTokens (next :: rest))
end

/-- A value does not begin with the end of an array, so that behind the opening of an array it is
read like any other item. -/
theorem walkTokens_arrayOpened (value : Raw) (around : List Enclosure) (more : List Token) :
    (Stage.arrayOpened around).walkTokens (tokens value ++ more) =
      (Stage.awaitingValue (.array [] :: around)).walkTokens (tokens value ++ more) := by
  cases value <;> rfl

mutual
/-- **Walking over the tokens of a value delivers the value.** -/
theorem walkTokens_tokens (value : Raw) (around : List Enclosure) :
    (Stage.awaitingValue around).walkTokens (tokens value) = some (.deliver value around) := by
  cases value with
  | null => rfl
  | boolean => rfl
  | number => rfl
  | string => rfl
  | array items =>
    cases items with
    | nil => rfl
    | cons item rest =>
      have first : (Stage.arrayOpened around).walkTokens (itemTokens (item :: rest)) =
          (Stage.awaitingValue (.array [] :: around)).walkTokens (itemTokens (item :: rest)) := by
        cases rest with
        | nil => simpa [itemTokens] using walkTokens_arrayOpened item around []
        | cons => exact walkTokens_arrayOpened item around _
      have walked := walkTokens_itemTokens (item :: rest) (by simp) [] around
      simp [tokens, Stage.step, Stage.begin, first, walked]
  | object members =>
    cases members with
    | nil => rfl
    | cons member rest =>
      have first : (Stage.objectOpened around).walkTokens (memberTokens (member :: rest)) =
          (Stage.awaitingName [] around).walkTokens (memberTokens (member :: rest)) := by
        cases rest <;> rfl
      have walked := walkTokens_memberTokens (member :: rest) (by simp) [] around
      simp [tokens, Stage.step, Stage.begin, first, walked]

/-- Walking over items adds them to those before. -/
theorem walkTokens_itemTokens (items : List Raw) (nonempty : items ≠ []) (reversed : List Raw)
    (around : List Enclosure) :
    (Stage.awaitingValue (.array reversed :: around)).walkTokens (itemTokens items) =
      some (.itemEnded (items.reverse ++ reversed) around) := by
  match items, nonempty with
  | [item], _ => exact walkTokens_tokens item _
  | item :: next :: rest, _ =>
    have walked := walkTokens_tokens item (.array reversed :: around)
    have others := walkTokens_itemTokens (next :: rest) (by simp) (item :: reversed) around
    simp [itemTokens, walked, Stage.deliver, Stage.step, others]

/-- Walking over members adds them to those before. -/
theorem walkTokens_memberTokens (members : List (Option String × Raw)) (nonempty : members ≠ [])
    (reversed : List (Option String × Raw)) (around : List Enclosure) :
    (Stage.awaitingName reversed around).walkTokens (memberTokens members) =
      some (.memberEnded (members.reverse ++ reversed) around) := by
  match members, nonempty with
  | [(name, value)], _ =>
    have walked := walkTokens_tokens value (.object reversed name :: around)
    simp [memberTokens, Stage.step, walked, Stage.deliver]
  | (name, value) :: next :: rest, _ =>
    have walked := walkTokens_tokens value (.object reversed name :: around)
    have others := walkTokens_memberTokens (next :: rest) (by simp) ((name, value) :: reversed) around
    simp [memberTokens, walked, Stage.deliver, Stage.step, others]
end

/-- **A text of the tokens of a value is read as that value.** -/
theorem parse?_of_lexes {text : List Symbol} {value : Raw} (lexes : Lexes text (tokens value)) :
    parse? text = some value := by
  rw [parse?, Stage.walk_of_lexes lexes, walkTokens_tokens]
  rfl

end Cosimulation.Json
