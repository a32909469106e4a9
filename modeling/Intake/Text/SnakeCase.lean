import Intake.Text.LetterCase

set_option autoImplicit false

/-!
# Snake case

The snake case of a name is its lower case with an underscore at every inner word boundary: before
an upper-case letter that follows a lower-case letter or a digit, and before the last letter of a
run of upper-case letters if a lower-case letter follows it.

## Main definitions

* `isBoundary` — whether a word begins at an upper-case letter.
* `snakeCase` — the snake case of a name.
-/

namespace Intake

/-- Whether a word begins at an upper-case letter, given the characters on both sides of it. -/
def isBoundary (previous next : Option Char) : Bool :=
  match previous with
  | none => false
  | some p =>
    if p = '_' then false
    else if isLower p || p.isDigit then true
    else if isUpper p then
      match next with
      | some n => isLower n
      | none => false
    else false

/-- The snake case of the characters of a name, given the character before them. -/
def snakeChars : Option Char → List Char → List Char
  | _, [] => []
  | previous, c :: rest =>
    if isUpper c then
      (if isBoundary previous rest.head? then ['_'] else []) ++ lowerChar c
        ++ snakeChars (some c) rest
    else c :: snakeChars (some c) rest

/-- The snake case of a name. -/
def snakeCase (name : String) : String := String.ofList (snakeChars none name.toList)

end Intake
