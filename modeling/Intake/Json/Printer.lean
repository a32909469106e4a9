import Intake.Json.Tree
import Intake.Number.FloatText

set_option autoImplicit false

/-!
# Writing JSON

## Main definitions

* `Json.escape` — the characters between the quotes of a string.
* `Json.compact` — a document without blanks.
* `Json.pretty` — a document over several lines, indented by two spaces a level.
-/

namespace Intake

/-- The lower-case hexadecimal digit of a number below sixteen. -/
def hexDigit (n : Nat) : Char :=
  if n < 10 then Char.ofNat ('0'.toNat + n) else Char.ofNat ('a'.toNat + (n - 10))

/-- The decimal digits of a natural. -/
def natChars (n : Nat) : List Char := (Nat.repr n).toList

/-- The decimal digits of an integer, after a minus sign if it is negative. -/
def intChars (n : Int) : List Char := if n < 0 then '-' :: natChars n.natAbs else natChars n.natAbs

namespace Json

/-- A character of a string: quotes, backslashes and control characters are escaped. -/
def escapeChar (c : Char) : List Char :=
  if c = '"' then ['\\', '"']
  else if c = '\\' then ['\\', '\\']
  else if c = '\n' then ['\\', 'n']
  else if c = '\r' then ['\\', 'r']
  else if c = '\t' then ['\\', 't']
  else if c.toNat = 8 then ['\\', 'b']
  else if c.toNat = 12 then ['\\', 'f']
  else if c.toNat < 32 then
    ['\\', 'u', '0', '0', hexDigit (c.toNat / 16), hexDigit (c.toNat % 16)]
  else [c]

/-- The characters of a string between its quotes. -/
def escape (cs : List Char) : List Char := cs.flatMap escapeChar

/-- A string in quotes. -/
def quote (s : String) : List Char := '"' :: (escape s.toList ++ ['"'])

/-- A float; JSON has no text for infinities and NaN, which are written as null. -/
def floatChars (x : Binary64) : List Char :=
  if x.isFinite then (FloatStyle.json.write x).toList else ['n', 'u', 'l', 'l']

/-- A document that is neither an array nor an object. -/
def scalarChars : Json → List Char
  | .bool true => ['t', 'r', 'u', 'e']
  | .bool false => ['f', 'a', 'l', 's', 'e']
  | .unsigned n => natChars n.toNat
  | .signed n => intChars n.toInt
  | .float x => floatChars x
  | .string s => quote s
  | _ => ['n', 'u', 'l', 'l']

mutual

/-- A document without blanks. -/
def compactChars : Json → List Char
  | .array [] => ['[', ']']
  | .array (j :: rest) => '[' :: (compactChars j ++ compactItems rest)
  | .object [] => ['\x7b', '\x7d']
  | .object ((k, j) :: rest) =>
    '\x7b' :: (quote k ++ ':' :: (compactChars j ++ compactMembers rest))
  | other => scalarChars other
termination_by structural j => j

/-- The items after the first, each behind a comma, and the closing bracket. -/
def compactItems : List Json → List Char
  | [] => [']']
  | j :: rest => ',' :: (compactChars j ++ compactItems rest)
termination_by structural items => items

/-- The members after the first, each behind a comma, and the closing brace. -/
def compactMembers : List (String × Json) → List Char
  | [] => ['\x7d']
  | (k, j) :: rest => ',' :: (quote k ++ ':' :: (compactChars j ++ compactMembers rest))
termination_by structural members => members

end

/-- A line break and the indentation of a level. -/
def newline (level : Nat) : List Char := '\n' :: List.replicate (2 * level) ' '

mutual

/-- A document over several lines, itself standing at an indentation level. -/
def prettyChars (level : Nat) : Json → List Char
  | .array [] => ['[', ']']
  | .array (j :: rest) =>
    '[' :: (newline (level + 1) ++ prettyChars (level + 1) j ++ prettyItems level rest)
  | .object [] => ['\x7b', '\x7d']
  | .object ((k, j) :: rest) =>
    '\x7b' :: (newline (level + 1) ++ quote k ++ ':' :: ' ' :: prettyChars (level + 1) j
      ++ prettyMembers level rest)
  | other => scalarChars other
termination_by structural j => j

/-- The items after the first, each on a line of its own, and the closing bracket. -/
def prettyItems (level : Nat) : List Json → List Char
  | [] => newline level ++ [']']
  | j :: rest =>
    ',' :: (newline (level + 1) ++ prettyChars (level + 1) j ++ prettyItems level rest)
termination_by structural items => items

/-- The members after the first, each on a line of its own, and the closing brace. -/
def prettyMembers (level : Nat) : List (String × Json) → List Char
  | [] => newline level ++ ['\x7d']
  | (k, j) :: rest =>
    ',' :: (newline (level + 1) ++ quote k ++ ':' :: ' ' :: prettyChars (level + 1) j
      ++ prettyMembers level rest)
termination_by structural members => members

end

/-- A document without blanks. -/
def compact (j : Json) : String := String.ofList j.compactChars

/-- A document over several lines, indented by two spaces a level. -/
def pretty (j : Json) : String := String.ofList (j.prettyChars 0)

end Json

end Intake
