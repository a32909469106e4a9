set_option autoImplicit false

/-!
# Places in a YAML text

A reader of YAML has to know where it stands: indentation is a column, a key ends on the line on
which it begins, and it is at most so many bytes long.

## Main definitions

* `Yaml.Mark` — how many bytes lie before a place, and its line and column.
* `Yaml.Cursor` — a place together with the text behind it.
* `Yaml.isBreak`, `Yaml.isGap`, `Yaml.endsWord` — the characters between words.
* `Yaml.mayOccur` — the characters that a document may be made of.
-/

namespace Intake

namespace Yaml

/-! ### Characters -/

/-- Whether a character breaks a line. -/
def isBreak (c : Char) : Bool :=
  c == '\n' || c == '\r' || c.toNat == 0x85 || c.toNat == 0x2028 || c.toNat == 0x2029

/-- Whether a character is a space or a tab. -/
def isGap (c : Char) : Bool := c == ' ' || c == '\t'

/-- Whether a word ends before a character, or before the end of the text. -/
def endsWord : Option Char → Bool
  | none => true
  | some c => isGap c || isBreak c

/-- Whether a line ends before a character, or before the end of the text. -/
def endsLine : Option Char → Bool
  | none => true
  | some c => isBreak c

/-- Whether a character may stand in the name of an anchor or a handle. -/
def isNameChar (c : Char) : Bool := c.isAlphanum || c == '_' || c == '-'

/-- Whether a character may occur in a document. Control characters other than tabs and line breaks
may not, nor may the two code points at the end of the first plane that are no characters. -/
def mayOccur (c : Char) : Bool :=
  let n := c.toNat
  n == 9 || n == 10 || n == 13 || (decide (0x20 ≤ n) && decide (n ≤ 0x7E)) || n == 0x85 ||
    (decide (0xA0 ≤ n) && n != 0xFFFE && n != 0xFFFF)

/-- What a line break is read as: the two separators of Unicode stay, all others are line feeds. -/
def readBreak (c : Char) : Char := if c.toNat = 0x2028 ∨ c.toNat = 0x2029 then c else '\n'

/-! ### Places -/

/-- How many bytes lie before a place, and its line and column, from zero. -/
structure Mark where
  index : Nat
  line : Nat
  column : Nat
  deriving Repr

namespace Mark

/-- The place behind a character of the same line. -/
def pass (m : Mark) (c : Char) : Mark := ⟨m.index + c.utf8Size, m.line, m.column + 1⟩

/-- The place behind some ASCII characters of the same line. -/
def along (m : Mark) (count : Nat) : Mark := ⟨m.index + count, m.line, m.column + count⟩

/-- The place behind a line break of so many bytes. -/
def nextLine (m : Mark) (count : Nat) : Mark := ⟨m.index + count, m.line + 1, 0⟩

end Mark

/-- A place in a text together with the text behind it. -/
structure Cursor where
  rest : List Char
  mark : Mark
  deriving Repr

namespace Cursor

/-- The beginning of a text. -/
def start (text : List Char) : Cursor := ⟨text, ⟨0, 0, 0⟩⟩

/-- The column of a place. -/
def column (c : Cursor) : Nat := c.mark.column

/-- The character so many characters behind a place. -/
def peek? (c : Cursor) (count : Nat) : Option Char := c.rest[count]?

/-- Whether a place lies before a character. -/
def sees (c : Cursor) (x : Char) : Bool := c.peek? 0 == some x

/-- The place behind some more characters of the same line. -/
def skip (c : Cursor) (count : Nat) : Cursor :=
  ⟨c.rest.drop count, (c.rest.take count).foldl Mark.pass c.mark⟩

/-- The characters of the same line that satisfy a condition, and the place behind them. -/
def takeWhile (c : Cursor) (holds : Char → Bool) : List Char × Cursor :=
  let taken := c.rest.takeWhile holds
  (taken, c.skip taken.length)

/-- The place behind the characters of the same line that satisfy a condition. -/
def skipWhile (c : Cursor) (holds : Char → Bool) : Cursor := (c.takeWhile holds).2

/-- The line break at a place, as it is read, and the place behind it. A carriage return and a line
feed are one break. -/
def takeBreak (c : Cursor) : List Char × Cursor :=
  match c.rest with
  | '\r' :: '\n' :: rest => (['\n'], ⟨rest, c.mark.nextLine 2⟩)
  | x :: rest =>
    if isBreak x then ([readBreak x], ⟨rest, c.mark.nextLine x.utf8Size⟩) else ([], c)
  | [] => ([], c)

/-- The place behind the spaces, the comment and the line break at a place; nothing if something
else stands on the line. -/
def skipLineEnd? (c : Cursor) : Option Cursor :=
  let c := c.skipWhile isGap
  let c := if c.sees '#' then c.skipWhile (fun x => !isBreak x) else c
  if endsLine (c.peek? 0) then some c.takeBreak.2 else none

/-- Whether three marks of a kind stand alone at the front of the line. -/
def seesTriple (c : Cursor) (x : Char) : Bool :=
  c.column == 0 && c.rest.take 3 == [x, x, x] && endsWord (c.peek? 3)

/-- Whether a mark that begins or ends a document stands at the front of the line. -/
def seesDocumentMark (c : Cursor) : Bool := c.seesTriple '-' || c.seesTriple '.'

end Cursor

end Yaml

end Intake
