import Intake.Yaml.Pen
import Intake.Yaml.Scalar
import Intake.Yaml.Tree

set_option autoImplicit false

/-!
# Writing YAML

Collections are written in block style, two spaces a level, and a sequence under a key stands at the
indentation of the key. A string stands bare where that cannot be misread, in single quotes where
it could, as a literal block where it has several lines, and in double quotes where nothing else
will do. A key that is long or has several lines stands behind a question mark.

## Main definitions

* `Yaml.print` — a document, with a line break at its end.
* `Yaml.stringForm` — how a string is written.
-/

namespace Intake

namespace Yaml

/-- How a string is written. -/
inductive StringForm where
  | plain
  | single
  | double
  | literal
  deriving DecidableEq, Repr

/-- Whether a character can only be written by an escape in double quotes. -/
def isSpecial (c : Char) : Bool :=
  let n := c.toNat
  !(n == 10 || (decide (32 ≤ n) && decide (n < 127)) ||
    (decide (0xA0 ≤ n) && n != 0xFEFF && n != 0xFFFE && n != 0xFFFF))

/-- Whether a text holds a mark that would end or change a plain scalar in block style: a colon
before a blank or at the end, or a number sign behind a blank. -/
def hasBlockMark : Bool → List Char → Bool
  | _, [] => false
  | afterBlank, c :: rest =>
    (c == ':' && endsWord rest.head?) || (c == '#' && afterBlank) ||
      hasBlockMark (endsWord (some c)) rest

/-- The characters that no plain scalar begins with. -/
def plainStoppers : List Char :=
  ['#', ',', '[', ']', '\x7b', '\x7d', '&', '*', '!', '|', '>', '\'', '"', '%', '@', '\x60']

/-- Whether a text begins like something other than a plain scalar. -/
def beginsOther (cs : List Char) : Bool :=
  match cs with
  | [] => true
  | c :: rest =>
    plainStoppers.contains c
      || ((c == '-' || c == '?' || c == ':') && endsWord rest.head?)
      || cs.take 3 == ['-', '-', '-'] || cs.take 3 == ['.', '.', '.']

/-- Whether a space stands directly before a line break. -/
def hasSpaceBreak : List Char → Bool
  | c :: d :: rest => (c == ' ' && isBreak d) || hasSpaceBreak (d :: rest)
  | _ => false

/-- Whether a space stands directly behind a line break. -/
def hasBreakSpace : List Char → Bool
  | c :: d :: rest => (isBreak c && d == ' ') || hasBreakSpace (d :: rest)
  | _ => false

/-- Whether a text begins or ends in a space or a line break. -/
def hasLooseEnd (cs : List Char) : Bool :=
  let loose (c? : Option Char) : Bool := c?.any fun c => c == ' ' || isBreak c
  loose cs.head? || loose cs.getLast?

/-- Whether a text may stand in single quotes. -/
def allowsSingle (cs : List Char) : Bool :=
  !(hasBreakSpace cs || hasSpaceBreak cs || cs.any isSpecial)

/-- Whether a text may stand without quotes. -/
def allowsPlain (cs : List Char) : Bool :=
  allowsSingle cs && !(hasLooseEnd cs || cs.any isBreak || beginsOther cs || hasBlockMark true cs)

/-- Whether a text may stand as a literal block. -/
def allowsLiteral (cs : List Char) : Bool :=
  !(cs.isEmpty || cs.getLast? == some ' ' || hasSpaceBreak cs || cs.any isSpecial)

/-- How a string is written. Texts with a line feed are literal blocks and those that would be
read as something else are in quotes, as far as that is possible, unless a key has to stand on
one line. -/
def stringForm (asKey : Bool) (s : String) : StringForm :=
  let cs := s.toList
  let quoted := if allowsSingle cs then StringForm.single else .double
  if asKey && cs.any isBreak then .double
  else if cs.contains '\n' then if allowsLiteral cs && !asKey then .literal else .double
  else if readsAsText s && allowsPlain cs then .plain
  else quoted

/-- A character in double quotes. -/
def doubleChar (c : Char) : List Char :=
  let n := c.toNat
  if c = '"' then ['\\', '"']
  else if c = '\\' then ['\\', '\\']
  else if n = 0 then ['\\', '0']
  else if n = 7 then ['\\', 'a']
  else if n = 8 then ['\\', 'b']
  else if n = 9 then ['\\', 't']
  else if n = 10 then ['\\', 'n']
  else if n = 11 then ['\\', 'v']
  else if n = 12 then ['\\', 'f']
  else if n = 13 then ['\\', 'r']
  else if n = 27 then ['\\', 'e']
  else if n = 0x85 then ['\\', 'N']
  else if n = 0x2028 then ['\\', 'L']
  else if n = 0x2029 then ['\\', 'P']
  else if isSpecial c then
    let digits := (Nat.toDigits 16 n).map Char.toUpper
    let pad (width : Nat) := List.replicate (width - digits.length) '0' ++ digits
    if n < 0x100 then '\\' :: 'x' :: pad 2
    else if n < 0x10000 then '\\' :: 'u' :: pad 4
    else '\\' :: 'U' :: pad 8
  else [c]

/-! ### Scalars -/

/-- Writes a text without quotes. -/
def Pen.plain (p : Pen) (cs : List Char) : Pen :=
  { p.leaveBlank.putAll cs with afterBlank := false, indenting := false }

/-- Writes a text in double quotes. -/
def Pen.double (p : Pen) (cs : List Char) : Pen :=
  ((p.mark ['"'] false).putAll (cs.flatMap doubleChar)).markClose ['"']

/-- Writes the characters of a text in single quotes, given whether the last one broke the line. The
first of several line feeds is written twice, since it stands for a space otherwise. -/
def Pen.singleChars (column : Nat) : Bool → List Char → Pen → Pen
  | broken, [], p => if broken then p.indentTo column else p
  | broken, c :: rest, p =>
    if isBreak c then
      let p := if !broken && c == '\n' then p.breakWith '\n' else p
      singleChars column true rest { p.breakWith c with indenting := true }
    else
      let p := if broken then p.indentTo column else p
      let p := (p.putAll (if c = '\'' then ['\'', '\''] else [c]))
      singleChars column false rest (if c = ' ' then p else { p with indenting := false })

/-- Writes a text in single quotes, its lines set in up to a column. -/
def Pen.single (p : Pen) (column : Nat) (cs : List Char) : Pen :=
  (Pen.singleChars column false cs (p.mark ['\''] false)).markClose ['\'']

/-- The header of a literal block: a mark for the indentation where the text begins with a space or
a line break, and one for the line breaks at its end. -/
def literalHeader (cs : List Char) : List Char :=
  let hint := if cs.head?.any fun c => c == ' ' || isBreak c then ['2'] else []
  let chomp := match cs.reverse with
    | [] => ['-']
    | [last] => if isBreak last then ['+'] else ['-']
    | last :: before :: _ =>
      if !isBreak last then ['-'] else if isBreak before then ['+'] else []
  '|' :: (hint ++ chomp)

/-- Writes the characters of a literal block, given whether the last one broke the line. -/
def Pen.literalChars (column : Nat) : Bool → List Char → Pen → Pen
  | _, [], p => p
  | broken, c :: rest, p =>
    if isBreak c then literalChars column true rest { p.breakWith c with indenting := true }
    else
      let p := if broken then p.indentTo column else p
      literalChars column false rest { p.put c with indenting := false }

/-- Writes a text as a literal block, its lines set in up to a column. -/
def Pen.literal (p : Pen) (column : Nat) (cs : List Char) : Pen :=
  let p := (p.mark (literalHeader cs) false).breakWith '\n'
  Pen.literalChars column true cs { p with afterBlank := true, indenting := true }

/-- Writes a string, which may have to stand on one line, its further lines set in up to a
column. -/
def Pen.string (p : Pen) (asKey : Bool) (column : Nat) (s : String) : Pen :=
  match stringForm asKey s with
  | .plain => p.plain s.toList
  | .single => p.single column s.toList
  | .double => p.double s.toList
  | .literal => p.literal column s.toList

/-! ### Collections -/

/-- Whether a node may stand as a key in front of its colon: on one line and not long. -/
def isShortKey : Yaml → Bool
  | .string s => !s.toList.any isBreak && decide (s.utf8ByteSize ≤ 128)
  | .sequence items => items.isEmpty
  | .mapping entries => entries.isEmpty
  | .tagged _ _ => false
  | _ => true

/-- The column of what is set in one step deeper; nothing is set in yet around the whole
document. -/
def deeper (column : Option Nat) (first : Nat) : Nat := (column.map (· + 2)).getD first

mutual

/-- Writes a node in a collection that is set in up to a column, if it is in one. A sequence in a
mapping that begins on a new line is not set in. -/
def write (inMapping asKey : Bool) (column : Option Nat) : Yaml → Pen → Pen
  | .null, p => p.plain ['n', 'u', 'l', 'l']
  | .bool b, p => p.plain (if b then "true" else "false").toList
  | .unsigned n, p => p.plain (natChars n.toNat)
  | .signed n, p => p.plain (intChars n.toInt)
  | .float x, p => p.plain (FloatStyle.yaml.write x).toList
  | .string s, p => p.string asKey (deeper column 2) s
  | .sequence [], p => (p.mark ['['] false).markClose [']']
  | .sequence (first :: rest), p =>
    let own := if inMapping && !p.indenting then column.getD 0 else deeper column 0
    writeItems own (first :: rest) p
  | .mapping [], p => (p.mark ['\x7b'] false).markClose ['\x7d']
  | .mapping (first :: rest), p => writeEntries (deeper column 0) (first :: rest) p
  | .tagged tag node, p => write inMapping asKey column node (p.mark tag.toList false)
termination_by structural y => y

/-- Writes the items of a sequence, each behind a dash in a column. -/
def writeItems (column : Nat) : List Yaml → Pen → Pen
  | [], p => p
  | y :: rest, p =>
    let p := (p.indentTo column).mark ['-'] true
    writeItems column rest (write false false (some column) y p)
termination_by structural items => items

/-- Writes the entries of a mapping, each key in a column. -/
def writeEntries (column : Nat) : List (Yaml × Yaml) → Pen → Pen
  | [], p => p
  | (key, value) :: rest, p =>
    let short := isShortKey key
    let p := p.indentTo column
    let p := if short then p else p.mark ['?'] true
    let p := write true short (some column) key p
    let p := if short then p.markClose [':'] else (p.indentTo column).mark [':'] true
    writeEntries column rest (write true false (some column) value p)
termination_by structural entries => entries

end

/-- A document, with a line break at its end. -/
def print (y : Yaml) : String := ((write false false none y .start).indentTo 0).text

end Yaml

end Intake
