import Intake.Yaml.Scalar.Fold

set_option autoImplicit false

/-!
# Quoted scalars

In single quotes every character stands for itself and the quote is written twice. In double quotes
a backslash begins an escape, and one before the end of a line takes the line break away.

## Main definitions

* `Yaml.escaped?` — the character that a letter behind a backslash stands for.
* `Yaml.takeQuoted` — the text of a quoted scalar.
-/

namespace Intake

namespace Yaml

/-- The character that a letter behind a backslash stands for. -/
def escaped? (c : Char) : Option Char :=
  match c with
  | '0' => some (Char.ofNat 0)
  | 'a' => some (Char.ofNat 7)
  | 'b' => some (Char.ofNat 8)
  | 't' => some '\t'
  | '\t' => some '\t'
  | 'n' => some '\n'
  | 'v' => some (Char.ofNat 11)
  | 'f' => some (Char.ofNat 12)
  | 'r' => some '\r'
  | 'e' => some (Char.ofNat 27)
  | ' ' => some ' '
  | '"' => some '"'
  | '/' => some '/'
  | '\\' => some '\\'
  | 'N' => some (Char.ofNat 0x85)
  | '_' => some (Char.ofNat 0xA0)
  | 'L' => some (Char.ofNat 0x2028)
  | 'P' => some (Char.ofNat 0x2029)
  | _ => none

/-- The value of a hexadecimal digit. -/
def hexDigit? (c : Char) : Option Nat :=
  let n := c.toNat
  if c.isDigit then some (n - 48)
  else if 97 ≤ n ∧ n ≤ 102 then some (n - 87)
  else if 65 ≤ n ∧ n ≤ 70 then some (n - 55)
  else none

/-- The natural that hexadecimal digits write. -/
def hexNumber? (cs : List Char) : Option Nat :=
  cs.foldl (fun n? c => n?.bind fun n => (hexDigit? c).map (16 * n + ·)) (some 0)

/-- The character of a code point, unless it is half of a surrogate pair or out of range. -/
def charOfPoint? (n : Nat) : Option Char :=
  if (0xD800 ≤ n ∧ n < 0xE000) ∨ 0x110000 ≤ n then none else some (Char.ofNat n)

/-- A word of a quoted scalar: its characters, whether an escape took away the line break behind it,
and the place where it ends. -/
structure QuotedWord where
  text : List Char
  joinsLines : Bool
  behind : Cursor

/-- A word with one more character in front. -/
def QuotedWord.cons (c : Char) (w : QuotedWord) : QuotedWord := { w with text := c :: w.text }

/-- The word of a single-quoted scalar at a place. -/
def takeSingleWord : Mark → List Char → QuotedWord
  | m, '\'' :: '\'' :: rest => (takeSingleWord (m.along 2) rest).cons '\''
  | m, c :: rest =>
    if c = '\'' ∨ endsWord (some c) then ⟨[], false, ⟨c :: rest, m⟩⟩
    else (takeSingleWord (m.pass c) rest).cons c
  | m, [] => ⟨[], false, ⟨[], m⟩⟩

/-- The word of a double-quoted scalar at a place; nothing if an escape has no meaning. -/
def takeDoubleWord : Mark → List Char → Option QuotedWord
  | m, '\\' :: 'x' :: a :: b :: rest =>
    match (hexNumber? [a, b]).bind charOfPoint? with
    | some x => (takeDoubleWord (m.along 4) rest).map (·.cons x)
    | none => none
  | m, '\\' :: 'u' :: a :: b :: c :: d :: rest =>
    match (hexNumber? [a, b, c, d]).bind charOfPoint? with
    | some x => (takeDoubleWord (m.along 6) rest).map (·.cons x)
    | none => none
  | m, '\\' :: 'U' :: a :: b :: c :: d :: e :: f :: g :: h :: rest =>
    match (hexNumber? [a, b, c, d, e, f, g, h]).bind charOfPoint? with
    | some x => (takeDoubleWord (m.along 10) rest).map (·.cons x)
    | none => none
  | m, '\\' :: c :: rest =>
    if isBreak c then some ⟨[], true, (Cursor.takeBreak ⟨c :: rest, m.along 1⟩).2⟩
    else
      match escaped? c with
      | some x => (takeDoubleWord (m.along 2) rest).map (·.cons x)
      | none => none
  | m, c :: rest =>
    if c = '\\' then none
    else if c = '"' ∨ endsWord (some c) then some ⟨[], false, ⟨c :: rest, m⟩⟩
    else (takeDoubleWord (m.pass c) rest).map (·.cons c)
  | m, [] => some ⟨[], false, ⟨[], m⟩⟩

/-- The words and gaps of a quoted scalar up to its closing quote. -/
def takeQuotedWords (quote : Char) : Nat → Cursor → Option (List Char × Cursor)
  | 0, _ => none
  | fuel + 1, c =>
    if c.seesDocumentMark || c.rest.isEmpty then none
    else
      let word? := if quote = '"' then takeDoubleWord c.mark c.rest
        else some (takeSingleWord c.mark c.rest)
      match word? with
      | none => none
      | some word =>
        if word.behind.sees quote then some (word.text, word.behind.skip 1)
        else
          let gap := if word.joinsLines then Gap.breaks [] [] else Gap.blanks []
          match takeGap 0 gap word.behind.mark word.behind.rest with
          | none => none
          | some (gap, c) =>
            (takeQuotedWords quote fuel c).map fun p => (word.text ++ gap.fold ++ p.1, p.2)

/-- The text of a quoted scalar whose opening quote stands at a place, and the place behind it.
Every round takes a character, so the length of the text is fuel enough. -/
def takeQuoted (c : Cursor) : Option (List Char × Cursor) :=
  match c.rest with
  | quote :: rest => takeQuotedWords quote (rest.length + 1) (c.skip 1)
  | [] => none

end Yaml

end Intake
