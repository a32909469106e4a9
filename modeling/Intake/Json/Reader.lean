import Intake.Json.Tree
import Intake.Number.Decimal

set_option autoImplicit false

/-!
# Reading JSON

A document may nest fewer than 128 arrays and objects inside one another. A text that is not a
document has no reading; the reason is not kept.

## Main definitions

* `Json.readNumber` — a number at the front of a text.
* `Json.readString` — a string at the front of a text, behind its opening quote.
* `Json.readValue` — a document at the front of a text.
* `Json.read?` — a whole text as a document.

## Implementation notes

The value of a float numeral is found in two roundings, not one: its digits, as far as 64 bits
hold them, become the nearest float, and that float is multiplied or divided by the nearest
float to a power of ten. `Json.scale` performs the second step.

The reader of documents takes fuel, of which the length of the text always suffices: a call
consumes a character, or it is the reading of an item that its caller found to begin.
-/

namespace Intake

namespace Json

/-! ### Numbers -/

/-- Ten to a power as a float. -/
def tenTo (n : Nat) : Binary64 := Binary64.ofNat (Nat.pow 10 n)

/-- The product of two finite numbers from zero up, rounded once. -/
def product (x y : Binary64) : Binary64 :=
  Binary64.ofRatio false (x.magnitude * y.magnitude) (Binary64.one * Binary64.one)

/-- The quotient of two finite numbers from zero up, rounded once. -/
def quotient (x y : Binary64) : Binary64 := Binary64.ofRatio false x.magnitude y.magnitude

/-- A float times a power of ten; nothing when the result is beyond the largest number. Powers
below the format's range are reached by repeated division. -/
def scale : Nat → Binary64 → Int → Option Binary64
  | 0, _, _ => some (Binary64.zero false)
  | fuel + 1, x, e =>
    if e.natAbs ≤ 308 then
      if 0 ≤ e then
        let y := product x (tenTo e.toNat)
        if y.isInfinite then none else some y
      else some (quotient x (tenTo e.natAbs))
    else if x.magnitude = 0 then some x
    else if 0 ≤ e then none
    else scale fuel (quotient x (tenTo 308)) (e + 308)

/-- The number of 64-bit digits times a power of ten, with a sign. -/
def floatOf? (negative : Bool) (digits : Nat) (e : Int) : Option Json :=
  (scale 4 (Binary64.ofNat digits) e).map fun x =>
    .float (if negative then ⟨x.bits ||| 0x8000000000000000⟩ else x)

/-- Takes digits into a number of 64 bits, up to the first digit that would not fit: the number,
how many digits were taken, and the rest. -/
def takeDigits : Nat → Nat → List Char → Nat × Nat × List Char
  | n, taken, c :: rest =>
    if c.isDigit then
      let next := 10 * n + digitValue c
      if next < Nat.pow 2 64 then takeDigits next (taken + 1) rest else (n, taken, c :: rest)
    else (n, taken, c :: rest)
  | n, taken, [] => (n, taken, [])

/-- How many digits stand at the front of a text, and what follows them. -/
def skipDigits : List Char → Nat × List Char
  | c :: rest => if c.isDigit then let (n, r) := skipDigits rest; (n + 1, r) else (0, c :: rest)
  | [] => (0, [])

/-- The exponent part of a numeral, behind its letter. -/
def readExponent (negative : Bool) (digits : Nat) (e : Int) (cs : List Char) :
    Option (Json × List Char) :=
  let (down, body) := splitSign cs
  let (width, rest) := skipDigits body
  if width = 0 then none
  else
    let n := natOfDigits (body.take width)
    if Nat.pow 2 31 ≤ n then
      if digits ≠ 0 ∧ ¬ down then none else some (.float (Binary64.zero negative), rest)
    else
      (floatOf? negative digits (if down then e - n else e + n)).map fun j => (j, rest)

/-- What follows the digits of a numeral: an exponent, or the end of it. -/
def readTail (negative : Bool) (digits : Nat) (e : Int) :
    List Char → Option (Json × List Char)
  | 'e' :: rest => readExponent negative digits e rest
  | 'E' :: rest => readExponent negative digits e rest
  | rest => (floatOf? negative digits e).map fun j => (j, rest)

/-- The fraction of a numeral, behind its point. Digits that 64 bits do not hold are dropped. -/
def readFraction (negative : Bool) (digits : Nat) (e : Int) (cs : List Char) :
    Option (Json × List Char) :=
  let (digits', taken, rest) := takeDigits digits 0 cs
  let (dropped, rest') := skipDigits rest
  if taken = 0 ∧ dropped = 0 then none
  else readTail negative digits' (e - taken) rest'

/-- The integer of a numeral without fraction and exponent. A negative zero and integers that 64
bits do not hold are floats. -/
def integer (negative : Bool) (digits : Nat) : Json :=
  if negative then
    if digits = 0 ∨ Nat.pow 2 63 < digits then
      .float (Binary64.ofRatio true digits 1)
    else .signed (Int64.ofInt (-(digits : Int)))
  else .unsigned (UInt64.ofNat digits)

/-- A numeral behind its sign. -/
def readNumber (negative : Bool) (cs : List Char) : Option (Json × List Char) :=
  let (digits, taken, rest) := takeDigits 0 0 cs
  if taken = 0 then none
  else if 1 < taken ∧ cs.head? = some '0' then none
  else
    let (dropped, rest') := skipDigits rest
    match rest' with
    | '.' :: r => readFraction negative digits dropped r
    | 'e' :: r => readExponent negative digits dropped r
    | 'E' :: r => readExponent negative digits dropped r
    | r =>
      if dropped = 0 then some (integer negative digits, r)
      else (floatOf? negative digits dropped).map fun j => (j, r)

/-! ### Strings -/

/-- The value of a hexadecimal digit. -/
def hexValue? (c : Char) : Option Nat :=
  let n := c.toNat
  if 48 ≤ n ∧ n ≤ 57 then some (n - 48)
  else if 97 ≤ n ∧ n ≤ 102 then some (n - 87)
  else if 65 ≤ n ∧ n ≤ 70 then some (n - 55)
  else none

/-- The number that four hexadecimal digits write. -/
def hex4? (a b c d : Char) : Option Nat := do
  let a ← hexValue? a
  let b ← hexValue? b
  let c ← hexValue? c
  let d ← hexValue? d
  return 4096 * a + 256 * b + 16 * c + d

/-- The character that a letter stands for behind a backslash. -/
def simpleEscape? (c : Char) : Option Char :=
  if c = '"' ∨ c = '\\' ∨ c = '/' then some c
  else if c = 'b' then some (Char.ofNat 8)
  else if c = 'f' then some (Char.ofNat 12)
  else if c = 'n' then some '\n'
  else if c = 'r' then some '\r'
  else if c = 't' then some '\t'
  else none

/-- Puts a character in front of the characters of a string that has been read. -/
def consChar (c : Char) (r : Option (List Char × List Char)) : Option (List Char × List Char) :=
  r.map fun p => (c :: p.1, p.2)

/-- The characters of a string up to its closing quote, and what follows the quote. A code unit of
a surrogate pair must stand beside its partner. -/
def readString : List Char → Option (List Char × List Char)
  | [] => none
  | '"' :: rest => some ([], rest)
  | '\\' :: 'u' :: a :: b :: c :: d :: '\\' :: 'u' :: e :: f :: g :: h :: rest =>
    match hex4? a b c d with
    | none => none
    | some high =>
      if 0xD800 ≤ high ∧ high < 0xDC00 then
        match hex4? e f g h with
        | none => none
        | some low =>
          if 0xDC00 ≤ low ∧ low < 0xE000 then
            consChar (Char.ofNat (0x10000 + (high - 0xD800) * 1024 + (low - 0xDC00)))
              (readString rest)
          else none
      else if 0xDC00 ≤ high ∧ high < 0xE000 then none
      else consChar (Char.ofNat high) (readString ('\\' :: 'u' :: e :: f :: g :: h :: rest))
  | '\\' :: 'u' :: a :: b :: c :: d :: rest =>
    match hex4? a b c d with
    | none => none
    | some n =>
      if 0xD800 ≤ n ∧ n < 0xE000 then none else consChar (Char.ofNat n) (readString rest)
  | '\\' :: c :: rest =>
    match simpleEscape? c with
    | none => none
    | some c' => consChar c' (readString rest)
  | c :: rest => if c.toNat < 32 ∨ c = '\\' then none else consChar c (readString rest)

/-! ### Documents -/

/-- Drops the blanks at the front of a text. -/
def skipBlanks : List Char → List Char
  | c :: rest => if c = ' ' ∨ c = '\n' ∨ c = '\t' ∨ c = '\r' then skipBlanks rest else c :: rest
  | [] => []

mutual

/-- A document at the front of a text. The first number is fuel, the second the number of
further arrays and objects that may be entered. -/
def readValue : Nat → Nat → List Char → Option (Json × List Char)
  | 0, _, _ => none
  | fuel + 1, room, cs =>
    match skipBlanks cs with
    | 'n' :: 'u' :: 'l' :: 'l' :: rest => some (.null, rest)
    | 't' :: 'r' :: 'u' :: 'e' :: rest => some (.bool true, rest)
    | 'f' :: 'a' :: 'l' :: 's' :: 'e' :: rest => some (.bool false, rest)
    | '"' :: rest => (readString rest).map fun p => (.string (String.ofList p.1), p.2)
    | '[' :: rest =>
      match room with
      | 0 => none
      | room + 1 =>
        match skipBlanks rest with
        | ']' :: rest => some (.array [], rest)
        | rest => (readItems fuel room rest).map fun p => (.array p.1, p.2)
    | '\x7b' :: rest =>
      match room with
      | 0 => none
      | room + 1 =>
        match skipBlanks rest with
        | '\x7d' :: rest => some (.object [], rest)
        | rest => (readMembers fuel room rest).map fun p => (.object p.1, p.2)
    | '-' :: rest => readNumber true rest
    | rest => readNumber false rest

/-- The items of an array from one that begins here up to the closing bracket. -/
def readItems : Nat → Nat → List Char → Option (List Json × List Char)
  | 0, _, _ => none
  | fuel + 1, room, cs =>
    match readValue fuel room cs with
    | none => none
    | some (j, rest) =>
      match skipBlanks rest with
      | ',' :: rest => (readItems fuel room rest).map fun p => (j :: p.1, p.2)
      | ']' :: rest => some ([j], rest)
      | _ => none

/-- The members of an object from one that begins here up to the closing brace. -/
def readMembers : Nat → Nat → List Char → Option (List (String × Json) × List Char)
  | 0, _, _ => none
  | fuel + 1, room, cs =>
    match skipBlanks cs with
    | '"' :: rest =>
      match readString rest with
      | none => none
      | some (name, rest) =>
        match skipBlanks rest with
        | ':' :: rest =>
          match readValue fuel room rest with
          | none => none
          | some (j, rest) =>
            match skipBlanks rest with
            | ',' :: rest =>
              (readMembers fuel room rest).map fun p => ((String.ofList name, j) :: p.1, p.2)
            | '\x7d' :: rest => some ([(String.ofList name, j)], rest)
            | _ => none
        | _ => none
    | _ => none

end

/-- How many arrays and objects may lie inside one another. -/
def maxDepth : Nat := 127

/-- A whole text as a document. -/
def read? (text : String) : Option Json :=
  let cs := text.toList
  match readValue (2 * cs.length + 2) maxDepth cs with
  | some (j, rest) => if (skipBlanks rest).isEmpty then some j else none
  | none => none

end Json

end Intake
