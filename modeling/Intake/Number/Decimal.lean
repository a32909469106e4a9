import Intake.Number.Binary64

set_option autoImplicit false

/-!
# Decimal numerals

A decimal numeral is a sign, a natural and a power of ten. Its binary64 value is the nearest
number, found exactly from the ratio that the numeral denotes.

## Main definitions

* `Decimal` — sign, digits as one natural, exponent of ten.
* `Decimal.toBinary64` — the nearest binary64 number.
* `Decimal.ofChars?` — digits, an optional point and an optional exponent.
* `readFloat?` — a whole text as a number, the spellings of infinity and NaN included.
* `readInt64?`, `readNat?` — a whole text as an integer.
-/

namespace Intake

/-- The number `± digits · 10 ^ exponent`. -/
structure Decimal where
  negative : Bool
  digits : Nat
  exponent : Int
  deriving DecidableEq, Repr

/-- The value of a decimal digit character. -/
def digitValue (c : Char) : Nat := c.toNat - '0'.toNat

/-- The natural that a list of decimal digits writes. -/
def natOfDigits (cs : List Char) : Nat := cs.foldl (fun n c => 10 * n + digitValue c) 0

namespace Decimal

/-- The binary64 number nearest to a numeral. Exponents far outside the format are decided
without computing the power. -/
def toBinary64 (d : Decimal) : Binary64 :=
  let width : Int := (Nat.log2 d.digits : Int) / 3 + 1
  if d.digits = 0 then Binary64.zero d.negative
  else if 400 < d.exponent then Binary64.infinity d.negative
  else if d.exponent + width < -400 then Binary64.zero d.negative
  else if 0 ≤ d.exponent then Binary64.ofRatio d.negative (d.digits * Nat.pow 10 d.exponent.toNat) 1
  else Binary64.ofRatio d.negative d.digits (Nat.pow 10 (-d.exponent).toNat)

/-- Reads digits with an optional point and an optional exponent, at least one digit standing
beside the point. Gives nothing unless the whole list is read. -/
def ofChars? (negative : Bool) (cs : List Char) : Option Decimal :=
  let whole := cs.takeWhile Char.isDigit
  let afterWhole := cs.dropWhile Char.isDigit
  let (fraction, afterFraction) := match afterWhole with
    | '.' :: r => (r.takeWhile Char.isDigit, r.dropWhile Char.isDigit)
    | r => ([], r)
  if whole.isEmpty && fraction.isEmpty then none
  else
    let mantissa := natOfDigits (whole ++ fraction)
    let scale : Int := -(fraction.length : Int)
    match afterFraction with
    | [] => some ⟨negative, mantissa, scale⟩
    | c :: r =>
      if c == 'e' || c == 'E' then
        let (down, ds) := match r with
          | '-' :: ds => (true, ds)
          | '+' :: ds => (false, ds)
          | ds => (false, ds)
        if ds.isEmpty || !ds.all Char.isDigit then none
        else
          let e : Int := natOfDigits ds
          some ⟨negative, mantissa, scale + if down then -e else e⟩
      else none

end Decimal

/-- Splits a leading sign off a text: whether it is a minus, and what follows. -/
def splitSign (cs : List Char) : Bool × List Char :=
  match cs with
  | '-' :: r => (true, r)
  | '+' :: r => (false, r)
  | r => (false, r)

/-- Reads a whole text as a number: a decimal numeral, `inf`, `infinity` or `nan` in any case,
each after an optional sign. -/
def readFloat? (text : List Char) : Option Binary64 :=
  let (negative, body) := splitSign text
  match Decimal.ofChars? negative body with
  | some d => some d.toBinary64
  | none =>
    let word := body.map Char.toLower
    if word = "inf".toList ∨ word = "infinity".toList then some (Binary64.infinity negative)
    else if word = "nan".toList then
      some (if negative then ⟨0xfff8000000000000⟩ else Binary64.nan)
    else none

/-- Reads a whole text of decimal digits as a natural. -/
def readNat? (text : List Char) : Option Nat :=
  if text.isEmpty || !text.all Char.isDigit then none else some (natOfDigits text)

/-- Reads a whole text as an integer with an optional sign. -/
def readInt? (text : List Char) : Option Int :=
  let (negative, body) := splitSign text
  (readNat? body).map fun n => if negative then -(n : Int) else n

/-- The 64-bit integer equal to an integer, if the range holds it. -/
def int64? (n : Int) : Option Int64 :=
  if Int64.minValue.toInt ≤ n ∧ n ≤ Int64.maxValue.toInt then some (Int64.ofInt n) else none

/-- Reads a whole text as a 64-bit integer with an optional sign. -/
def readInt64? (text : List Char) : Option Int64 := (readInt? text).bind int64?

end Intake
