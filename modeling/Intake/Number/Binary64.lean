set_option autoImplicit false

/-!
# Binary floating-point numbers

Numbers with a fraction are IEEE-754 binary64 words, and every operation on them is exact
arithmetic on integers. A finite number is a whole number of *units* of `2 ^ -1074`, the least
positive number of the format, so comparing two numbers compares two integers and a number is
integral when its units are a multiple of `2 ^ 1074`.

## Main definitions

* `Binary64` — a binary64 word.
* `Binary64.units` — a finite number as a count of units.
* `Binary64.rank?` — the place of a number in the order of the extended line; `none` for NaN.
* `Binary64.equal`, `Binary64.lt`, `Binary64.le` — the IEEE comparisons.
* `Binary64.ofRatio` — the number nearest to a ratio of naturals, ties to even.
* `Binary64.integral?`, `Binary64.trunc`, `Binary64.toInt64` — the ways to an integer.

## Implementation notes

The word of the finite number `m · 2 ^ (e - 1074)` with `m < 2 ^ 53` is `e · 2 ^ 52 + m` for a
normal `m` and `m` for a subnormal one (where `e = 0`), so the two cases share the sum
`e · 2 ^ 52 + m`. A significand that rounds up to `2 ^ 53` carries into the exponent field by
the same sum.
-/

namespace Intake

/-- A binary64 word: one sign bit, eleven exponent bits and fifty-two fraction bits. -/
structure Binary64 where
  bits : UInt64
  deriving DecidableEq, Repr, Inhabited

/-- The natural number nearest to `num / den`, ties to the even neighbour. -/
def roundHalfEven (num den : Nat) : Nat :=
  let q := num / den
  let twice := 2 * (num % den)
  if twice < den then q
  else if den < twice then q + 1
  else q + q % 2

namespace Binary64

/-! ### Fields of the word -/

/-- The sign bit. -/
def negative (x : Binary64) : Bool := x.bits.toNat / Nat.pow 2 63 == 1

/-- The biased exponent. -/
def exponentField (x : Binary64) : Nat := x.bits.toNat / Nat.pow 2 52 % Nat.pow 2 11

/-- The fraction bits. -/
def fractionField (x : Binary64) : Nat := x.bits.toNat % Nat.pow 2 52

/-- Whether the word encodes no number. -/
def isNaN (x : Binary64) : Bool := x.exponentField == 2047 && x.fractionField != 0

/-- Whether the word encodes one of the two infinities. -/
def isInfinite (x : Binary64) : Bool := x.exponentField == 2047 && x.fractionField == 0

/-- Whether the word encodes a number of the real line. -/
def isFinite (x : Binary64) : Bool := x.exponentField != 2047

/-- The significand of a finite number, hidden bit included. -/
def significand (x : Binary64) : Nat :=
  if x.exponentField = 0 then x.fractionField else Nat.pow 2 52 + x.fractionField

/-- The power of two that scales the significand, counted from the least one, `2 ^ -1074`. -/
def shift (x : Binary64) : Nat := x.exponentField - 1

/-! ### The value -/

/-- The absolute value of a finite number in units of `2 ^ -1074`. -/
def magnitude (x : Binary64) : Nat := x.significand * Nat.pow 2 x.shift

/-- A finite number in units of `2 ^ -1074`. -/
def units (x : Binary64) : Int := if x.negative then -(x.magnitude : Int) else x.magnitude

/-- The number one in units of `2 ^ -1074`. -/
def one : Nat := Nat.pow 2 1074

/-- The place of a number in the order of the extended line: its units when it is finite, a
bound beyond all units when it is infinite. NaN has no place. -/
def rank? (x : Binary64) : Option Int :=
  if x.isNaN then none
  else if x.isInfinite then some (if x.negative then -(Nat.pow 2 2100 : Int) else Nat.pow 2 2100)
  else some x.units

/-- Equality of numbers: both zeros are equal and NaN equals nothing. -/
def equal (x y : Binary64) : Bool :=
  match x.rank?, y.rank? with
  | some a, some b => a == b
  | _, _ => false

/-- Strict order of numbers, false as soon as one side is NaN. -/
def lt (x y : Binary64) : Bool :=
  match x.rank?, y.rank? with
  | some a, some b => decide (a < b)
  | _, _ => false

/-- Order of numbers, false as soon as one side is NaN. -/
def le (x y : Binary64) : Bool :=
  match x.rank?, y.rank? with
  | some a, some b => decide (a ≤ b)
  | _, _ => false

/-! ### Building a word -/

/-- The infinity of a sign. -/
def infinity (negative : Bool) : Binary64 :=
  ⟨if negative then 0xfff0000000000000 else 0x7ff0000000000000⟩

/-- The NaN that reading a text gives. -/
def nan : Binary64 := ⟨0x7ff8000000000000⟩

/-- The zero of a sign. -/
def zero (negative : Bool) : Binary64 := ⟨if negative then 0x8000000000000000 else 0⟩

/-- The word of a sign and a magnitude field; a field at or beyond the infinite exponent is
the infinity. -/
def ofField (negative : Bool) (field : Nat) : Binary64 :=
  if 2047 * Nat.pow 2 52 ≤ field then infinity negative
  else ⟨UInt64.ofNat (if negative then Nat.pow 2 63 + field else field)⟩

/-- The largest `e` with `2 ^ e ≤ num / den`, for positive `num` and `den`. -/
def binaryExponent (num den : Nat) : Int :=
  let guess : Int := (num.log2 : Int) - den.log2
  let fits := if 0 ≤ guess then decide (den * Nat.pow 2 guess.toNat ≤ num)
    else decide (den ≤ num * Nat.pow 2 (-guess).toNat)
  if fits then guess else guess - 1

/-- The number nearest to `num / den`, ties to the even significand. Beyond the largest finite
number by half its last place or more, the result is infinite. -/
def ofRatio (negative : Bool) (num den : Nat) : Binary64 :=
  if num = 0 then zero negative
  else
    let e := max (binaryExponent num den - 52) (-1074)
    let m := if 0 ≤ e then roundHalfEven num (den * Nat.pow 2 e.toNat)
      else roundHalfEven (num * Nat.pow 2 (-e).toNat) den
    ofField negative ((e + 1074).toNat * Nat.pow 2 52 + m)

/-- The number nearest to an integer. -/
def ofInt (n : Int) : Binary64 := ofRatio (decide (n < 0)) n.natAbs 1

/-- The number nearest to a natural. -/
def ofNat (n : Nat) : Binary64 := ofRatio false n 1

/-- The number that a binary32 word encodes; every such number is a binary64 number. -/
def ofBinary32 (word : UInt32) : Binary64 :=
  let negative := word.toNat / Nat.pow 2 31 == 1
  let e := word.toNat / Nat.pow 2 23 % Nat.pow 2 8
  let f := word.toNat % Nat.pow 2 23
  if e = 255 then (if f = 0 then infinity negative else nan)
  else if e = 0 then ofRatio negative f (Nat.pow 2 149)
  else ofRatio negative ((Nat.pow 2 23 + f) * Nat.pow 2 e) (Nat.pow 2 150)

/-! ### Ways to an integer -/

/-- The integer that a finite number is, if it is one. -/
def integral? (x : Binary64) : Option Int :=
  if x.isFinite && x.magnitude % one == 0 then
    some (if x.negative then -((x.magnitude / one : Nat) : Int) else (x.magnitude / one : Nat))
  else none

/-- The integer part of a finite number, rounded toward zero. -/
def trunc (x : Binary64) : Int :=
  if x.negative then -((x.magnitude / one : Nat) : Int) else (x.magnitude / one : Nat)

/-- The integer nearest to a number within 64 bits, rounded toward zero: numbers beyond the range
give the end of the range on their side, and NaN gives zero. -/
def toInt64 (x : Binary64) : Int64 :=
  if x.isNaN then 0
  else if x.isInfinite then (if x.negative then Int64.minValue else Int64.maxValue)
  else Int64.ofInt (max Int64.minValue.toInt (min Int64.maxValue.toInt x.trunc))

end Binary64

end Intake
