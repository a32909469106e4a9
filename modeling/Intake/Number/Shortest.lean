import Intake.Number.Binary64

set_option autoImplicit false

/-!
# The fewest digits that read back

The text of a binary64 number uses the fewest decimal digits that still lie within the interval
of reals that round to the number, and of two such decimals the nearer one. Both ends of the
interval belong to it exactly when the significand is even.

## Main definitions

* `Tie` — which of two equally near decimals is taken.
* `Binary64.roundsTo` — whether a decimal lies in the interval of a number.
* `Binary64.shortest` — digits and exponent of the text of a positive finite number.

## Implementation notes

On the grid of decimals with `n` digits the two neighbours of the number are tested in exact
natural arithmetic, for `n = 1, 2, …, 17`; the first grid with a hit wins. If any point of a
grid lies in the interval then so does one of the two neighbours, so no shorter decimal is
missed, and seventeen digits always suffice.
-/

namespace Intake

/-- Which of two decimals at equal distance from a number is written. -/
inductive Tie where
  /-- The decimal whose last digit is even. -/
  | toEven
  /-- The decimal of larger magnitude. -/
  | up
  deriving DecidableEq, Repr

/-- The comparison of `a · 10 ^ e` with `b / c`, for a positive `c`. -/
def compareScaled (a : Nat) (e : Int) (b c : Nat) : Ordering :=
  if 0 ≤ e then compare (a * Nat.pow 10 e.toNat * c) b
  else compare (a * c) (b * Nat.pow 10 (-e).toNat)

/-- The floor of `b / c / 10 ^ e`, for a positive `c`. -/
def floorScaled (e : Int) (b c : Nat) : Nat :=
  if 0 ≤ e then b / (c * Nat.pow 10 e.toNat) else b * Nat.pow 10 (-e).toNat / c

/-- A decimal without trailing zeros: a zero at the end moves into the exponent. -/
def stripZeros : Nat → Nat → Int → Nat × Int
  | 0, digits, e => (digits, e)
  | fuel + 1, digits, e =>
    if digits ≠ 0 ∧ digits % 10 = 0 then stripZeros fuel (digits / 10) (e + 1) else (digits, e)

namespace Binary64

/-- The distance from a finite number down to the lower end of its interval, in quarters of its
last place: half a place, or a quarter where the next smaller number is twice as near. -/
def lowerGap (x : Binary64) : Nat :=
  if x.fractionField = 0 ∧ 1 < x.exponentField then 1 else 2

/-- Whether `digits · 10 ^ e` lies in the interval of reals that round to a positive finite
number. -/
def roundsTo (x : Binary64) (digits : Nat) (e : Int) : Bool :=
  let place := Nat.pow 2 x.shift
  let den := 4 * one
  let low := (4 * x.significand - x.lowerGap) * place
  let high := (4 * x.significand + 2) * place
  let closed := x.significand % 2 == 0
  match compareScaled digits e low den with
  | .lt => false
  | .eq => closed
  | .gt =>
    match compareScaled digits e high den with
    | .lt => true
    | .eq => closed
    | .gt => false

/-- The exponent of ten of the leading digit of a positive finite number. -/
def leadingExponent (x : Binary64) : Int :=
  let bits : Int := (Nat.log2 x.magnitude : Int) - 1074
  let guess : Int := bits * 30103 / 100000
  let fits (e : Int) : Bool := compareScaled 1 e x.magnitude one != .gt
  if fits (guess + 1) then guess + 1 else if fits guess then guess else guess - 1

/-- The decimal with its last digit at `10 ^ e` that a positive finite number is written as, if
one of its two neighbours on that grid lies in its interval. -/
def onGrid? (tie : Tie) (x : Binary64) (e : Int) : Option Nat :=
  let below := floorScaled e x.magnitude one
  let above := below + 1
  match x.roundsTo below e && below != 0, x.roundsTo above e with
  | false, false => none
  | true, false => some below
  | false, true => some above
  | true, true =>
    match compareScaled (below + above) e (2 * x.magnitude) one with
    | .gt => some below
    | .lt => some above
    | .eq => match tie with
      | .up => some above
      | .toEven => some (if below % 2 = 0 then below else above)

/-- Digits and exponent of ten of the shortest decimal that reads back as a positive finite
number, without trailing zeros. -/
def shortest (tie : Tie) (x : Binary64) : Nat × Int :=
  let lead := x.leadingExponent
  let grids := (List.range 17).map fun n => lead - Int.ofNat n
  match grids.findSome? fun e => (x.onGrid? tie e).map fun d => (d, e) with
  | some (d, e) => stripZeros 20 d e
  | none => (floorScaled (lead - 16) x.magnitude one, lead - 16)

end Binary64

end Intake
