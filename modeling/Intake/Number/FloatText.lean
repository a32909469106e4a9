import Intake.Number.Shortest

set_option autoImplicit false

/-!
# Texts of numbers

Four outputs write numbers, each with conventions of its own, and all four write the fewest
digits that read back. A `FloatStyle` records the conventions.

## Main definitions

* `FloatStyle` — the conventions of one output.
* `FloatStyle.write` — a number in a style.
* `FloatStyle.json`, `FloatStyle.yaml`, `FloatStyle.plain`, `FloatStyle.pointed` — the styles.
-/

namespace Intake

/-- The conventions by which one output writes numbers. -/
structure FloatStyle where
  /-- The decimal taken where two are equally near. -/
  tie : Tie
  /-- The least and the largest exponent of the leading digit written without an exponent; no
  bounds means that no exponent is ever written. -/
  positional : Option (Int × Int)
  /-- Whether an integral number ends in `.0`. -/
  point : Bool
  /-- Whether a positive exponent has a plus sign. -/
  plusSign : Bool
  infinity : String
  nan : String

namespace FloatStyle

/-- JSON: exponents from `1e+16` up and from `1e-6` down. JSON has no text for infinities and
NaN, which are written as null before this style is asked. -/
def json : FloatStyle := ⟨.toEven, some (-5, 15), true, true, "null", "null"⟩

/-- YAML: as JSON, with no plus sign and with spellings for infinity and NaN. -/
def yaml : FloatStyle := ⟨.toEven, some (-5, 15), true, false, ".inf", ".nan"⟩

/-- Messages: never an exponent, and no point after an integral number. -/
def plain : FloatStyle := ⟨.up, none, false, false, "inf", "NaN"⟩

/-- Messages that show a number apart from an integer: as `plain`, with a point. -/
def pointed : FloatStyle := ⟨.up, none, true, false, "inf", "NaN"⟩

/-- A decimal with digits `ds` whose leading digit stands at `10 ^ lead`, without an exponent. -/
def positionalText (point : Bool) (ds : List Char) (lead : Int) : List Char :=
  if lead < 0 then
    '0' :: '.' :: (List.replicate ((-lead).toNat - 1) '0' ++ ds)
  else
    let n := lead.toNat + 1
    if ds.length ≤ n then
      ds ++ List.replicate (n - ds.length) '0' ++ (if point then ['.', '0'] else [])
    else ds.take n ++ '.' :: ds.drop n

/-- A decimal with digits `ds` whose leading digit stands at `10 ^ lead`, with an exponent. -/
def scientificText (plusSign : Bool) (ds : List Char) (lead : Int) : List Char :=
  let mantissa := match ds with
    | d :: [] => [d]
    | d :: r => d :: '.' :: r
    | [] => []
  let sign := if lead < 0 then ['-'] else if plusSign then ['+'] else []
  mantissa ++ 'e' :: sign ++ (Nat.repr lead.natAbs).toList

/-- The absolute value of a finite number in a style. -/
def writeMagnitude (style : FloatStyle) (x : Binary64) : List Char :=
  if x.magnitude = 0 then (if style.point then ['0', '.', '0'] else ['0'])
  else
    let (digits, e) := x.shortest style.tie
    let ds := (Nat.repr digits).toList
    let lead := e + (ds.length : Int) - 1
    let inside := match style.positional with
      | none => true
      | some (low, high) => decide (low ≤ lead) && decide (lead ≤ high)
    if inside then positionalText style.point ds lead else scientificText style.plusSign ds lead

/-- A number in a style. -/
def write (style : FloatStyle) (x : Binary64) : String :=
  if x.isNaN then style.nan
  else
    let sign := if x.negative then "-" else ""
    if x.isInfinite then sign ++ style.infinity
    else sign ++ String.ofList (style.writeMagnitude x)

end FloatStyle

end Intake
