import Intake.Number.Decimal
import Intake.Yaml.Tree

set_option autoImplicit false

/-!
# What scalars mean

A scalar without quotes is read as null, a boolean, an integer or a float where its text allows,
and as a string otherwise.

## Main definitions

* `Yaml.ofPlain?` — the node that a plain scalar stands for; nothing for integers out of range.
* `Yaml.ofTagged?` — the node that a scalar with a tag stands for.
* `Yaml.readsAsText` — whether a text can be written without quotes.
-/

namespace Intake

namespace Yaml

/-- Whether a text spells null. -/
def spellsNull (s : String) : Bool := ["null", "Null", "NULL", "~"].contains s

/-- The boolean that a text spells. -/
def spelledBool? (s : String) : Option Bool :=
  if ["true", "True", "TRUE"].contains s then some true
  else if ["false", "False", "FALSE"].contains s then some false
  else none

/-- The value of a digit in bases up to sixteen. -/
def digitIn? (base : Nat) (c : Char) : Option Nat :=
  let n := c.toNat
  let v := if c.isDigit then n - 48 else if 97 ≤ n ∧ n ≤ 102 then n - 87
    else if 65 ≤ n ∧ n ≤ 70 then n - 55 else 16
  if v < base then some v else none

/-- The natural that digits of a base write. -/
def natIn? (base : Nat) (cs : List Char) : Option Nat :=
  if cs.isEmpty then none
  else cs.foldl (fun acc c => do
    let n ← acc
    let d ← digitIn? base c
    return base * n + d) (some 0)

/-- Whether a text is a row of digits with a leading zero, which is no number. -/
def isZeroPadded (cs : List Char) : Bool :=
  let body := match cs with
    | '-' :: r => r
    | '+' :: r => r
    | r => r
  decide (1 < body.length) && body.head? == some '0' && body.all Char.isDigit

/-- The absolute value of an integer behind its sign, in base ten or behind a mark of the base. -/
def magnitude? : List Char → Option Nat
  | '0' :: 'x' :: r => natIn? 16 r
  | '0' :: 'o' :: r => natIn? 8 r
  | '0' :: 'b' :: r => natIn? 2 r
  | r => natIn? 10 r

/-- The integer that a text spells. -/
def spelledInt? (cs : List Char) : Option Int :=
  if isZeroPadded cs then none
  else match cs with
    | '-' :: r => (magnitude? r).map fun n => -(n : Int)
    | '+' :: r => (magnitude? r).map fun n => (n : Int)
    | r => (magnitude? r).map fun n => (n : Int)

/-- The float that a text spells. -/
def spelledFloat? (cs : List Char) : Option Binary64 :=
  let body := match cs with
    | '+' :: r => r
    | r => r
  let s := String.ofList body
  if cs.take 2 = ['+', '+'] ∨ cs.take 2 = ['+', '-'] then none
  else if [".inf", ".Inf", ".INF"].contains s then some (Binary64.infinity false)
  else if ["-.inf", "-.Inf", "-.INF"].contains (String.ofList cs) then
    some (Binary64.infinity true)
  else if [".nan", ".NaN", ".NAN"].contains (String.ofList cs) then some Binary64.nan
  else match readFloat? body with
    | some x => if x.isFinite then some x else none
    | none => none

/-- The integer that a text spells, as a node; the inner nothing stands for an integer beyond 64
bits that 128 bits hold, which has no node. -/
def integer? (cs : List Char) : Option (Option Yaml) :=
  match spelledInt? cs with
  | none => none
  | some n =>
    if 0 ≤ n ∧ n < Nat.pow 2 64 then some (some (.unsigned (UInt64.ofNat n.toNat)))
    else if -(Nat.pow 2 63 : Int) ≤ n ∧ n < 0 then some (some (.signed (Int64.ofInt n)))
    else if -(Nat.pow 2 127 : Int) ≤ n ∧ n < Nat.pow 2 128 then some none
    else none

/-- The node that a plain scalar stands for; nothing for an integer that has none. Integers beyond
128 bits are read as floats. -/
def ofPlain? (cs : List Char) : Option Yaml :=
  let s := String.ofList cs
  if cs.isEmpty || spellsNull s then some .null
  else match spelledBool? s with
    | some b => some (.bool b)
    | none =>
      match integer? cs with
      | some node => node
      | none =>
        if isZeroPadded cs then some (.string s)
        else match spelledFloat? cs with
          | some x => some (.float x)
          | none => some (.string s)

/-- The node that a scalar with a tag stands for. The tags of the standard for scalars ask for a
spelling of their type, and any other tag makes text of the scalar. -/
def ofTagged? (tag text : String) : Option Yaml :=
  let cs := text.toList
  if tag = "tag:yaml.org,2002:bool" then (spelledBool? text).map .bool
  else if tag = "tag:yaml.org,2002:int" then (integer? cs).join
  else if tag = "tag:yaml.org,2002:float" then (spelledFloat? cs).map .float
  else if tag = "tag:yaml.org,2002:null" then if spellsNull text then some .null else none
  else some (.string text)

/-- The node that a scalar stands for, its tag aside. Only plain scalars are more than text. -/
def ofScalar? (plain : Bool) (text : String) : Option Yaml :=
  if plain then ofPlain? text.toList else some (.string text)

/-- Whether a plain scalar of a text would be read as that text. -/
def readsAsText (s : String) : Bool :=
  !isZeroPadded s.toList &&
    match ofPlain? s.toList with
    | some (.string _) => true
    | _ => false

end Yaml

end Intake
