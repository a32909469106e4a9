import Intake.Number.Decimal
import Intake.Record.Basic
import Intake.Rule.Rejection
import Intake.Text.Blank

set_option autoImplicit false

/-!
# The rules for numbers

## Main definitions

* `IntegerRule` — integers of 64 bits within bounds.
* `FloatRule` — floats within bounds.
-/

namespace Intake

/-- Integers within bounds. Floats are taken if they are integers of 64 bits, and text only if the
rule converts. -/
structure IntegerRule where
  convert : Bool
  min : Option Int64
  max : Option Int64

namespace IntegerRule

/-- The rule without bounds and conversion. -/
def plain : IntegerRule := ⟨false, none, none⟩

/-- The rule with a lower bound only. -/
def atLeast (n : Int64) : IntegerRule := { plain with min := some n }

instance : Record IntegerRule where
  dataType := .record "IsInteger"
    [.of "convert" plain.convert, .of "min" plain.min, .of "max" plain.max]
  toDatum r := .record
    [fieldDatum "convert" r.convert, fieldDatum "min" r.min, fieldDatum "max" r.max]
  ofDatum? := ofRecord? <| nextField? fun convert => nextField? fun min => nextField? fun max =>
    endOfRecord? ⟨convert, min, max⟩
  shape := ⟨"IsInteger", [.new "convert" .bool, .new "min" .int, .new "max" .int]⟩

/-- A float as an integer, if it is one of 64 bits. -/
def narrow? (x : Binary64) : Option Int64 :=
  if x.integral?.isSome && (Binary64.ofInt Int64.minValue.toInt).le x
      && x.lt (Binary64.ofInt Int64.maxValue.toInt) then some x.toInt64
  else none

/-- The integer that a value stands for. -/
def number? (r : IntegerRule) : Value → Option Int64
  | .int n => some n
  | .float x => narrow? x
  | .string s => if r.convert then readInt64? (trimBlanks s.toList) else none
  | _ => none

/-- Takes integers within the bounds. -/
def check (r : IntegerRule) (v : Value) : Except Rejection Value :=
  match r.number? v with
  | none => .error .notInteger
  | some n =>
    match r.min.filter fun least => decide (n < least) with
    | some least => .error (.tooSmall (.int least))
    | none =>
      match r.max.filter fun most => decide (most < n) with
      | some most => .error (.tooLarge (.int most))
      | none => .ok (.int n)

end IntegerRule

/-- Floats within bounds. Integers are widened, and text is taken only if the rule converts. -/
structure FloatRule where
  convert : Bool
  min : Option Binary64
  max : Option Binary64

namespace FloatRule

/-- The rule without bounds and conversion. -/
def plain : FloatRule := ⟨false, none, none⟩

instance : Record FloatRule where
  dataType := .record "IsFloat"
    [.of "convert" plain.convert, .of "min" plain.min, .of "max" plain.max]
  toDatum r := .record
    [fieldDatum "convert" r.convert, fieldDatum "min" r.min, fieldDatum "max" r.max]
  ofDatum? := ofRecord? <| nextField? fun convert => nextField? fun min => nextField? fun max =>
    endOfRecord? ⟨convert, min, max⟩
  shape := ⟨"IsFloat",
    [.new "convert" .bool, (FieldShape.new "min" .float).converting,
      (FieldShape.new "max" .float).converting]⟩

/-- The float that a value stands for. -/
def number? (r : FloatRule) : Value → Option Binary64
  | .float x => some x
  | .int n => some (Binary64.ofInt n.toInt)
  | .string s => if r.convert then readFloat? (trimBlanks s.toList) else none
  | _ => none

/-- Takes floats that are not beyond the bounds. NaN is beyond no bound. -/
def check (r : FloatRule) (v : Value) : Except Rejection Value :=
  match r.number? v with
  | none => .error .notFloat
  | some x =>
    match r.min.filter fun least => x.lt least with
    | some least => .error (.tooSmall (.float least))
    | none =>
      match r.max.filter fun most => most.lt x with
      | some most => .error (.tooLarge (.float most))
      | none => .ok (.float x)

end FloatRule

end Intake
