import Intake.Record.Basic
import Intake.Rule.Rejection

set_option autoImplicit false

/-!
# The rule for text

## Main definitions

* `checkLength` — bounds on a length.
* `TextRule` — text within bounds on its length in characters.
-/

namespace Intake

/-- Compares a length with its bounds, the lower one first. -/
def checkLength (length : Nat) (least most : Option UInt64) (unit : LengthUnit) :
    Except Rejection Unit :=
  match least.filter fun n => decide (length < n.toNat) with
  | some n => .error (.tooShort n unit)
  | none =>
    match most.filter fun n => decide (n.toNat < length) with
    | some n => .error (.tooLong n unit)
    | none => .ok ()

/-- Text within bounds on its length, counted in characters. -/
structure TextRule where
  minLength : Option UInt64
  maxLength : Option UInt64

namespace TextRule

/-- The rule without bounds. -/
def unbounded : TextRule := ⟨none, none⟩

instance : Record TextRule where
  dataType := .record "IsString"
    [.of "min_length" unbounded.minLength, .of "max_length" unbounded.maxLength]
  toDatum r := .record [fieldDatum "min_length" r.minLength, fieldDatum "max_length" r.maxLength]
  ofDatum? := ofRecord? <| nextField? fun minLength => nextField? fun maxLength =>
    endOfRecord? ⟨minLength, maxLength⟩
  shape := ⟨"IsString",
    [(FieldShape.new "min_length" .int).readFrom "minLength",
      (FieldShape.new "max_length" .int).readFrom "maxLength"]⟩

/-- Takes text within the bounds, unchanged. -/
def check (r : TextRule) : Value → Except Rejection Value
  | .string s => (checkLength s.length r.minLength r.maxLength .characters).map fun _ => .string s
  | _ => .error .notString

end TextRule

end Intake
