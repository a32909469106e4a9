import Intake.Record.Basic
import Intake.Rule.Rejection
import Intake.Value.Equality

set_option autoImplicit false

/-!
# The rules for presence

## Main definitions

* `OptionalRule` — a substitute for missing values.
* `NilRule` — missing values only.
-/

namespace Intake

/-- Puts a substitute in the place of a missing value: a default, unless it is null, or else what a
generator gives. Null and the empty text are missing. -/
structure OptionalRule where
  default : Option Value
  generator : Option (Unit → Value)

namespace OptionalRule

/-- The rule without a substitute. -/
def plain : OptionalRule := ⟨none, none⟩

/-- The rule with a default. -/
def withDefault (v : Value) : OptionalRule := ⟨some v, none⟩

/-- The rule with a generator. -/
def withGenerator (generator : Unit → Value) : OptionalRule := ⟨none, some generator⟩

instance : Record OptionalRule where
  dataType := .record "IsOptional" [.of "default" plain.default]
  toDatum r := .record [fieldDatum "default" r.default]
  ofDatum? := ofRecord? <| nextField? fun default => endOfRecord? ⟨default, none⟩
  shape := ⟨"IsOptional", [.new "default" .any]⟩

/-- Whether a value counts as missing. -/
def isMissing : Value → Bool
  | .null => true
  | .string s => s.isEmpty
  | _ => false

/-- What stands for missing values. -/
def substitute (r : OptionalRule) : Value :=
  match r.default.filter fun v => !v.isNull, r.generator with
  | some v, _ => v
  | none, some generate => generate ()
  | none, none => .null

/-- The value, or what stands for it if it is missing. -/
def apply (r : OptionalRule) (v : Value) : Value := if isMissing v then r.substitute else v

end OptionalRule

/-- Missing values only; the empty text and zero are missing too if the rule allows them. -/
structure NilRule where
  allowNull : Bool

namespace NilRule

/-- The rule that allows the empty text and zero. -/
def plain : NilRule := ⟨true⟩

instance : Record NilRule where
  dataType := .record "IsNil" [.of "allow_null" plain.allowNull]
  toDatum r := .record [fieldDatum "allow_null" r.allowNull]
  ofDatum? := ofRecord? <| nextField? fun allowNull => endOfRecord? ⟨allowNull⟩
  shape := ⟨"IsNil", [(FieldShape.new "allow_null" .bool).readFrom "allowNull"]⟩

/-- Whether a value is the empty text or zero. -/
def isBlankValue : Value → Bool
  | .string s => s.isEmpty
  | .int n => n == 0
  | _ => false

/-- Takes missing values, and gives null for each. -/
def check (r : NilRule) (v : Value) : Except Rejection Value :=
  if v.isNull || (r.allowNull && isBlankValue v) then .ok .null else .error (.notNil v)

end NilRule

end Intake
