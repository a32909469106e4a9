import Intake.Record.Basic

set_option autoImplicit false

/-!
# Examples

Fields and forms carry examples of values, each declared valid or invalid.

## Main definitions

* `FieldExample`, `FormExample` — examples of one value and of a whole input.
-/

namespace Intake

/-- A value for one field. -/
structure FieldExample where
  value : Value
  /-- Whether the value is declared invalid. -/
  invalid : Bool

instance : Record FieldExample where
  dataType := .record "FieldExample" [.of "value" Value.null, .of "invalid" false]
  toDatum r := .record [fieldDatum "value" r.value, fieldDatum "invalid" r.invalid]
  ofDatum? := ofRecord? <| nextField? fun value => nextField? fun invalid =>
    endOfRecord? ⟨value, invalid⟩
  shape := ⟨"FieldExample", [.new "value" .any, .new "invalid" .bool]⟩

/-- An input for a whole form. -/
structure FormExample where
  value : Dict Value
  /-- Whether the input is declared invalid. -/
  invalid : Bool

instance : Record FormExample where
  dataType := .record "FormExample" [.of "value" ([] : Dict Value), .of "invalid" false]
  toDatum r := .record [fieldDatum "value" r.value, fieldDatum "invalid" r.invalid]
  ofDatum? := ofRecord? <| nextField? fun value => nextField? fun invalid =>
    endOfRecord? ⟨value, invalid⟩
  shape := ⟨"FormExample", [.new "value" (.map .any), .new "invalid" .bool]⟩

end Intake
