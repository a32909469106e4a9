import Intake.Record.Basic
import Intake.Rule.Rejection

set_option autoImplicit false

/-!
# The rule for booleans

## Main definitions

* `BooleanRule` — booleans, and their names if the rule converts.
-/

namespace Intake

/-- Booleans, and their names in text if the rule converts. -/
structure BooleanRule where
  convert : Bool

namespace BooleanRule

/-- The rule without conversion. -/
def plain : BooleanRule := ⟨false⟩

instance : Record BooleanRule where
  dataType := .record "IsBoolean" [.of "convert" plain.convert]
  toDatum r := .record [fieldDatum "convert" r.convert]
  ofDatum? := ofRecord? <| nextField? fun convert => endOfRecord? ⟨convert⟩
  shape := ⟨"IsBoolean", [.new "convert" .bool]⟩

/-- Takes booleans. -/
def check (r : BooleanRule) : Value → Except Rejection Value
  | .bool b => .ok (.bool b)
  | .string s =>
    if r.convert && s == "true" then .ok (.bool true)
    else if r.convert && s == "false" then .ok (.bool false)
    else .error .notBoolean
  | _ => .error .notBoolean

end BooleanRule

end Intake
