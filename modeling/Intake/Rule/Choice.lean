import Intake.Pattern.Basic
import Intake.Record.Basic
import Intake.Rule.Rejection
import Intake.Value.Equality

set_option autoImplicit false

/-!
# The rules that choose values

## Main definitions

* `OneOfRule`, `NoneOfRule` — values of a list, and values outside one.
* `PatternRule` — text in which a pattern occurs.
-/

namespace Intake

/-- Values of a list. -/
structure OneOfRule where
  choices : List Value

namespace OneOfRule

instance : Record OneOfRule where
  dataType := .record "IsIn" [.of "choices" ([] : List Value)]
  toDatum r := .record [fieldDatum "choices" r.choices]
  ofDatum? := ofRecord? <| nextField? fun choices => endOfRecord? ⟨choices⟩
  shape := ⟨"IsIn", [(FieldShape.new "choices" (.list .any)).require]⟩

/-- Takes values equal to one of the list. -/
def check (r : OneOfRule) (v : Value) : Except Rejection Value :=
  if r.choices.any fun choice => choice.equal v then .ok v else .error (.noChoice r.choices)

end OneOfRule

/-- Values outside a list. -/
structure NoneOfRule where
  values : List Value

namespace NoneOfRule

instance : Record NoneOfRule where
  dataType := .record "IsNotIn" [.of "values" ([] : List Value)]
  toDatum r := .record [fieldDatum "values" r.values]
  ofDatum? := ofRecord? <| nextField? fun values => endOfRecord? ⟨values⟩
  shape := ⟨"IsNotIn", [.new "values" (.list .any)]⟩

/-- Takes values equal to none of the list. -/
def check (r : NoneOfRule) (v : Value) : Except Rejection Value :=
  match r.values.find? fun illegal => illegal.equal v with
  | some illegal => .error (.illegal illegal)
  | none => .ok v

end NoneOfRule

/-- Text in which a pattern occurs. -/
structure PatternRule where
  pattern : Pattern

namespace PatternRule

/-- The parameters of the rule: the text of its pattern. -/
structure Parameters where
  regexp : String

instance : Record Parameters where
  dataType := .record "MatchesRegexParams" [.of "regexp" ""]
  toDatum p := .record [fieldDatum "regexp" p.regexp]
  ofDatum? := ofRecord? <| nextField? fun regexp => endOfRecord? ⟨regexp⟩
  shape := ⟨"MatchesRegex", [(FieldShape.new "regexp" .string).require]⟩

/-- The parameters that give a rule. -/
def parameters (r : PatternRule) : Parameters := ⟨r.pattern.text⟩

/-- Takes text in which the pattern occurs. -/
def check (r : PatternRule) : Value → Except Rejection Value
  | .string s => if r.pattern.occursIn s then .ok (.string s) else .error (.noMatch r.pattern.text)
  | _ => .error .notString

end PatternRule

end Intake
