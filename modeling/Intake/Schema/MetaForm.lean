import Intake.Form.Run
import Intake.Schema.Description
import Intake.Schema.Error

set_option autoImplicit false

/-!
# The forms of descriptions

A description is checked by a form itself, and then coerced into its record.

## Main definitions

* `MetaForm.rule`, `MetaForm.field`, `MetaForm.form` — the forms of descriptions.
* `FormDescription.parse` — a map as the description of a form.
* `readParameters` — a map as the parameters of a rule.
-/

namespace Intake

namespace MetaForm

/-- A field for a flag with a default. -/
def flag (name : String) (default : Bool) : Field :=
  .new name [.orDefault (.bool default), .boolean .plain]

/-- A field for a length. -/
def length (name : String) : Field := .new name [.orNull, .integer (.atLeast 0)]

/-- A rule for maps of any content. -/
def anyMap : Rule := .map none none

/-- A rule for lists of maps that pass a form. -/
def listOf (form : Form) : Rule := .list [.ofForm form]

/-- The form of descriptions of rules. -/
def rule : Form :=
  (Form.new [.new "type" [.required, .anyText],
    .new "params" [.orDefault (.map []), anyMap]]).strictly

/-- The form of examples of fields. -/
def fieldExample : Form := (Form.new [.new "value" [], flag "invalid" false]).strictly

/-- The form of examples of forms. -/
def formExample : Form :=
  (Form.new [.new "value" [.required, anyMap], flag "invalid" false]).strictly

/-- The form of descriptions of fields. -/
def field : Form :=
  (Form.new [.new "name" [.required, .anyText],
    .new "validators" [.orDefault (.list []), listOf rule],
    .new "examples" [.orNull, listOf fieldExample]]).strictly

/-- The form of descriptions of forms. -/
def form : Form :=
  (Form.new [.new "fields" [.required, listOf field], flag "strict" false,
    flag "sanitizeKeys" false, .new "name" [.orNull, .anyText],
    .new "errorMsg" [.orNull, .anyText],
    .new "examples" [.orNull, listOf formExample]]).strictly

/-- A rule for chains of descriptions. -/
def chain : Rule := listOf rule

end MetaForm

/-- A map as the description of a form. -/
def FormDescription.parse (description : Dict Value) : Except SchemaError FormDescription :=
  match MetaForm.form.validate description with
  | .error e => .error (.invalidDescription e)
  | .ok checked => (Record.coerce (.map checked)).mapError .coerce

/-- A description as a map, under the keys that it is written with. -/
def FormDescription.toValue (d : FormDescription) : Except CoerceError Value := Record.restore d

/-- A map as the parameters of a rule of some type, which have a form of their own. -/
def readParameters {α : Type} [Record α] (typeName : String) (form : Form) (params : Dict Value) :
    Except SchemaError α :=
  match form.validate params with
  | .error e => .error (.invalidParams typeName e)
  | .ok checked => (Record.coerce (.map checked)).mapError .coerce

/-- Parameters as a map, under the keys that they are written with. -/
def writeParameters {α : Type} [Record α] (a : α) : Except SchemaError (Dict Value) :=
  match Record.restore a with
  | .error e => .error (.coerce e)
  | .ok v => .ok (v.toMap?.getD [])

end Intake
