import Intake.Form.Example
import Intake.Rule.Binary
import Intake.Rule.Boolean
import Intake.Rule.Choice
import Intake.Rule.Number
import Intake.Rule.Presence
import Intake.Rule.Time

set_option autoImplicit false

/-!
# Rules, fields and forms

A rule judges one value and may replace it. A field is a name with a chain of rules, and a form is
a list of fields with a policy for keys that no field names. Rules hold chains and forms again, so
that inputs of any depth can be described.

## Main definitions

* `Rule`, `Field`, `Form` — the types.
* `CustomRule`, `Transform`, `Hook` — the parts that are code.
* `Rule.typeName`, `Rule.isContextAware`, `Rule.isSelfDescribing` — what a rule says of itself.
-/

namespace Intake

/-- A rule given as code. It sees the value, the values of its form so far and the context, if there
is one. -/
structure CustomRule where
  name : String
  contextAware : Bool
  run : Value → Dict Value → Option (Dict Value) → Except Rejection Value

namespace CustomRule

/-- A rule that sees no context. -/
def ofValues (name : String) (run : Value → Dict Value → Except Rejection Value) : CustomRule :=
  ⟨name, false, fun v values _ => run v values⟩

/-- A rule that sees the context. -/
def ofContext (name : String)
    (run : Value → Dict Value → Option (Dict Value) → Except Rejection Value) : CustomRule :=
  ⟨name, true, run⟩

/-- The rule that passes on values that satisfy a condition, and gives null for all others. -/
def onlyIf (condition : Value → Dict Value → Bool) : CustomRule :=
  ofValues "OnlyIf" fun v values => .ok (if condition v values then v else .null)

end CustomRule

/-- Code that runs on one field when all fields have passed: each function gets the result of the
one before it and the values of the form. -/
structure Transform where
  field : String
  functions : List (Value → Dict Value → Except Rejection Value)

/-- What a hook reports: errors under any keys, and a message in place of that of the form, which
makes the form fail. -/
structure HookReport where
  errors : FieldErrors
  message : Option String

/-- Code that judges the values of a whole form. -/
abbrev Hook := Dict Value → HookReport

mutual

/-- A rule for one value. -/
inductive Rule where
  | text (r : TextRule)
  | integer (r : IntegerRule)
  | float (r : FloatRule)
  | boolean (r : BooleanRule)
  | bytes (r : BytesRule)
  | hex (r : HexRule)
  | uuid (r : UuidRule)
  | time (r : TimeRule)
  | pattern (r : PatternRule)
  | oneOf (r : OneOfRule)
  | noneOf (r : NoneOfRule)
  /-- Any value but null. -/
  | required
  | optional (r : OptionalRule)
  | nil (r : NilRule)
  | anything
  /-- A list, each item of which passes a chain. -/
  | list (chain : List Rule)
  /-- A list of texts, on all of which each rule runs before the next one does. -/
  | textList (chain : List Rule)
  /-- A map, which passes a form, if there is one, and is coerced into a record, if there is a
  shape. -/
  | map (form : Option Form) (shape : Option Shape)
  /-- The first of some chains that takes the value. -/
  | or (options : List (List Rule))
  /-- The chain of the case that the text under a key of the form selects. A value without a case
  passes the fallback, if there is one, and else is rejected or passed on. -/
  | switch (key : String) (cases : List (String × List Rule)) (fallback : Option (List Rule))
      (exhaustive : Bool)
  | custom (r : CustomRule)

/-- A name with the rules for what stands under it. -/
structure Field where
  name : String
  chain : List Rule
  examples : List FieldExample

/-- A list of fields with a policy. -/
structure Form where
  fields : List Field
  /-- Whether keys that no field names are errors. -/
  strict : Bool
  /-- Whether the keys of the input are read in lower case. -/
  sanitizeKeys : Bool
  /-- The message of failures, in place of the common one. -/
  errorMsg : Option String
  name : Option String
  examples : List FormExample
  transforms : List Transform
  hook : Option Hook

end

namespace Rule

/-- The name of the type of a rule. -/
def typeName : Rule → String
  | .text _ => "IsString"
  | .integer _ => "IsInteger"
  | .float _ => "IsFloat"
  | .boolean _ => "IsBoolean"
  | .bytes _ => "IsBytes"
  | .hex _ => "IsHex"
  | .uuid _ => "IsUUID"
  | .time _ => "IsTime"
  | .pattern _ => "MatchesRegex"
  | .oneOf _ => "IsIn"
  | .noneOf _ => "IsNotIn"
  | .required => "IsRequired"
  | .optional _ => "IsOptional"
  | .nil _ => "IsNil"
  | .anything => "CanBeAnything"
  | .list _ => "IsList"
  | .textList _ => "IsStringList"
  | .map _ _ => "IsStringMap"
  | .or _ => "Or"
  | .switch _ _ _ _ => "Switch"
  | .custom r => r.name

/-- Whether a rule sees the context or hands it on. -/
def isContextAware : Rule → Bool
  | .list _ | .textList _ | .map _ _ | .or _ | .switch _ _ _ _ => true
  | .custom r => r.contextAware
  | _ => false

/-- Whether a rule, apart from the rules that it holds, can be written as data. -/
def isSelfDescribing : Rule → Bool
  | .custom _ => false
  | .optional r => r.generator.isNone
  | .map _ shape => shape.isNone
  | _ => true

/-- The rule for optional values without a default. -/
def orNull : Rule := .optional .plain

/-- The rule for optional values with a default. -/
def orDefault (v : Value) : Rule := .optional (.withDefault v)

/-- The rule for text of any length. -/
def anyText : Rule := .text .unbounded

/-- The rule for maps that pass a form. -/
def ofForm (form : Form) : Rule := .map (some form) none

end Rule

namespace Field

/-- The name of fields that run on every key of the input. -/
def wildcardName : String := "*"

/-- A field without examples. -/
def new (name : String) (chain : List Rule) : Field := ⟨name, chain, []⟩

/-- A field that runs on every key of the input. -/
def wildcard (chain : List Rule) : Field := new wildcardName chain

/-- Whether a field runs on every key of the input. -/
def isWildcard (f : Field) : Bool := f.name == wildcardName

end Field

namespace Form

/-- A form that passes over unknown keys and holds no code. -/
def new (fields : List Field) : Form := ⟨fields, false, false, none, none, [], [], none⟩

/-- The form with unknown keys as errors. -/
def strictly (form : Form) : Form := { form with strict := true }

/-- The form with one more transform behind the others. -/
def withTransform (form : Form) (transform : Transform) : Form :=
  { form with transforms := form.transforms ++ [transform] }

/-- The form with a hook. -/
def withHook (form : Form) (hook : Hook) : Form := { form with hook := some hook }

/-- The message of failures. -/
def errorMessage (form : Form) : String := form.errorMsg.getD FormError.defaultMessage

/-- Whether a field of the form runs on every key of the input. -/
def hasWildcard (form : Form) : Bool := form.fields.any Field.isWildcard

/-- Whether a field of the form has a name. -/
def declares (form : Form) (key : String) : Bool := form.fields.any fun f => f.name == key

end Form

end Intake
