import Intake.Form.Example
import Intake.Value.Equality

set_option autoImplicit false

/-!
# Descriptions

Rules, fields and forms without code can be written as data. A description of a rule names its type
and gives its parameters, in which further descriptions may lie.

## Main definitions

* `RuleDescription`, `FieldDescription`, `FormDescription` — the records.
* `ListParameters`, `MapParameters`, `OrParameters`, `SwitchParameters` — the parameters in which
  further descriptions lie.
* `RuleDescription.depth` — how deep the parameters of a rule nest.
-/

namespace Intake

/-- A field on its way out, left out if it is empty. -/
def fieldUnless {α : Type} [DataCodec α] (isLeftOut : Bool) (name : String) (a : α) :
    List (String × Datum) :=
  if isLeftOut then [] else [fieldDatum name a]

/-- A type of rules with parameters. -/
structure RuleDescription where
  typeName : String
  params : Dict Value

namespace RuleDescription

instance : Record RuleDescription where
  dataType := .record "ValidatorDescription" [.of "type" "", .of "params" ([] : Dict Value)]
  toDatum r := .record
    (fieldDatum "type" r.typeName :: fieldUnless r.params.isEmpty "params" r.params)
  ofDatum? := ofRecord? <| nextField? fun typeName => nextField? fun params =>
    endOfRecord? ⟨typeName, params⟩
  shape := ⟨"ValidatorDescription",
    [(FieldShape.new "type" .string).require, .new "params" (.map .any)]⟩

/-- How many lists and maps lie inside one another in the parameters. -/
def depth (d : RuleDescription) : Nat := Value.depthOfEntries d.params

/-- The target that a chain of descriptions is coerced into. -/
def chainTarget : Target := .list (.record (Record.shape RuleDescription))

end RuleDescription

/-- A name with the descriptions of a chain. -/
structure FieldDescription where
  name : String
  chain : List RuleDescription
  examples : List FieldExample

instance : Record FieldDescription where
  dataType := .record "FieldDescription"
    [.of "name" "", .of "validators" ([] : List RuleDescription),
      .of "examples" ([] : List FieldExample)]
  toDatum r := .record
    ([fieldDatum "name" r.name, fieldDatum "validators" r.chain]
      ++ fieldUnless r.examples.isEmpty "examples" r.examples)
  ofDatum? := ofRecord? <| nextField? fun name => nextField? fun chain => nextField? fun examples =>
    endOfRecord? ⟨name, chain, examples⟩
  shape := ⟨"FieldDescription",
    [(FieldShape.new "name" .string).require, .new "validators" RuleDescription.chainTarget,
      .new "examples" (.list (.record (Record.shape FieldExample)))]⟩

/-- A form without code. -/
structure FormDescription where
  strict : Bool
  sanitizeKeys : Bool
  name : Option String
  errorMsg : Option String
  examples : List FormExample
  fields : List FieldDescription

instance : Record FormDescription where
  dataType := .record "FormDescription"
    [.of "strict" false, .of "sanitize_keys" false, .of "name" (none : Option String),
      .of "error_msg" (none : Option String), .of "examples" ([] : List FormExample),
      .of "fields" ([] : List FieldDescription)]
  toDatum r := .record
    (fieldUnless (!r.strict) "strict" r.strict
      ++ fieldUnless (!r.sanitizeKeys) "sanitize_keys" r.sanitizeKeys
      ++ fieldUnless r.name.isNone "name" r.name
      ++ fieldUnless r.errorMsg.isNone "error_msg" r.errorMsg
      ++ fieldUnless r.examples.isEmpty "examples" r.examples
      ++ [fieldDatum "fields" r.fields])
  ofDatum? := ofRecord? <| nextField? fun strict => nextField? fun sanitizeKeys =>
    nextField? fun name => nextField? fun errorMsg => nextField? fun examples =>
    nextField? fun fields => endOfRecord? ⟨strict, sanitizeKeys, name, errorMsg, examples, fields⟩
  shape := ⟨"FormDescription",
    [.new "strict" .bool, (FieldShape.new "sanitize_keys" .bool).readFrom "sanitizeKeys",
      .new "name" (.optional .string),
      (FieldShape.new "error_msg" (.optional .string)).readFrom "errorMsg",
      .new "examples" (.list (.record (Record.shape FormExample))),
      .new "fields" (.list (.record (Record.shape FieldDescription)))]⟩

/-- Whether two descriptions say the same. The order of the entries of a map says nothing. -/
def FormDescription.equal (a b : FormDescription) : Bool :=
  match Record.toValue a, Record.toValue b with
  | .ok v, .ok w => v.equal w
  | _, _ => false

/-! ### Parameters in which further descriptions lie -/

/-- The parameters of rules for lists. -/
structure ListParameters where
  chain : List RuleDescription

instance : Record ListParameters where
  dataType := .record "IsListParams" [.of "validators" ([] : List RuleDescription)]
  toDatum r := .record [fieldDatum "validators" r.chain]
  ofDatum? := ofRecord? <| nextField? fun chain => endOfRecord? ⟨chain⟩
  shape := ⟨"IsList", [.new "validators" RuleDescription.chainTarget]⟩

/-- The parameters of rules for maps. -/
structure MapParameters where
  form : Option FormDescription

instance : Record MapParameters where
  dataType := .record "IsStringMapParams" [.of "form" (none : Option FormDescription)]
  toDatum r := .record [fieldDatum "form" r.form]
  ofDatum? := ofRecord? <| nextField? fun form => endOfRecord? ⟨form⟩
  shape := ⟨"IsStringMap",
    [.new "form" (.optional (.record (Record.shape FormDescription)))]⟩

/-- The parameters of rules with options. -/
structure OrParameters where
  options : List (List RuleDescription)

instance : Record OrParameters where
  dataType := .record "OrParams" [.of "options" ([] : List (List RuleDescription))]
  toDatum r := .record [fieldDatum "options" r.options]
  ofDatum? := ofRecord? <| nextField? fun options => endOfRecord? ⟨options⟩
  shape := ⟨"Or", [.new "options" (.list RuleDescription.chainTarget)]⟩

/-- The parameters of rules with cases. -/
structure SwitchParameters where
  key : String
  cases : Dict (List RuleDescription)
  fallback : Option (List RuleDescription)
  exhaustive : Bool

instance : Record SwitchParameters where
  dataType := .record "SwitchParams"
    [.of "key" "", .of "cases" ([] : Dict (List RuleDescription)),
      .of "default" (none : Option (List RuleDescription)), .of "exhaustive" true]
  toDatum r := .record
    [fieldDatum "key" r.key, fieldDatum "cases" r.cases, fieldDatum "default" r.fallback,
      fieldDatum "exhaustive" r.exhaustive]
  ofDatum? := ofRecord? <| nextField? fun key => nextField? fun cases => nextField? fun fallback =>
    nextField? fun exhaustive => endOfRecord? ⟨key, cases, fallback, exhaustive⟩
  shape := ⟨"Switch",
    [(FieldShape.new "key" .string).require, .new "cases" (.map RuleDescription.chainTarget),
      .new "default" (.optional RuleDescription.chainTarget), .new "exhaustive" .bool]⟩

end Intake
