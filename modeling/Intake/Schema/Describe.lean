import Intake.Schema.Registry

set_option autoImplicit false

/-!
# Describing rules and forms

## Main definitions

* `Rule.describe`, `Rule.describeChain` — rules as descriptions.
* `Form.describe` — a form as a description.

## Implementation notes

The registry decides only which types may be named; nothing is looked up in their definitions.
-/

namespace Intake

/-- The description of a rule, given its parameters: code has none, and neither has a type that the
registry does not know. The parameters are written last. -/
def describeAs (registry : Registry) (r : Rule) (params : Except SchemaError (Dict Value)) :
    Except SchemaError RuleDescription :=
  if !r.isSelfDescribing then .error (.notDescribable ("validator " ++ r.typeName))
  else if !registry.contains r.typeName then .error (.notRegistered r.typeName)
  else params.map fun params => ⟨r.typeName, params⟩

/-- The parameters that described ones are written as. -/
def writeDescribed {α β : Type} [Record β] (described : Except SchemaError α) (f : α → β) :
    Except SchemaError (Dict Value) :=
  match described with
  | .error e => .error e
  | .ok a => writeParameters (f a)

mutual

/-- A rule as a description. -/
def Rule.describe (registry : Registry) : Rule → Except SchemaError RuleDescription
  | .text r => describeAs registry (.text r) (writeParameters r)
  | .integer r => describeAs registry (.integer r) (writeParameters r)
  | .float r => describeAs registry (.float r) (writeParameters r)
  | .boolean r => describeAs registry (.boolean r) (writeParameters r)
  | .bytes r => describeAs registry (.bytes r) (writeParameters r)
  | .hex r => describeAs registry (.hex r) (writeParameters r)
  | .uuid r => describeAs registry (.uuid r) (writeParameters r)
  | .time r => describeAs registry (.time r) (writeParameters r)
  | .pattern r => describeAs registry (.pattern r) (writeParameters r.parameters)
  | .oneOf r => describeAs registry (.oneOf r) (writeParameters r)
  | .noneOf r => describeAs registry (.noneOf r) (writeParameters r)
  | .required => describeAs registry .required (.ok [])
  | .optional r => describeAs registry (.optional r) (writeParameters r)
  | .nil r => describeAs registry (.nil r) (writeParameters r)
  | .anything => describeAs registry .anything (.ok [])
  | .list chain =>
    describeAs registry (.list chain)
      (writeDescribed (Rule.describeChain registry chain) ListParameters.mk)
  | .textList chain =>
    describeAs registry (.textList chain)
      (writeDescribed (Rule.describeChain registry chain) ListParameters.mk)
  | .map form shape =>
    describeAs registry (.map form shape)
      (writeDescribed (Rule.describeInner registry form) MapParameters.mk)
  | .or options =>
    describeAs registry (.or options)
      (writeDescribed (Rule.describeOptions registry options) OrParameters.mk)
  | .switch key cases fallback exhaustive =>
    describeAs registry (.switch key cases fallback exhaustive)
      (match Rule.describeCases registry cases with
      | .error e => .error e
      | .ok described =>
        writeDescribed (Rule.describeFallback registry fallback) fun fallback =>
          SwitchParameters.mk key described fallback exhaustive)
  | .custom r => describeAs registry (.custom r) (.ok [])
termination_by structural r => r

/-- Rules as descriptions; the first one without a description decides. -/
def Rule.describeChain (registry : Registry) :
    List Rule → Except SchemaError (List RuleDescription)
  | [] => .ok []
  | r :: rest =>
    match r.describe registry with
    | .error e => .error e
    | .ok d => (Rule.describeChain registry rest).map (d :: ·)
termination_by structural chain => chain

/-- The form of a rule for maps as a description, if it has one. -/
def Rule.describeInner (registry : Registry) :
    Option Form → Except SchemaError (Option FormDescription)
  | none => .ok none
  | some form => (form.describe registry).map some
termination_by structural form => form

/-- Options as descriptions. -/
def Rule.describeOptions (registry : Registry) :
    List (List Rule) → Except SchemaError (List (List RuleDescription))
  | [] => .ok []
  | chain :: rest =>
    match Rule.describeChain registry chain with
    | .error e => .error e
    | .ok d => (Rule.describeOptions registry rest).map (d :: ·)
termination_by structural options => options

/-- Cases as descriptions. -/
def Rule.describeCases (registry : Registry) :
    List (String × List Rule) → Except SchemaError (Dict (List RuleDescription))
  | [] => .ok []
  | (name, chain) :: rest =>
    match Rule.describeChain registry chain with
    | .error e => .error e
    | .ok d => (Rule.describeCases registry rest).map ((name, d) :: ·)
termination_by structural cases => cases

/-- A fallback as a description, if there is one. -/
def Rule.describeFallback (registry : Registry) :
    Option (List Rule) → Except SchemaError (Option (List RuleDescription))
  | none => .ok none
  | some chain => (Rule.describeChain registry chain).map some
termination_by structural fallback => fallback

/-- Fields as descriptions. -/
def Field.describeAll (registry : Registry) :
    List Field → Except SchemaError (List FieldDescription)
  | [] => .ok []
  | ⟨name, chain, examples⟩ :: rest =>
    match Rule.describeChain registry chain with
    | .error e => .error e
    | .ok d => (Field.describeAll registry rest).map (⟨name, d, examples⟩ :: ·)
termination_by structural fields => fields

/-- A form as a description. Transforms and hooks are code and have none. -/
def Form.describe (registry : Registry) : Form → Except SchemaError FormDescription
  | ⟨fields, strict, sanitizeKeys, errorMsg, name, examples, transforms, hook⟩ =>
    if !transforms.isEmpty || hook.isSome then
      .error (.notDescribable ("form '" ++ name.getD "" ++ "' with code hooks"))
    else
      (Field.describeAll registry fields).map fun fields =>
        ⟨strict, sanitizeKeys, name, errorMsg, examples, fields⟩
termination_by structural form => form

end

end Intake
