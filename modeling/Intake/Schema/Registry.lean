import Intake.Schema.MetaForm

set_option autoImplicit false

/-!
# Registries of rule types

A registry knows types of rules by name. The definition of a type makes rules from parameters; it
may ask for rules of descriptions that lie within the parameters, and gets them from the same
registry.

## Main definitions

* `Definition`, `Registry` — the types.
* `Registry.resolve` — the rule that a description means.
* `Registry.load` — the form that a map describes.

## Implementation notes

Resolving a description hands the definition a way to resolve others, but only those whose
parameters nest less deep. That ends the recursion, and holds back no description that lies within.
-/

namespace Intake

/-- A way to get the rule that a description means. -/
abbrev Resolver := RuleDescription → Except SchemaError Rule

/-- A type of rules: the form of its parameters, and how a rule is made from them. -/
structure Definition where
  params : Form
  make : Dict Value → Resolver → Except SchemaError Rule

namespace Definition

/-- The names of the parameters. -/
def paramNames (d : Definition) : List String := d.params.fields.map Field.name

end Definition

/-- Types of rules by name, in the order of their registration. -/
structure Registry where
  definitions : Dict Definition

/-- The rules that some descriptions mean; the first one without a rule decides. -/
def resolveEach (resolve : Resolver) : List RuleDescription → Except SchemaError (List Rule)
  | [] => .ok []
  | d :: rest =>
    match resolve d with
    | .error e => .error e
    | .ok r => (resolveEach resolve rest).map (r :: ·)

/-- The fields that some descriptions mean. -/
def buildFields (resolve : Resolver) : List FieldDescription → Except SchemaError (List Field)
  | [] => .ok []
  | d :: rest =>
    match resolveEach resolve d.chain with
    | .error e => .error e
    | .ok chain => (buildFields resolve rest).map (⟨d.name, chain, d.examples⟩ :: ·)

/-- The form that a description means. -/
def FormDescription.build (resolve : Resolver) (d : FormDescription) : Except SchemaError Form :=
  (buildFields resolve d.fields).map fun fields =>
    ⟨fields, d.strict, d.sanitizeKeys, d.errorMsg, d.name, d.examples, [], none⟩

namespace Registry

/-- The registry without types. -/
def empty : Registry := ⟨[]⟩

/-- The definition of a type. -/
def find? (registry : Registry) (typeName : String) : Option Definition :=
  registry.definitions.find? typeName

/-- Whether a type is known. -/
def contains (registry : Registry) (typeName : String) : Bool :=
  registry.definitions.contains typeName

/-- The names of the types. -/
def names (registry : Registry) : List String := registry.definitions.keys

/-- Adds a type, or replaces one of the same name in its place. -/
def register (registry : Registry) (typeName : String) (definition : Definition) : Registry :=
  ⟨registry.definitions.insert typeName definition⟩

/-- The rule that a description means. -/
def resolve (registry : Registry) (d : RuleDescription) : Except SchemaError Rule :=
  match registry.find? d.typeName with
  | none => .error (.unknownRule d.typeName)
  | some definition =>
    definition.make d.params fun inner =>
      if inner.depth < d.depth then registry.resolve inner
      else .error (.notNested inner.typeName)
termination_by d.depth

/-- The form that a map describes. -/
def load (registry : Registry) (description : Dict Value) : Except SchemaError Form :=
  match FormDescription.parse description with
  | .error e => .error e
  | .ok d => d.build registry.resolve

end Registry

end Intake
