import Intake.Schema.Registry

set_option autoImplicit false

/-!
# The built-in types of rules

What is a pattern depends on the engine that compiles it, and so does the registry.

## Main definitions

* `Builtin.patternParams`, … — the forms of parameters.
* `Builtin.makeList`, … — rules from parameters in which further descriptions lie.
* `Registry.builtin` — the registry of the built-in types.
-/

namespace Intake

namespace Builtin

/-! ### Forms of parameters -/

/-- The form of no parameters. -/
def noParams : Form := .new []

/-- The form of the parameters of rules for text. -/
def textParams : Form := .new [MetaForm.length "minLength", MetaForm.length "maxLength"]

/-- The form of the parameters of rules for integers. -/
def integerParams : Form :=
  .new [MetaForm.flag "convert" false, .new "min" [.orNull, .integer .plain],
    .new "max" [.orNull, .integer .plain]]

/-- The form of the parameters of rules for floats. -/
def floatParams : Form :=
  .new [MetaForm.flag "convert" false, .new "min" [.orNull, .float .plain],
    .new "max" [.orNull, .float .plain]]

/-- The form of the parameters of rules for booleans. -/
def booleanParams : Form := .new [MetaForm.flag "convert" false]

/-- A field for one of some names, with a default. -/
def nameField (name default : String) (names : List String) : Field :=
  .new name [.orDefault (.string default), .oneOf ⟨names.map .string⟩]

/-- The form of the parameters of rules for bytes. -/
def bytesParams : Form :=
  .new [nameField "encoding" ByteEncoding.base64.name (ByteEncoding.all.map ByteEncoding.name),
    MetaForm.length "minLength", MetaForm.length "maxLength"]

/-- The form of the parameters of rules for hexadecimal text. -/
def hexParams : Form :=
  .new [MetaForm.flag "convertToBinary" false, MetaForm.flag "strict" false,
    MetaForm.length "minLength", MetaForm.length "maxLength"]

/-- The form of the parameters of rules for universal identifiers. -/
def uuidParams : Form := .new [MetaForm.flag "convertToBinary" false]

/-- The form of the parameters of rules for times. -/
def timeParams : Form :=
  .new [nameField "format" TimeFormat.internet.name (TimeFormat.all.map TimeFormat.name),
    MetaForm.flag "toUTC" false, MetaForm.flag "raw" false]

/-- A rule for texts that are patterns. -/
def isPattern [PatternEngine] : Rule :=
  .custom (.ofValues "IsValidRegexp" fun v _ =>
    match v with
    | .string s =>
      match Pattern.ofText s with
      | .ok _ => .ok v
      | .error error => .error (.badPattern error)
    | _ => .error .notString)

/-- The parameters of rules with a pattern, which matches everything if none is given. -/
def patternParams [PatternEngine] : Form :=
  .new [.new "regexp" [.orDefault (.string ".*"), .anyText, isPattern]]

/-- The form of the parameters of rules for choices. -/
def oneOfParams : Form := .new [.new "choices" [.required, .list []]]

/-- The form of the parameters of rules against values. -/
def noneOfParams : Form := .new [.new "values" [.orDefault (.list []), .list []]]

/-- The form of the parameters of rules for optional values. -/
def optionalParams : Form := .new [.new "default" [.orNull, .anything]]

/-- The form of the parameters of rules for missing values. -/
def nilParams : Form := .new [MetaForm.flag "allowNull" true]

/-- The form of the parameters of rules for lists. -/
def listParams : Form := .new [.new "validators" [.orNull, MetaForm.chain]]

/-- The form of the parameters of rules for maps. -/
def mapParams : Form := .new [.new "form" [.orNull, .ofForm MetaForm.form]]

/-- The form of the parameters of rules with options. -/
def orParams : Form :=
  .new [.new "options" [.orDefault (.list []), .list [MetaForm.chain]]]

/-- The form of the cases of a switch. -/
def switchCases : Form := .new [.wildcard [MetaForm.chain]]

/-- The form of the parameters of rules with cases. -/
def switchParams : Form :=
  .new [.new "key" [.anyText], .new "cases" [.orDefault (.map []), .ofForm switchCases],
    .new "default" [.orNull, MetaForm.chain], MetaForm.flag "exhaustive" true]

/-! ### Definitions -/

/-- The definition of a type whose parameters are the rule. -/
def plainDefinition {α : Type} [Record α] (typeName : String) (params : Form) (rule : α → Rule) :
    Definition :=
  ⟨params, fun given _ => (readParameters typeName params given).map rule⟩

/-- The definition of a type without parameters. -/
def constantDefinition (rule : Rule) : Definition := ⟨noParams, fun _ _ => .ok rule⟩

/-- A rule that searches for the pattern given. -/
def makePattern [PatternEngine] (given : Dict Value) (_ : Resolver) : Except SchemaError Rule :=
  match readParameters (α := PatternRule.Parameters) "MatchesRegex" patternParams given with
  | .error e => .error e
  | .ok p =>
    match Pattern.ofText p.regexp with
    | .error error => .error (.badPattern error)
    | .ok pattern => .ok (.pattern ⟨pattern⟩)

/-- A rule that runs the chain given. -/
def makeList (typeName : String) (rule : List Rule → Rule) (given : Dict Value)
    (resolve : Resolver) : Except SchemaError Rule :=
  match readParameters (α := ListParameters) typeName listParams given with
  | .error e => .error e
  | .ok p => (resolveEach resolve p.chain).map rule

/-- A rule for maps that runs the form given, if there is one. -/
def makeMap (given : Dict Value) (resolve : Resolver) : Except SchemaError Rule :=
  match readParameters (α := MapParameters) "IsStringMap" mapParams given with
  | .error e => .error e
  | .ok p =>
    match p.form with
    | none => .ok (.map none none)
    | some d => (d.build resolve).map fun form => .map (some form) none

/-- The chains that some chains of descriptions mean. -/
def resolveOptions (resolve : Resolver) :
    List (List RuleDescription) → Except SchemaError (List (List Rule))
  | [] => .ok []
  | option :: rest =>
    match resolveEach resolve option with
    | .error e => .error e
    | .ok chain => (resolveOptions resolve rest).map (chain :: ·)

/-- A rule that tries the options given. -/
def makeOr (given : Dict Value) (resolve : Resolver) : Except SchemaError Rule :=
  match readParameters (α := OrParameters) "Or" orParams given with
  | .error e => .error e
  | .ok p => (resolveOptions resolve p.options).map .or

/-- The cases that some described cases mean. -/
def resolveCases (resolve : Resolver) :
    Dict (List RuleDescription) → Except SchemaError (Dict (List Rule))
  | [] => .ok []
  | (name, case) :: rest =>
    match resolveEach resolve case with
    | .error e => .error e
    | .ok chain => (resolveCases resolve rest).map ((name, chain) :: ·)

/-- The fallback that a described one means. -/
def resolveFallback (resolve : Resolver) :
    Option (List RuleDescription) → Except SchemaError (Option (List Rule))
  | none => .ok none
  | some chain => (resolveEach resolve chain).map some

/-- A rule that selects among the cases given, in the order of their names. -/
def makeSwitch (given : Dict Value) (resolve : Resolver) : Except SchemaError Rule :=
  match readParameters (α := SwitchParameters) "Switch" switchParams given with
  | .error e => .error e
  | .ok p =>
    match resolveCases resolve p.cases.sorted with
    | .error e => .error e
    | .ok cases =>
      (resolveFallback resolve p.fallback).map fun fallback =>
        .switch p.key cases fallback p.exhaustive

/-- The built-in types. -/
def definitions [PatternEngine] : Dict Definition := [
  ("IsString", plainDefinition "IsString" textParams .text),
  ("IsInteger", plainDefinition "IsInteger" integerParams .integer),
  ("IsFloat", plainDefinition "IsFloat" floatParams .float),
  ("IsBoolean", plainDefinition "IsBoolean" booleanParams .boolean),
  ("IsBytes", plainDefinition "IsBytes" bytesParams .bytes),
  ("IsHex", plainDefinition "IsHex" hexParams .hex),
  ("IsUUID", plainDefinition "IsUUID" uuidParams .uuid),
  ("IsTime", plainDefinition "IsTime" timeParams .time),
  ("MatchesRegex", ⟨patternParams, makePattern⟩),
  ("IsIn", plainDefinition "IsIn" oneOfParams .oneOf),
  ("IsNotIn", plainDefinition "IsNotIn" noneOfParams .noneOf),
  ("IsRequired", constantDefinition .required),
  ("IsOptional", plainDefinition "IsOptional" optionalParams .optional),
  ("IsNil", plainDefinition "IsNil" nilParams .nil),
  ("CanBeAnything", constantDefinition .anything),
  ("IsList", ⟨listParams, makeList "IsList" .list⟩),
  ("IsStringList", ⟨listParams, makeList "IsStringList" .textList⟩),
  ("IsStringMap", ⟨mapParams, makeMap⟩),
  ("Or", ⟨orParams, makeOr⟩),
  ("Switch", ⟨switchParams, makeSwitch⟩)]

end Builtin

/-- The registry of the built-in types. -/
def Registry.builtin [PatternEngine] : Registry := ⟨Builtin.definitions⟩

end Intake
