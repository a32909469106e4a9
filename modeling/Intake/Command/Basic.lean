import Intake.Command.Failure
import Intake.Command.Listing
import Intake.Document
import Intake.Schema.Builtin
import Intake.Schema.Describe
import Intake.Schema.Example
import Intake.Yaml.Printer

set_option autoImplicit false

/-!
# Commands

A command works on documents in files, with some engine for patterns: it checks an input against a
schema, writes the description of a schema, runs the examples in it, or lists the types of rules.

## Main definitions

* `Command`, `Outcome` — what to do, and what came of it.
* `Command.run` — a command, given the texts of files.
* `Command.paths` — the files that a command reads.
-/

namespace Intake

/-- What to do. -/
inductive Command where
  /-- Check an input against a schema, as an update or in full. -/
  | validate (schema input : String) (update : Bool)
  /-- Write the description of a schema. -/
  | describe (schema : String) (format : DocumentFormat)
  /-- Run the examples of a schema. -/
  | check (schema : String)
  /-- List the types of rules. -/
  | listRules
  deriving DecidableEq, Repr

/-- What came of a command: a text, and whether an input or an example was rejected. -/
structure Outcome where
  output : String
  rejected : Bool
  deriving DecidableEq, Repr

/-- The texts of files. -/
abbrev Files := String → Except FileFailure String

/-- Lines, each with a line break behind it. -/
def unlines (lines : List String) : String := String.join (lines.map (· ++ "\n"))

/-- A value as a text over several lines. -/
def prettyText (v : Value) : String := v.toJson.pretty ++ "\n"

/-- The document in a file. -/
def readDocument (files : Files) (path : String) : Except CommandFailure Value :=
  match files path with
  | .error e => .error (.unreadable path e)
  | .ok text => (parseDocument path text).mapError (.unparsable path)

/-- The form that the document in a file describes. -/
def loadSchema [PatternEngine] (files : Files) (path : String) : Except CommandFailure Form :=
  match readDocument files path with
  | .error e => .error e
  | .ok (.map document) =>
    match FormDescription.parse document with
    | .error e => .error (.invalidSchema path e)
    | .ok description =>
      (description.build Registry.builtin.resolve).mapError (.unbuildable path)
  | .ok _ => .error (.schemaNotMap path)

/-- A form on a document. Only a map can be an update. -/
def Form.validateDocument (form : Form) (update : Bool) (input : Value) :
    Except FormError (Dict Value) :=
  match update, input with
  | true, .map entries => form.run .update entries none
  | _, _ => form.validateValue input

/-- An error of a form, with the schema that rejected the input as its cause. -/
def rejectionFault (schema : String) (e : FormError) : Fault :=
  e.toFault.causedBy
    ((Fault.new .internal "rejected by schema" "SCHEMA").withData (.string schema))

/-- What a consumer of a scope is told of a form on a document. -/
def validationOutcome (scope : Scope) (schema : String) :
    Except FormError (Dict Value) → Outcome
  | .ok values => ⟨prettyText (.map values), false⟩
  | .error e => ⟨prettyText ((rejectionFault schema e).report scope).toValue, true⟩

/-- The description of a form as data. -/
def describeForm [PatternEngine] (form : Form) : Except CommandFailure Value :=
  match form.describe Registry.builtin with
  | .error e => .error (.undescribable e)
  | .ok d => d.toValue.mapError .unwritable

/-- A value as a document of a format. -/
def writeDocument (format : DocumentFormat) (v : Value) : Except CommandFailure String :=
  match format with
  | .json => .ok (prettyText v)
  | .yaml =>
    match v.toYaml? with
    | some y => .ok y.print
    | none => .error .unrenderable

/-- What is told of the examples of a schema. -/
def examplesOutcome (schema : String) (failures : List ExampleFailure) : Outcome :=
  let lines := failures.map fun f => "FAIL " ++ f.display
  if failures.isEmpty then
    ⟨unlines ["OK: all examples of " ++ schema ++ " behave as declared"], false⟩
  else
    ⟨unlines (lines ++ [String.ofList (natChars failures.length) ++ " example(s) failed"]), true⟩

namespace Command

/-- A command, given the texts of files. The schema is loaded before the input is read. -/
def run [PatternEngine] (files : Files) (scope : Scope) : Command → Except CommandFailure Outcome
  | .validate schema input update =>
    match loadSchema files schema with
    | .error e => .error e
    | .ok form =>
      (readDocument files input).map fun document =>
        validationOutcome scope schema (form.validateDocument update document)
  | .describe schema format =>
    match loadSchema files schema with
    | .error e => .error e
    | .ok form =>
      match describeForm form with
      | .error e => .error e
      | .ok v => (writeDocument format v).map fun text => ⟨text, false⟩
  | .check schema =>
    (loadSchema files schema).map fun form => examplesOutcome schema form.checkExamples
  | .listRules => .ok ⟨unlines Registry.builtin.overview, false⟩

/-- The files that a command reads. -/
def paths : Command → List String
  | .validate schema input _ => [schema, input]
  | .describe schema _ => [schema]
  | .check schema => [schema]
  | .listRules => []

end Command

end Intake
