import Intake.Data.Error
import Intake.Schema.Error

set_option autoImplicit false

/-!
# Failures of commands

A command fails when it cannot get at what it is about: a file, a document, a schema. That is not
the same as the rejection of an input.

## Main definitions

* `FileFailure` — why a file gives no text.
* `CommandFailure`, `CommandFailure.message` — why a command gives no outcome.
-/

namespace Intake

/-- Why a file gives no text. -/
inductive FileFailure where
  | missing
  | denied
  | notDirectory
  | directory
  | notUtf8
  /-- Any other reason, in words. -/
  | other (text : String)

/-- A failure with the number that systems give it. -/
def numberedFailure (text : String) (number : Nat) : String :=
  text ++ " (os error " ++ String.ofList (natChars number) ++ ")"

/-- The text of a failure. -/
def FileFailure.message : FileFailure → String
  | .missing => numberedFailure "No such file or directory" 2
  | .denied => numberedFailure "Permission denied" 13
  | .notDirectory => numberedFailure "Not a directory" 20
  | .directory => numberedFailure "Is a directory" 21
  | .notUtf8 => "stream did not contain valid UTF-8"
  | .other text => text

/-- Why a command gives no outcome. -/
inductive CommandFailure where
  | unreadable (path : String) (failure : FileFailure)
  | unparsable (path : String) (error : ValueError)
  /-- The document of a schema is no map. -/
  | schemaNotMap (path : String)
  | invalidSchema (path : String) (error : SchemaError)
  /-- A schema that describes no form. -/
  | unbuildable (path : String) (error : SchemaError)
  /-- A form that has no description. -/
  | undescribable (error : SchemaError)
  /-- A description that has no map. -/
  | unwritable (error : CoerceError)
  /-- A description that has no text in YAML. -/
  | unrenderable

/-- A text in front of those of an error and its causes. -/
def withCauses (text : String) (error : SchemaError) : String :=
  ": ".intercalate (text :: error.message :: error.causes)

/-- The text of a failure, from what the command was about down to the root. -/
def CommandFailure.message : CommandFailure → String
  | .unreadable path failure => "failed to read " ++ path ++ ": " ++ failure.message
  | .unparsable path error => "failed to parse " ++ path ++ ": " ++ error.message
  | .schemaNotMap path => "schema " ++ path ++ " is not a map"
  | .invalidSchema path error => withCauses ("invalid schema " ++ path) error
  | .unbuildable path error => withCauses ("cannot build schema " ++ path) error
  | .undescribable error => withCauses "schema cannot be described" error
  | .unwritable error => error.display
  | .unrenderable => "failed to render YAML"

end Intake
