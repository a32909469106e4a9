import Intake.Form.Error
import Intake.Record.Error

set_option autoImplicit false

/-!
# Errors of schemas

## Main definitions

* `SchemaError` — why a description gives no rule or form, or a rule or form no description.
-/

namespace Intake

/-- Why a description gives no rule or form, or a rule or form no description. -/
inductive SchemaError where
  /-- A type of rules that the registry does not know. -/
  | unknownRule (typeName : String)
  /-- A description that the form of descriptions rejects. -/
  | invalidDescription (error : FormError)
  /-- Parameters that the form of the parameters of a type rejects. -/
  | invalidParams (typeName : String) (error : FormError)
  | coerce (error : CoerceError)
  /-- A text that is no pattern, with the words of the engine. -/
  | badPattern (error : String)
  /-- Code has no description. -/
  | notDescribable (what : String)
  /-- A rule of a type that the registry does not know. -/
  | notRegistered (typeName : String)
  /-- A description that does not lie within the parameters of the one that asks for it. -/
  | notNested (typeName : String)

namespace SchemaError

/-- The text of an error. -/
def message : SchemaError → String
  | .unknownRule typeName => "unknown validator type: '" ++ typeName ++ "'"
  | .invalidDescription error => "invalid form description: " ++ error.display
  | .invalidParams typeName error => "invalid params for " ++ typeName ++ ": " ++ error.display
  | .coerce error => error.display
  | .badPattern error => "invalid regular expression: " ++ error
  | .notDescribable what => what ++ " cannot be described"
  | .notRegistered typeName => "validator type '" ++ typeName ++ "' is not registered"
  | .notNested typeName => "validator type '" ++ typeName ++ "' is not nested"

/-- The texts of the errors that an error was caused by. -/
def causes : SchemaError → List String
  | .invalidParams _ error => [error.display]
  | .badPattern error => [error]
  | _ => []

end SchemaError

end Intake
