import Intake.Json.Printer
import Intake.Number.FloatText
import Intake.Text.Quoted
import Intake.Value.Basic

set_option autoImplicit false

/-!
# Errors of reading and writing values

## Main definitions

* `Found` — what stands where something else was expected.
* `DataError` — why typed data cannot be read from a value or written to one.
* `ValueError` — why a document or typed data gives no value.
-/

namespace Intake

/-- What stands where something else was expected. -/
inductive Found where
  | bool (b : Bool)
  | integer (n : Int)
  | float (x : Binary64)
  | text (s : String)
  | bytes
  | unit
  | list
  | map
  /-- A name of a variant without the data of the variant. -/
  | bareVariant
  deriving Repr

/-- What was found, in the words of a message. -/
def Found.describe : Found → String
  | .bool b => "boolean `" ++ (if b then "true" else "false") ++ "`"
  | .integer n => "integer `" ++ String.ofList (intChars n) ++ "`"
  | .float x => "floating point `" ++ FloatStyle.pointed.write x ++ "`"
  | .text s => "string " ++ quoteText s
  | .bytes => "byte array"
  | .unit => "unit value"
  | .list => "sequence"
  | .map => "map"
  | .bareVariant => "unit variant"

/-- What a value is, as something found. -/
def Found.ofValue : Value → Found
  | .null => .unit
  | .bool b => .bool b
  | .int n => .integer n.toInt
  | .float x => .float x
  | .string s => .text s
  | .bytes _ => .bytes
  | .list _ => .list
  | .map _ => .map

/-- Why typed data cannot be read from a value or written to one. -/
inductive DataError where
  /-- A value of the wrong kind. -/
  | invalidType (found : Found) (expected : String)
  /-- A value of the right kind that the type does not hold. -/
  | invalidValue (found : Found) (expected : String)
  /-- A list with too few or too many items. -/
  | invalidLength (length : Nat) (expected : String)
  | missingField (name : String)
  | unknownVariant (variant : String) (known : List String)
  /-- A number type that values have no room for. -/
  | unsupported (typeName : String)
  /-- The value of a map entry without its key. -/
  | valueBeforeKey
  /-- Data that was read does not make a record. -/
  | malformedRecord
  deriving Repr

/-- Names in backquotes, as a list in words. -/
def oneOf : List String → String
  | [] => "there are no variants"
  | [a] => "expected `" ++ a ++ "`"
  | [a, b] => "expected `" ++ a ++ "` or `" ++ b ++ "`"
  | names => "expected one of " ++ ", ".intercalate (names.map fun n => "`" ++ n ++ "`")

/-- The text of an error. -/
def DataError.message : DataError → String
  | .invalidType found expected =>
    "invalid type: " ++ found.describe ++ ", expected " ++ expected
  | .invalidValue found expected =>
    "invalid value: " ++ found.describe ++ ", expected " ++ expected
  | .invalidLength length expected =>
    "invalid length " ++ String.ofList (natChars length) ++ ", expected " ++ expected
  | .missingField name => "missing field `" ++ name ++ "`"
  | .unknownVariant variant known => "unknown variant `" ++ variant ++ "`, " ++ oneOf known
  | .unsupported typeName => typeName ++ " is not supported"
  | .valueBeforeKey => "map value serialized before its key"
  | .malformedRecord => "data does not make a record"

/-- Why a document or typed data gives no value. -/
inductive ValueError where
  /-- A map key that is no text, by its description. -/
  | nonStringKey (found : String)
  /-- A text that is no JSON document. -/
  | json
  /-- A text that is no YAML document. -/
  | yaml
  | data (error : DataError)
  deriving Repr

/-- The text of an error. -/
def ValueError.message : ValueError → String
  | .nonStringKey found => "map keys must be strings, found " ++ found
  | .json => "invalid JSON: not a document"
  | .yaml => "invalid YAML: not a document"
  | .data error => error.message

end Intake
