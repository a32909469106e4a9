import Intake.Text.SnakeCase
import Intake.Value.Basic

set_option autoImplicit false

/-!
# Shapes of records

A shape describes a record: its fields in order, each with the key it has in the record, the key it
is read from and its target. Targets and shapes are trees over each other.

## Main definitions

* `Target` — what a value is coerced into.
* `Shape`, `FieldShape` — records and their fields.
* `Target.describe` — a target in the words of a message.
-/

namespace Intake

mutual

/-- What a value is coerced into. -/
inductive Target where
  /-- Any value, taken as it is. -/
  | any
  | bool
  | int
  | float
  | string
  | bytes
  | list (item : Target)
  | map (item : Target)
  | record (shape : Shape)
  /-- Null, or the inner target. -/
  | optional (inner : Target)

/-- A field of a record. -/
structure FieldShape where
  /-- The key of the field in the record. -/
  name : String
  /-- The key that the field is read from. -/
  sourceKey : String
  target : Target
  /-- Whether absence is an error. -/
  required : Bool
  /-- Whether integers and floats, and text and bytes, are converted into each other. -/
  convert : Bool
  /-- Whether the field is a record whose fields are read from the enclosing map and stand among
  the fields of the enclosing record. -/
  embedded : Bool

/-- The fields of a record under a name. -/
structure Shape where
  name : String
  fields : List FieldShape

end

namespace FieldShape

/-- A field that is read from the snake case of its name. -/
def new (name : String) (target : Target) : FieldShape :=
  ⟨name, snakeCase name, target, false, false, false⟩

/-- The field read from another key. -/
def readFrom (f : FieldShape) (key : String) : FieldShape := { f with sourceKey := key }

/-- The field as a required one. -/
def require (f : FieldShape) : FieldShape := { f with required := true }

/-- The field as a converting one. -/
def converting (f : FieldShape) : FieldShape := { f with convert := true }

/-- The field as an embedded one. -/
def embed (f : FieldShape) : FieldShape := { f with embedded := true }

end FieldShape

/-- A target in the words of a message. -/
def Target.describe : Target → String
  | .any => "any"
  | .bool => "bool"
  | .int => "int"
  | .float => "float"
  | .string => "string"
  | .bytes => "bytes"
  | .list item => "list<" ++ item.describe ++ ">"
  | .map item => "map<" ++ item.describe ++ ">"
  | .record shape => "record " ++ shape.name
  | .optional inner => "optional<" ++ inner.describe ++ ">"

end Intake
