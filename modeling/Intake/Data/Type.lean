import Intake.Data.Datum

set_option autoImplicit false

/-!
# Types of data

## Main definitions

* `DataType` — what typed data looks like, so that it can be read from a value.
* `RecordField`, `VariantType` — fields of records and variants of choices.
* `DataType.expecting` — a type in the words of a message.
-/

namespace Intake

/-- The types of map keys. -/
inductive KeyType where
  | text
  | int (type : IntType)
  deriving DecidableEq, Repr

mutual

/-- What typed data looks like. -/
inductive DataType where
  | bool
  | int (type : IntType)
  | float32
  | float64
  | char
  | text
  | unit
  /-- A dynamic value. -/
  | dynamic
  | option (type : DataType)
  | list (type : DataType)
  | array (length : Nat) (type : DataType)
  | tuple (types : List DataType)
  | map (key : KeyType) (type : DataType)
  /-- A named type without data. -/
  | namedUnit (name : String)
  /-- A named type around one datum. -/
  | wrapper (name : String) (type : DataType)
  /-- A named type around several data. -/
  | namedTuple (name : String) (types : List DataType)
  | choice (name : String) (variants : List VariantType)
  | record (name : String) (fields : List RecordField)

/-- A variant of a choice, with the types of its data. -/
inductive VariantType where
  | unit (name : String)
  | wrapper (name : String) (type : DataType)
  | tuple (name : String) (types : List DataType)
  | record (name : String) (fields : List RecordField)

/-- A field of a record. A missing field takes its fallback; without one only an option may be
missing. The entries of a spliced field stand among those of the record itself. -/
structure RecordField where
  name : String
  type : DataType
  fallback : Option Datum
  spliced : Bool

end

/-- The name of a variant. -/
def VariantType.name : VariantType → String
  | .unit name => name
  | .wrapper name _ => name
  | .tuple name _ => name
  | .record name _ => name

/-- A field that must be there unless it is an option. -/
def RecordField.plain (name : String) (type : DataType) : RecordField := ⟨name, type, none, false⟩

/-- A field with a fallback. -/
def RecordField.withFallback (name : String) (type : DataType) (fallback : Datum) : RecordField :=
  ⟨name, type, some fallback, false⟩

/-- A count of elements in words. -/
def elementCount (n : Nat) : String :=
  String.ofList (natChars n) ++ (if n = 1 then " element" else " elements")

/-- A type in the words of a message. -/
def DataType.expecting : DataType → String
  | .bool => "a boolean"
  | .int type => type.name
  | .float32 => "f32"
  | .float64 => "f64"
  | .char => "a character"
  | .text => "a string"
  | .unit => "unit"
  | .dynamic => "any value with string map keys"
  | .option _ => "option"
  | .list _ => "a sequence"
  | .array length _ =>
    if length = 0 then "an empty array"
    else "an array of length " ++ String.ofList (natChars length)
  | .tuple types => "a tuple of size " ++ String.ofList (natChars types.length)
  | .map _ _ => "a map"
  | .namedUnit name => "unit struct " ++ name
  | .wrapper name _ => "tuple struct " ++ name
  | .namedTuple name _ => "tuple struct " ++ name
  | .choice name _ => "enum " ++ name
  | .record name _ => "struct " ++ name

end Intake
