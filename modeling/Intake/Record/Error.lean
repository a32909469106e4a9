import Intake.Data.Error
import Intake.Fault.Basic
import Intake.Record.Shape

set_option autoImplicit false

/-!
# Errors of coercion

A coercion error says what does not fit, and where: it carries the path from the source to the
value it is about.

## Main definitions

* `PathStep` — one step of a path.
* `CoerceFault` — what does not fit.
* `CoerceError` — what does not fit and where.
* `CoerceError.toFault` — the error in the form that is shown to users.
-/

namespace Intake

/-- One step of a path into a value. -/
inductive PathStep where
  | key (name : String)
  | index (n : Nat)
  /-- Into an embedded record, which stays at the same value. -/
  | embedded (name : String)
  deriving DecidableEq, Repr

/-- The text of a step. -/
def PathStep.text : PathStep → String
  | .key name => name
  | .index n => String.ofList (natChars n)
  | .embedded name => name ++ "(embedded)"

/-- A step as data. -/
def PathStep.toValue : PathStep → Value
  | .index n => .int (Int64.ofInt n)
  | step => .string step.text

/-- What does not fit in a coercion. -/
inductive CoerceFault where
  /-- A value of a kind that the target does not take. -/
  | mismatch (found : ValueKind) (target : Target)
  /-- A float that is no integer of 64 bits. -/
  | notIntegral (x : Binary64)
  /-- Bytes that are no text. -/
  | notUtf8
  /-- A required field without a value. -/
  | missing (key : String)
  /-- An embedded field whose target is no record. -/
  | notRecord (target : Target)
  /-- Coerced data that the type of a record does not take. -/
  | unreadable (record : String) (error : ValueError)
  /-- A record that has no value. -/
  | unwritable (record : String) (error : ValueError)
  /-- Anything else, in words. -/
  | other (message : String)

/-- The text of what does not fit. -/
def CoerceFault.message : CoerceFault → String
  | .mismatch found target =>
    "cannot coerce source of type '" ++ found.name ++ "' into target of type '"
      ++ target.describe ++ "'"
  | .notIntegral x => "cannot convert non-integral float " ++ FloatStyle.plain.write x ++ " to int"
  | .notUtf8 => "bytes are not valid UTF-8"
  | .missing key => "missing value for required key '" ++ key ++ "'"
  | .notRecord target => "embedded field must be a record, found " ++ target.describe
  | .unreadable record error => "cannot build record " ++ record ++ ": " ++ error.message
  | .unwritable record error => "cannot render record " ++ record ++ ": " ++ error.message
  | .other message => message

/-- What does not fit and where. -/
structure CoerceError where
  fault : CoerceFault
  path : List PathStep

namespace CoerceError

/-- The error without its path. -/
def message (e : CoerceError) : String := e.fault.message

/-- The path with a point between the steps. -/
def pathText (e : CoerceError) : String := ".".intercalate (e.path.map PathStep.text)

/-- The error with its path in parentheses. -/
def display (e : CoerceError) : String :=
  if e.path.isEmpty then e.message else e.message ++ " (" ++ e.pathText ++ ")"

/-- The code of coercion errors. -/
def code : String := "COERCE-ERROR"

/-- The error in the form that is shown to users, its path as its datum. -/
def toFault (e : CoerceError) : Fault :=
  (Fault.new .external e.display code).withData
    (.map [("path", .list (e.path.map PathStep.toValue))])

end CoerceError

end Intake
