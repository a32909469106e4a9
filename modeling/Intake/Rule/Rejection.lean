import Intake.Encoding.Bytes
import Intake.Form.Error
import Intake.Record.Error
import Intake.Time.Reader

set_option autoImplicit false

/-!
# Rejections

A rejection is the reason why a rule does not take a value. Rules that run whole forms, or coerce
into records, hand on what those report.

## Main definitions

* `Rejection`, `Rejection.display` — reasons and their texts.
* `Rejection.toFieldError` — a reason as an error under a key.
-/

namespace Intake

/-- What a length counts. -/
inductive LengthUnit where
  | characters
  | bytes
  deriving DecidableEq, Repr

/-- The name of a unit. -/
def LengthUnit.name : LengthUnit → String
  | .characters => "characters"
  | .bytes => "bytes"

/-- A bound on numbers. -/
inductive Bound where
  | int (n : Int64)
  | float (x : Binary64)

/-- The text of a bound. -/
def Bound.text : Bound → String
  | .int n => String.ofList (intChars n.toInt)
  | .float x => FloatStyle.plain.write x

/-- Why a rule does not take a value. -/
inductive Rejection where
  /-- A rule for text was given something else. -/
  | notString
  | tooShort (least : UInt64) (unit : LengthUnit)
  | tooLong (most : UInt64) (unit : LengthUnit)
  | notInteger
  | notFloat
  | tooSmall (least : Bound)
  | tooLarge (most : Bound)
  | notBoolean
  | undecodable (encoding : ByteEncoding) (error : ByteEncoding.Error)
  | notHex
  | notUuid
  /-- A time in text, or an item of a list of texts, was something else. -/
  | notText
  | notNumber
  | badTime (error : TimeError)
  | badDate (error : TimeError)
  | timeOutOfRange
  /-- A text that is no pattern, with the words of the engine. -/
  | badPattern (error : String)
  | noMatch (pattern : String)
  | noChoice (choices : List Value)
  | illegal (value : Value)
  | missing
  | notNil (value : Value)
  | notList
  /-- A rule turned an item of a list of texts into something else. -/
  | textLost
  | notMap
  | noOption
  | selectorNotText
  | unknownCase (selector : String)
  /-- Any other reason, in words. -/
  | other (text : String)
  | form (error : FormError)
  | coerce (error : CoerceError)

namespace Rejection

/-- The text of a reason. -/
def display : Rejection → String
  | .notString => "expected a string"
  | .tooShort least unit =>
    "must be at least " ++ String.ofList (natChars least.toNat) ++ " " ++ unit.name ++ " long"
  | .tooLong most unit =>
    "must be at most " ++ String.ofList (natChars most.toNat) ++ " " ++ unit.name ++ " long"
  | .notInteger => "not an integer"
  | .notFloat => "not a float"
  | .tooSmall least => "value must be larger than or equal " ++ least.text
  | .tooLarge most => "value must be smaller than or equal " ++ most.text
  | .notBoolean => "expected a boolean"
  | .undecodable encoding error => "invalid " ++ encoding.name ++ " data: " ++ error.message
  | .notHex => "not a valid hex string"
  | .notUuid => "not a valid UUID"
  | .notText => "not a string"
  | .notNumber => "not a number"
  | .badTime error => "invalid time: " ++ error.message
  | .badDate error => "invalid date: " ++ error.message
  | .timeOutOfRange => "timestamp out of range"
  | .badPattern error => "cannot compile regular expression: " ++ error
  | .noMatch pattern => "regex '" ++ pattern ++ "' did not match"
  | .noChoice choices =>
    "invalid choice, must be one of: " ++ ", ".intercalate (choices.map Value.display)
  | .illegal value => "illegal value: " ++ value.display
  | .missing => "is required"
  | .notNil value => "expected a nil value, got '" ++ value.display ++ "'"
  | .notList => "not a list"
  | .textLost => "validator result is not a string"
  | .notMap => "not a map"
  | .noOption => "no possible option worked out"
  | .selectorNotText => "switch key is not a string"
  | .unknownCase selector => "unknown switch case value: '" ++ selector ++ "'"
  | .other text => text
  | .form error => error.display
  | .coerce error => error.display

/-- A reason as an error under a key. Only the errors of forms stay structured. -/
def toFieldError : Rejection → FieldError
  | .form error => .form error
  | r => .message r.display

end Rejection

end Intake
