import Intake.Record.Basic
import Intake.Rule.Rejection

set_option autoImplicit false

/-!
# The rule for times

## Main definitions

* `TimeFormat` — how a time is given.
* `TimeRule` — times of a format, given back as text in the internet format.
-/

namespace Intake

/-- How a time is given. -/
inductive TimeFormat where
  /-- In the internet format. -/
  | internet
  /-- A date alone, meaning its start. -/
  | date
  /-- In seconds from the start of 1970. -/
  | seconds
  | milliseconds
  | nanoseconds
  deriving DecidableEq, Repr

namespace TimeFormat

/-- The name of a format. -/
def name : TimeFormat → String
  | .internet => "rfc3339"
  | .date => "rfc3339-date"
  | .seconds => "unix"
  | .milliseconds => "unix-milli"
  | .nanoseconds => "unix-nano"

/-- The formats. -/
def all : List TimeFormat := [.internet, .date, .seconds, .milliseconds, .nanoseconds]

end TimeFormat

instance : DataCodec TimeFormat where
  dataType := .choice "TimeFormat" (TimeFormat.all.map fun f => .unit f.name)
  toDatum f := .unitVariant f.name
  ofDatum?
    | .unitVariant name => TimeFormat.all.find? fun f => f.name = name
    | _ => none

/-- Times of a format. -/
structure TimeRule where
  format : TimeFormat
  /-- Whether times with an offset are shifted to universal time. -/
  toUtc : Bool
  /-- Whether the result is the value given. -/
  raw : Bool

namespace TimeRule

/-- The rule for the internet format that keeps offsets. -/
def plain : TimeRule := ⟨.internet, false, false⟩

instance : Record TimeRule where
  dataType := .record "IsTime"
    [.of "format" plain.format, .of "to_utc" plain.toUtc, .of "raw" plain.raw]
  toDatum r := .record
    [fieldDatum "format" r.format, fieldDatum "to_utc" r.toUtc, fieldDatum "raw" r.raw]
  ofDatum? := ofRecord? <| nextField? fun format => nextField? fun toUtc => nextField? fun raw =>
    endOfRecord? ⟨format, toUtc, raw⟩
  shape := ⟨"IsTime",
    [.new "format" .string, (FieldShape.new "to_utc" .bool).readFrom "toUTC", .new "raw" .bool]⟩

/-- The text of a value. -/
def text? : Value → Except Rejection String
  | .string s => .ok s
  | _ => .error .notText

/-- The count that a number gives: floats lose their fraction and stop at the limits of 64 bits. -/
def count? : Value → Except Rejection Int
  | .int n => .ok n.toInt
  | .float x => if x.isFinite then .ok x.toInt64.toInt else .error .notNumber
  | _ => .error .notNumber

/-- The moment of a count of units of so many nanoseconds, if it falls into a supported year. -/
def moment (nanoseconds : Int) (count : Int) : Except Rejection Timestamp :=
  match Timestamp.ofNanoseconds? (count * nanoseconds) with
  | some t => .ok t
  | none => .error .timeOutOfRange

/-- The time that a value gives. -/
def timestamp (r : TimeRule) (v : Value) : Except Rejection Timestamp :=
  match r.format with
  | .internet =>
    match text? v with
    | .error e => .error e
    | .ok s =>
      match Timestamp.read s with
      | .error e => .error (.badTime e)
      | .ok t => .ok (if r.toUtc then t.toUniversal else t)
  | .date =>
    match text? v with
    | .error e => .error e
    | .ok s =>
      match Date.read s with
      | .error e => .error (.badDate e)
      | .ok date => .ok (.midnight date)
  | .seconds => (count? v).bind (moment 1000000000)
  | .milliseconds => (count? v).bind (moment 1000000)
  | .nanoseconds => (count? v).bind (moment 1)

/-- Takes times and gives them back as text in the internet format, or as they are. -/
def check (r : TimeRule) (v : Value) : Except Rejection Value :=
  match r.timestamp v with
  | .error e => .error e
  | .ok t => .ok (if r.raw then v else .string t.text)

end TimeRule

end Intake
