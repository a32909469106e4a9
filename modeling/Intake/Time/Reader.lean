import Intake.Number.Decimal
import Intake.Text.Blank
import Intake.Time.Timestamp

set_option autoImplicit false

/-!
# Reading times

Timestamps are read in the internet format: a year of four digits, a time to the second with an
optional fraction, and an offset or `Z`. Between date and time a blank may stand instead of the
letter, and letters may be small. Dates alone are read more freely: numbers may be shorter, blanks
may stand before them, and a signed year may be longer.

## Main definitions

* `Timestamp.read` — a timestamp in the internet format.
* `Date.read` — a date.
* `TimeError` — why a text is neither.

## Implementation notes

The first fault from the left is reported; that a date or a time of day does not exist is noticed at
its end.
-/

namespace Intake

/-- Why a text is no time. -/
inductive TimeError where
  | tooShort
  | invalid
  | outOfRange
  | tooLong
  deriving DecidableEq, Repr

/-- The text of an error. -/
def TimeError.message : TimeError → String
  | .tooShort => "premature end of input"
  | .invalid => "input contains invalid characters"
  | .outOfRange => "input is out of range"
  | .tooLong => "trailing input"

/-- The length of a text in bytes. -/
def byteLength (cs : List Char) : Nat := cs.foldl (fun n c => n + c.utf8Size) 0

/-- A number of exactly so many digits, behind the value of the digits before. -/
def readDigits : Nat → Nat → List Char → Except TimeError (Nat × List Char)
  | 0, n, cs => .ok (n, cs)
  | k + 1, n, c :: cs =>
    if c.isDigit then readDigits k (10 * n + digitValue c) cs else .error .invalid
  | _ + 1, _, [] => .error .invalid

/-- Passes over a character of a kind. -/
def readMark (allowed : Char → Bool) : List Char → Except TimeError (List Char)
  | c :: cs => if allowed c then .ok cs else .error .invalid
  | [] => .error .invalid

/-- Nanoseconds behind a point; digits behind the ninth do not count. -/
def readFraction : List Char → Except TimeError (Nat × List Char)
  | '.' :: cs =>
    let ds := cs.takeWhile Char.isDigit
    if ds.isEmpty then .error (if cs.isEmpty then .tooShort else .invalid)
    else .ok (natOfDigits (ds.take 9) * Nat.pow 10 (9 - min 9 ds.length), cs.dropWhile Char.isDigit)
  | cs => .ok (0, cs)

/-- Two digits of an offset. -/
def readPair : List Char → Except TimeError (Nat × List Char)
  | [] => .error .tooShort
  | [c] => .error (if c.utf8Size = 1 then .tooShort else .invalid)
  | a :: b :: cs =>
    if a.isDigit ∧ b.isDigit then .ok (10 * digitValue a + digitValue b, cs) else .error .invalid

/-- The minutes of an offset without its sign. -/
def readOffsetMinutes (cs : List Char) : Except TimeError (Nat × List Char) :=
  match readPair cs with
  | .error e => .error e
  | .ok (hours, cs) =>
    match cs with
    | [] => .error .tooShort
    | c :: cs =>
      if c ≠ ':' then .error .invalid
      else
        match readPair cs with
        | .error e => .error e
        | .ok (minutes, cs) =>
          if 60 ≤ minutes then .error .outOfRange else .ok (60 * hours + minutes, cs)

/-- An offset in minutes. The sign may be a hyphen or a minus sign. -/
def readOffset : List Char → Except TimeError (Int × List Char)
  | [] => .error .tooShort
  | c :: cs =>
    if c = 'Z' ∨ c = 'z' then .ok (0, cs)
    else if c = '+' then (readOffsetMinutes cs).map fun p => ((p.1 : Int), p.2)
    else if c = '-' ∨ c = '\u2212' then (readOffsetMinutes cs).map fun p => (-(p.1 : Int), p.2)
    else .error .invalid

/-- Reads a date in the internet format. -/
def readFullDate (cs : List Char) : Except TimeError (Date × List Char) :=
  match readDigits 4 0 cs with
  | .error e => .error e
  | .ok (year, cs) =>
    match readMark (· == '-') cs with
    | .error e => .error e
    | .ok cs =>
      match readDigits 2 0 cs with
      | .error e => .error e
      | .ok (month, cs) =>
        match readMark (· == '-') cs with
        | .error e => .error e
        | .ok cs =>
          match readDigits 2 0 cs with
          | .error e => .error e
          | .ok (day, cs) =>
            match Date.of? year month day with
            | none => .error .outOfRange
            | some date => .ok (date, cs)

/-- A time of day. -/
structure ClockTime where
  hour : Nat
  minute : Nat
  second : Nat
  nanosecond : Nat

/-- Reads a time of day in the internet format. -/
def readClockTime (cs : List Char) : Except TimeError (ClockTime × List Char) :=
  match readDigits 2 0 cs with
  | .error e => .error e
  | .ok (hour, cs) =>
    match readMark (· == ':') cs with
    | .error e => .error e
    | .ok cs =>
      match readDigits 2 0 cs with
      | .error e => .error e
      | .ok (minute, cs) =>
        match readMark (· == ':') cs with
        | .error e => .error e
        | .ok cs =>
          match readDigits 2 0 cs with
          | .error e => .error e
          | .ok (second, cs) =>
            match readFraction cs with
            | .error e => .error e
            | .ok (nanosecond, cs) =>
              if hour < 24 ∧ minute < 60 ∧ second ≤ 60 then
                .ok (⟨hour, minute, second, nanosecond⟩, cs)
              else .error .outOfRange

/-- Whether a character may stand between a date and a time. -/
def isTimeMark (c : Char) : Bool := c == 'T' || c == 't' || c == ' '

/-- A timestamp in the internet format. A text shorter than a date and a time is not looked at. -/
def Timestamp.readChars (cs : List Char) : Except TimeError Timestamp :=
  if byteLength cs < 19 then .error .tooShort
  else
    match readFullDate cs with
    | .error e => .error e
    | .ok (date, cs) =>
      match readMark isTimeMark cs with
      | .error e => .error e
      | .ok cs =>
        match readClockTime cs with
        | .error e => .error e
        | .ok (time, cs) =>
          match readOffset cs with
          | .error e => .error e
          | .ok (offset, cs) =>
            if ¬cs.isEmpty then .error .tooLong
            else if 1440 ≤ offset.natAbs then .error .outOfRange
            else .ok ⟨date, time.hour, time.minute, time.second, time.nanosecond, offset⟩

/-- A timestamp in the internet format. -/
def Timestamp.read (s : String) : Except TimeError Timestamp := readChars s.toList

/-- A number of at most so many digits. -/
def readNumber (width : Nat) (cs : List Char) : Except TimeError (Nat × List Char) :=
  match cs with
  | [] => .error .tooShort
  | c :: _ =>
    let ds := (cs.takeWhile Char.isDigit).take width
    if ¬c.isDigit then .error .invalid else .ok (natOfDigits ds, cs.drop ds.length)

/-- A year: four digits at most without a sign, and any number of digits with one. -/
def readYear (cs : List Char) : Except TimeError (Int × List Char) :=
  match cs with
  | '-' :: rest => (readNumber rest.length rest).map fun p => (-(p.1 : Int), p.2)
  | '+' :: rest => (readNumber rest.length rest).map fun p => ((p.1 : Int), p.2)
  | cs => (readNumber 4 cs).map fun p => ((p.1 : Int), p.2)

/-- Passes over the hyphen between two numbers of a date. -/
def readHyphen : List Char → Except TimeError (List Char)
  | [] => .error .tooShort
  | c :: cs => if c = '-' then .ok cs else .error .invalid

/-- A number of a date within bounds, blanks before it. -/
def readWithin (low high : Nat) (cs : List Char) : Except TimeError (Nat × List Char) :=
  match readNumber 2 (cs.dropWhile isBlank) with
  | .error e => .error e
  | .ok (n, cs) => if low ≤ n ∧ n ≤ high then .ok (n, cs) else .error .outOfRange

/-- A date. -/
def Date.readChars (cs : List Char) : Except TimeError Date :=
  match readYear (cs.dropWhile isBlank) with
  | .error e => .error e
  | .ok (year, cs) =>
    if year < -(Nat.pow 2 31 : Int) ∨ (Nat.pow 2 31 : Int) ≤ year then .error .outOfRange
    else
      match readHyphen cs with
      | .error e => .error e
      | .ok cs =>
        match readWithin 1 12 cs with
        | .error e => .error e
        | .ok (month, cs) =>
          match readHyphen cs with
          | .error e => .error e
          | .ok cs =>
            match readWithin 1 31 cs with
            | .error e => .error e
            | .ok (day, cs) =>
              if ¬cs.isEmpty then .error .tooLong
              else
                match Date.of? year month day with
                | none => .error .outOfRange
                | some date => .ok date

/-- A date. -/
def Date.read (s : String) : Except TimeError Date := readChars s.toList

end Intake
