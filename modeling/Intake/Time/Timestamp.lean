import Intake.Json.Printer
import Intake.Time.Calendar

set_option autoImplicit false

/-!
# Timestamps

A timestamp is a date and a time of day at an offset from universal time. The time of day may lie in
a leap second, the second 60 of a minute.

## Main definitions

* `Timestamp` — the type.
* `Timestamp.toUniversal` — the same moment at offset zero.
* `Timestamp.ofNanoseconds`, `Timestamp.ofNanoseconds?` — moments counted from the start of 1970.
* `Timestamp.text` — a timestamp in the internet format.
-/

namespace Intake

/-- A date and a time of day at an offset from universal time. -/
structure Timestamp where
  date : Date
  hour : Nat
  minute : Nat
  /-- From 0 to 60, which is a leap second. -/
  second : Nat
  nanosecond : Nat
  /-- Minutes ahead of universal time. -/
  offset : Int
  deriving DecidableEq, Repr

/-- The digits of a natural, filled up with zeros to a width. -/
def paddedChars (width n : Nat) : List Char :=
  List.replicate (width - (natChars n).length) '0' ++ natChars n

namespace Timestamp

/-- The same moment at offset zero. Seconds stay as they are, since offsets are whole minutes. -/
def toUniversal (t : Timestamp) : Timestamp :=
  let minutes := (t.date.dayNumber * 24 + t.hour) * 60 + t.minute - t.offset
  { t with
    date := Date.ofDayNumber (minutes / 1440)
    hour := (minutes % 1440 / 60).toNat
    minute := (minutes % 60).toNat
    offset := 0 }

/-- The moment a number of nanoseconds after the start of 1970 in universal time. -/
def ofNanoseconds (n : Int) : Timestamp :=
  let seconds := n / 1000000000
  { date := Date.ofDayNumber (seconds / 86400)
    hour := (seconds % 86400 / 3600).toNat
    minute := (seconds % 3600 / 60).toNat
    second := (seconds % 60).toNat
    nanosecond := (n % 1000000000).toNat
    offset := 0 }

/-- The same, if it falls into a supported year. -/
def ofNanoseconds? (n : Int) : Option Timestamp :=
  let t := ofNanoseconds n
  if Date.supports t.date.year then some t else none

/-- The start of a day in universal time. -/
def midnight (date : Date) : Timestamp := ⟨date, 0, 0, 0, 0, 0⟩

/-- A year of four digits; one with more digits or before year 0 has a sign. -/
def yearChars (year : Int) : List Char :=
  if 0 ≤ year ∧ year ≤ 9999 then paddedChars 4 year.toNat
  else (if year < 0 then '-' else '+') :: paddedChars 4 year.natAbs

/-- A fraction of a second in three, six or nine digits, as few as show all of it. -/
def fractionChars (nanosecond : Nat) : List Char :=
  if nanosecond = 0 then []
  else if nanosecond % 1000000 = 0 then '.' :: paddedChars 3 (nanosecond / 1000000)
  else if nanosecond % 1000 = 0 then '.' :: paddedChars 6 (nanosecond / 1000)
  else '.' :: paddedChars 9 nanosecond

/-- An offset in hours and minutes; offset zero is the letter `Z`. -/
def offsetChars (offset : Int) : List Char :=
  if offset = 0 then ['Z']
  else
    (if offset < 0 then '-' else '+') ::
      (paddedChars 2 (offset.natAbs / 60) ++ ':' :: paddedChars 2 (offset.natAbs % 60))

/-- The characters of a timestamp in the internet format. -/
def chars (t : Timestamp) : List Char :=
  yearChars t.date.year ++ '-' :: paddedChars 2 t.date.month ++ '-' :: paddedChars 2 t.date.day
    ++ 'T' :: paddedChars 2 t.hour ++ ':' :: paddedChars 2 t.minute ++ ':' :: paddedChars 2 t.second
    ++ fractionChars t.nanosecond ++ offsetChars t.offset

/-- A timestamp in the internet format. -/
def text (t : Timestamp) : String := String.ofList t.chars

end Timestamp

end Intake
