set_option autoImplicit false

/-!
# Calendar dates

Dates of the Gregorian calendar, extended to all years before and after; the year before year 1 is
year 0. Days are numbered from the first day of 1970.

## Main definitions

* `Date`, `Date.of?` — the dates of the supported years.
* `Date.dayNumber`, `Date.ofDayNumber` — between dates and the numbers of their days.
-/

namespace Intake

/-- A day of the calendar. -/
structure Date where
  year : Int
  month : Nat
  day : Nat
  deriving DecidableEq, Repr

/-- Whether a year has a 29th of February. -/
def isLeapYear (year : Int) : Bool :=
  year % 4 == 0 && (year % 100 != 0 || year % 400 == 0)

/-- The lengths of the months of a year. -/
def monthLengths (year : Int) : List Nat :=
  [31, if isLeapYear year then 29 else 28, 31, 30, 31, 30, 31, 31, 30, 31, 30, 31]

/-- The length of a month, from 1 on; other months have no days. -/
def daysInMonth (year : Int) (month : Nat) : Nat :=
  if month = 0 then 0 else (monthLengths year).getD (month - 1) 0

/-- The number of days from the first day of year 0 to the first day of a year. -/
def daysBeforeYear (year : Int) : Int :=
  365 * year + (year + 3) / 4 - (year + 99) / 100 + (year + 399) / 400

/-- The number of days from the first day of year 0 to the first day of 1970. -/
def daysBeforeEpoch : Int := 719528

namespace Date

/-- The first supported year. -/
def firstYear : Int := -262143

/-- The last supported year. -/
def lastYear : Int := 262142

/-- Whether a year is supported. -/
def supports (year : Int) : Bool := decide (firstYear ≤ year) && decide (year ≤ lastYear)

/-- The date of a year, month and day, if the calendar has it. -/
def of? (year : Int) (month day : Nat) : Option Date :=
  if supports year ∧ 1 ≤ day ∧ day ≤ daysInMonth year month then some ⟨year, month, day⟩ else none

/-- The number of a day, zero being the first day of 1970. -/
def dayNumber (d : Date) : Int :=
  daysBeforeYear d.year - daysBeforeEpoch
    + (((monthLengths d.year).take (d.month - 1)).foldl (· + ·) 0 : Nat) + ((d.day : Int) - 1)

/-- The year that holds a day, counted from the first day of year 0. The mean length of a year finds
it up to its neighbours. -/
def yearOf (days : Int) : Int :=
  let guess := days * 400 / 146097
  if days < daysBeforeYear guess then guess - 1
  else if daysBeforeYear (guess + 1) ≤ days then guess + 1
  else guess

/-- The month and the day of the month of a day within months of given lengths, both from 1 on. -/
def monthAndDay : Nat → List Nat → Nat → Nat × Nat
  | month, [], n => (month, n + 1)
  | month, length :: rest, n =>
    if n < length then (month, n + 1) else monthAndDay (month + 1) rest (n - length)

/-- The date of the day of a number. -/
def ofDayNumber (n : Int) : Date :=
  let days := n + daysBeforeEpoch
  let year := yearOf days
  let place := monthAndDay 1 (monthLengths year) (days - daysBeforeYear year).toNat
  ⟨year, place.1, place.2⟩

end Date

end Intake
