import Intake.Time.Calendar
import Mathlib.Algebra.Order.Ring.Nat
import Mathlib.Tactic.Lemma
import Mathlib.Tactic.SplitIfs

set_option autoImplicit false

/-!
# Numbers of days

Years begin at days that ascend, never far from the multiples of the mean length of a year, so the
year that holds a day is found next to the one that the mean length gives. Within the year, taking
the months off one after the other leads to a day that the month has.

## Main definitions

* `Date.InCalendar` — the day is one of its month.

## Main results

* `Date.le_yearOf_iff` — the year that holds a day is the last one that began by then.
* `Date.inCalendar_ofDayNumber` — the number of a day gives a day of the calendar.
* `Date.supports_ofDayNumber_iff` — which numbers give a day of a supported year.
-/

namespace Intake

/-! ### Where years begin -/

/-- The mean year has 146097 days in 400, and no year begins two days away from its multiples. -/
lemma daysBeforeYear_near (year : Int) :
    146097 * year - 400 < 400 * daysBeforeYear year ∧
      400 * daysBeforeYear year < 146097 * year + 800 := by
  rw [daysBeforeYear]
  omega

/-- Later years begin later. -/
lemma daysBeforeYear_lt {y z : Int} (h : y < z) : daysBeforeYear y < daysBeforeYear z := by
  have hy := daysBeforeYear_near y
  have hz := daysBeforeYear_near z
  omega

/-- A year begins when the months of the year before it are over. -/
lemma daysBeforeYear_succ (year : Int) :
    daysBeforeYear (year + 1) = daysBeforeYear year + ((monthLengths year).sum : Nat) := by
  cases h : isLeapYear year with
  | true =>
    have hsum : (monthLengths year).sum = 366 := by simp [monthLengths, h]
    have hleap : year % 4 = 0 ∧ (¬ year % 100 = 0 ∨ year % 400 = 0) := by
      simpa [isLeapYear] using h
    rw [hsum, daysBeforeYear, daysBeforeYear]
    omega
  | false =>
    have hsum : (monthLengths year).sum = 365 := by simp [monthLengths, h]
    have hcommon : year % 4 = 0 → year % 100 = 0 ∧ ¬ year % 400 = 0 := by
      simpa [isLeapYear] using h
    rw [hsum, daysBeforeYear, daysBeforeYear]
    omega

namespace Date

/-- A year is found that has begun and is not over. -/
lemma yearOf_spec (days : Int) :
    daysBeforeYear (yearOf days) ≤ days ∧ days < daysBeforeYear (yearOf days + 1) := by
  have hguess : ∀ guess : Int, days * 400 / 146097 = guess →
      146097 * guess ≤ days * 400 ∧ days * 400 < 146097 * guess + 146097 := by
    intro guess h
    omega
  rw [yearOf]
  generalize days * 400 / 146097 = guess at hguess
  obtain ⟨hlow, hhigh⟩ := hguess guess rfl
  split_ifs with hbefore hbehind
  · have hnear := daysBeforeYear_near (guess - 1)
    rw [Int.sub_add_cancel]
    omega
  · have hnear := daysBeforeYear_near (guess + 1 + 1)
    omega
  · omega

/-- **The year that holds a day is the last one that began by then.** -/
theorem le_yearOf_iff {year days : Int} : year ≤ yearOf days ↔ daysBeforeYear year ≤ days := by
  obtain ⟨hbegun, hover⟩ := yearOf_spec days
  constructor
  · intro h
    rcases Int.lt_or_eq_of_le h with hlt | rfl
    · exact Int.le_trans (Int.le_of_lt (daysBeforeYear_lt hlt)) hbegun
    · exact hbegun
  · refine fun h => Int.not_lt.mp fun hlater => ?_
    have hend : daysBeforeYear (yearOf days + 1) ≤ daysBeforeYear year := by
      rcases Int.lt_or_eq_of_le (Int.add_one_le_iff.mpr hlater) with hlt | heq
      · exact Int.le_of_lt (daysBeforeYear_lt hlt)
      · exact Int.le_of_eq (congrArg daysBeforeYear heq)
    omega

/-! ### Days of months -/

/-- The day is one of its month. -/
def InCalendar (d : Date) : Prop := 1 ≤ d.day ∧ d.day ≤ daysInMonth d.year d.month

/-- A day within months of given lengths is found in one of them. -/
lemma monthAndDay_spec {lengths : List Nat} {n : Nat} (h : n < lengths.sum) (month : Nat) :
    ∃ i length, monthAndDay month lengths n = (month + i, n - (lengths.take i).sum + 1) ∧
      lengths[i]? = some length ∧ n - (lengths.take i).sum < length := by
  induction lengths generalizing n month with
  | nil => cases h
  | cons length rest ih =>
    rw [monthAndDay]
    split_ifs with hfirst
    · exact ⟨0, length, by simp, rfl, by simpa using hfirst⟩
    · rw [List.sum_cons] at h
      obtain ⟨i, found, hplace, hfound, hday⟩ := ih (n := n - length) (by omega) (month + 1)
      refine ⟨i + 1, found, ?_, hfound, ?_⟩
      · rw [hplace, List.take_succ_cons, List.sum_cons]
        congr 1
        all_goals omega
      · rw [List.take_succ_cons, List.sum_cons]
        omega

/-- **The number of a day gives a day of the calendar.** -/
theorem inCalendar_ofDayNumber (n : Int) : (ofDayNumber n).InCalendar := by
  obtain ⟨hbegun, hover⟩ := yearOf_spec (n + daysBeforeEpoch)
  rw [daysBeforeYear_succ] at hover
  have hwithin : (n + daysBeforeEpoch - daysBeforeYear (yearOf (n + daysBeforeEpoch))).toNat <
      (monthLengths (yearOf (n + daysBeforeEpoch))).sum := by
    omega
  obtain ⟨i, length, hplace, hlength, hday⟩ := monthAndDay_spec hwithin 1
  have hmonth : daysInMonth (yearOf (n + daysBeforeEpoch)) (1 + i) = length := by
    rw [daysInMonth, if_neg (by omega), Nat.add_sub_cancel_left, List.getD_eq_getElem?_getD,
      hlength, Option.getD_some]
  simp only [InCalendar, ofDayNumber, hplace, hmonth]
  omega

/-- No month has more than 31 days, and only twelve have any. -/
lemma InCalendar.month_le {d : Date} (h : d.InCalendar) : d.month ≤ 12 ∧ d.day ≤ 31 := by
  obtain ⟨hfirst, hlast⟩ := h
  have hlong : ∀ length ∈ monthLengths d.year, length ≤ 31 := by
    intro length hlength
    simp only [monthLengths, List.mem_cons, List.not_mem_nil, or_false] at hlength
    split_ifs at hlength <;> omega
  rw [daysInMonth, List.getD_eq_getElem?_getD] at hlast
  cases hlength : (monthLengths d.year)[d.month - 1]? with
  | none =>
    rw [hlength] at hlast
    split_ifs at hlast
    all_goals exact absurd hlast (by simpa using Nat.ne_of_gt hfirst)
  | some length =>
    have hmonth : d.month - 1 < 12 := (List.getElem?_eq_some_iff.mp hlength).1
    have hday := hlong length (List.mem_of_getElem? hlength)
    rw [hlength, Option.getD_some] at hlast
    split_ifs at hlast
    all_goals omega

/-! ### Supported years -/

/-- The calendar has the days of supported years. -/
lemma of?_eq_some_iff {year : Int} {month day : Nat} {d : Date} :
    of? year month day = some d ↔ d = ⟨year, month, day⟩ ∧ supports year = true ∧ d.InCalendar := by
  rw [of?, Option.ite_none_right_eq_some, Option.some.injEq]
  constructor
  · rintro ⟨⟨hyear, hday⟩, rfl⟩
    exact ⟨rfl, hyear, hday⟩
  · rintro ⟨rfl, hyear, hday⟩
    exact ⟨⟨hyear, hday⟩, rfl⟩

/-- The numbers of the days of supported years. -/
theorem supports_ofDayNumber_iff {n : Int} :
    supports (ofDayNumber n).year = true ↔ daysBeforeYear firstYear ≤ n + daysBeforeEpoch ∧
      n + daysBeforeEpoch < daysBeforeYear (lastYear + 1) := by
  have hyear : (ofDayNumber n).year = yearOf (n + daysBeforeEpoch) := rfl
  rw [supports, Bool.and_eq_true, decide_eq_true_iff, decide_eq_true_iff, hyear, le_yearOf_iff,
    ← Int.not_lt (a := lastYear), ← Int.add_one_le_iff, le_yearOf_iff, Int.not_le]

end Date

end Intake
