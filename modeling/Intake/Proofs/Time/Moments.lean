import Intake.Proofs.Time.Days
import Intake.Time.Timestamp

set_option autoImplicit false

/-!
# Moments

A timestamp that is computed from a date or from a count shows a day of the calendar and a time of
day, and so does the same moment at offset zero.

## Main definitions

* `Timestamp.WellFormed` — the day, the time of day and the offset exist.
* `Timestamp.Supports` — a count of nanoseconds falls into a supported year.

## Main results

* `Timestamp.wellFormed_midnight`, `Timestamp.wellFormed_ofNanoseconds`,
  `Timestamp.WellFormed.toUniversal` — computed timestamps are well formed.
* `Timestamp.ofNanoseconds?_eq_some_iff` — the counts that fall into a supported year.
-/

namespace Intake

namespace Timestamp

/-- A timestamp shows a day of the calendar and a time of day, at an offset of less than a day. -/
structure WellFormed (t : Timestamp) : Prop where
  date : t.date.InCalendar
  hour : t.hour < 24
  minute : t.minute < 60
  second : t.second ≤ 60
  nanosecond : t.nanosecond < 10 ^ 9
  offset : t.offset.natAbs < 1440

/-- The start of a day is well formed. -/
lemma wellFormed_midnight {date : Date} (h : date.InCalendar) : (midnight date).WellFormed := by
  refine ⟨h, ?_, ?_, ?_, ?_, ?_⟩
  all_goals simp [midnight]

/-- A moment that is counted is well formed. -/
lemma wellFormed_ofNanoseconds (n : Int) : (ofNanoseconds n).WellFormed where
  date := Date.inCalendar_ofDayNumber _
  hour := by
    simp only [ofNanoseconds]
    omega
  minute := by
    simp only [ofNanoseconds]
    omega
  second := by
    simp only [ofNanoseconds]
    omega
  nanosecond := by
    simp only [ofNanoseconds]
    omega
  offset := by simp [ofNanoseconds]

/-- The same moment at offset zero is well formed. -/
lemma WellFormed.toUniversal {t : Timestamp} (h : t.WellFormed) : t.toUniversal.WellFormed where
  date := Date.inCalendar_ofDayNumber _
  hour := by
    simp only [Timestamp.toUniversal]
    omega
  minute := by
    simp only [Timestamp.toUniversal]
    omega
  second := h.second
  nanosecond := h.nanosecond
  offset := by simp [Timestamp.toUniversal]

/-- The number of the first day of the supported years. -/
def firstDay : Int := -96465292

/-- The number of the last day of the supported years. -/
def lastDay : Int := 95026236

/-- A count of nanoseconds falls on a day of the supported years. -/
def Supports (n : Int) : Prop := firstDay ≤ n / 86400000000000 ∧ n / 86400000000000 ≤ lastDay

instance (n : Int) : Decidable (Supports n) := inferInstanceAs (Decidable (_ ∧ _))

/-- **A count has a moment if it falls into a supported year.** -/
theorem ofNanoseconds?_eq_some_iff {n : Int} {t : Timestamp} :
    ofNanoseconds? n = some t ↔ t = ofNanoseconds n ∧ Supports n := by
  have hfirst : daysBeforeYear Date.firstYear = firstDay + daysBeforeEpoch := by decide
  have hlast : daysBeforeYear (Date.lastYear + 1) = lastDay + 1 + daysBeforeEpoch := by decide
  have hdate : (ofNanoseconds n).date = Date.ofDayNumber (n / 1000000000 / 86400) := rfl
  rw [ofNanoseconds?, Option.ite_none_right_eq_some, hdate, Date.supports_ofDayNumber_iff, hfirst,
    hlast, Option.some.injEq, Supports]
  constructor
  · rintro ⟨hdays, rfl⟩
    exact ⟨rfl, by omega⟩
  · rintro ⟨rfl, hdays⟩
    exact ⟨by omega, rfl⟩

end Timestamp

end Intake
