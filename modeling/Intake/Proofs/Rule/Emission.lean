import Intake.Proofs.Rule.Counts
import Intake.Proofs.Time.Text

set_option autoImplicit false

/-!
# Times given back as text

Times are taken in five formats and given back in one, the internet format. A text that was given
back may be given again, to the plain rule, which takes this format. Since the format has years of
four digits, the text is taken again if the year of its time has four digits, and is refused
otherwise, whatever gave the time.

## Main results

* `TimeRule.wellFormed_of_timestamp` — the times that values give are well formed.
* `TimeRule.check_text_again` — when text that was given back is taken again.
* `TimeRule.not_check_text_again` — a time given back as text that is no time.
-/

namespace Intake

/-! ### Years of four digits -/

/-- The numbers of the days in years of four digits. -/
lemma Date.hasPlainYear_ofDayNumber_iff {n : Int} :
    (Date.ofDayNumber n).HasPlainYear ↔ -719528 ≤ n ∧ n ≤ 2932896 := by
  have hfirst : daysBeforeYear 0 = 0 := by decide
  have hlast : daysBeforeYear (9999 + 1) = 3652425 := by decide
  have hyear : (Date.ofDayNumber n).year = Date.yearOf (n + 719528) := rfl
  rw [Date.HasPlainYear, hyear, Date.le_yearOf_iff, ← Int.not_lt (a := 9999), ← Int.add_one_le_iff,
    Date.le_yearOf_iff, hfirst, hlast]
  omega

/-- All integers of 64 bits count nanoseconds within the years of four digits. -/
lemma Timestamp.hasPlainYear_ofNanoseconds (n : Int64) :
    (Timestamp.ofNanoseconds n.toInt).date.HasPlainYear := by
  have hleast : -2 ^ 63 ≤ n.toInt := n.le_toInt
  have hmost : n.toInt < 2 ^ 63 := n.toInt_lt
  refine Date.hasPlainYear_ofDayNumber_iff.mpr ?_
  omega

namespace TimeRule

variable {r : TimeRule} {v : Value} {t : Timestamp}

/-! ### The times that values give -/

/-- Counts have 64 bits. -/
lemma exists_of_count {n : Int} (h : count? v = .ok n) : ∃ count : Int64, n = count.toInt := by
  revert h
  fun_cases count? v with
  | case1 count =>
    rintro ⟨⟩
    exact ⟨count, rfl⟩
  | case2 x _ =>
    rintro ⟨⟩
    exact ⟨x.toInt64, rfl⟩
  | _ => rintro ⟨⟩

/-- The moment of a count, which has 64 bits. -/
lemma exists_of_moment {unit : Int} (h : (count? v).bind (moment unit) = .ok t) :
    ∃ count : Int64, t = Timestamp.ofNanoseconds (count.toInt * unit) := by
  obtain ⟨n, hcount, htime⟩ := bind_eq_ok_iff.mp h
  obtain ⟨count, rfl⟩ := exists_of_count hcount
  rw [moment_eq, ite_eq_ok_iff] at htime
  exact ⟨count, htime.2⟩

/-- A moment that is counted is well formed. -/
lemma wellFormed_of_moment {unit : Int} (h : (count? v).bind (moment unit) = .ok t) :
    t.WellFormed := by
  obtain ⟨count, rfl⟩ := exists_of_moment h
  exact Timestamp.wellFormed_ofNanoseconds _

/-- **The times that values give are well formed.** -/
theorem wellFormed_of_timestamp (h : r.timestamp v = .ok t) : t.WellFormed := by
  revert h
  fun_cases timestamp r v with
  | case3 _ _ _ read hread =>
    rintro ⟨⟩
    have hformed : read.WellFormed := (Timestamp.of_readChars hread).1
    split_ifs
    · exact hformed.toUniversal
    · exact hformed
  | case6 _ _ _ date hread =>
    rintro ⟨⟩
    exact Timestamp.wellFormed_midnight (Date.inCalendar_of_readChars hread)
  | case7 | case8 | case9 => exact wellFormed_of_moment
  | _ => rintro ⟨⟩

/-- Times that are not shifted and counts of nanoseconds have years of four digits. -/
lemma hasPlainYear_of_timestamp (h : r.timestamp v = .ok t)
    (hformat : r.format = .nanoseconds ∨ r.format = .internet ∧ r.toUtc = false) :
    t.date.HasPlainYear := by
  rcases hformat with hcount | ⟨hread, hkept⟩
  · have hunit : r.format.unit? = some 1 := by rw [hcount]; rfl
    rw [timestamp_of_unit hunit] at h
    obtain ⟨count, rfl⟩ := exists_of_moment h
    rw [Int.mul_one]
    exact Timestamp.hasPlainYear_ofNanoseconds count
  · revert h
    fun_cases timestamp r v with
    | case3 _ _ _ read hread =>
      rintro ⟨⟩
      rw [if_neg (by rw [hkept]; exact Bool.false_ne_true)]
      exact (Timestamp.of_readChars hread).2
    | case1 | case2 => rintro ⟨⟩
    | _ hother => cases hread.symm.trans hother

/-! ### Text given again -/

/-- The plain rule gives text of a year of four digits back. -/
lemma plain_check_text (h : t.WellFormed) (hyear : t.date.HasPlainYear) :
    plain.check (.string t.text) = .ok (.string t.text) := by
  simp only [check, timestamp, plain, text?, Timestamp.read_text h hyear, Bool.false_eq_true,
    if_false]

/-- The plain rule refuses text of any other year. -/
lemma plain_check_text_of_long_year (hyear : ¬ t.date.HasPlainYear) :
    plain.check (.string t.text) = .error (.badTime .invalid) := by
  simp only [check, timestamp, plain, text?, Timestamp.read_text_of_long_year hyear]

/-- **When text that was given back is taken again.** Text that a rule gives back is the text of a
well formed time. The plain rule gives it back unchanged if the year of the time has four digits,
and refuses it otherwise. The year always has four digits if nanoseconds are counted or if a text is
read and its offset is kept.

**Proof sketch.** Every format gives well formed times, and their text is read back part by part if
the year is written without a sign (`Timestamp.read_text`). Years that are read have four digits,
and so have the years of 64 bits of nanoseconds. -/
theorem check_text_again (hraw : r.raw = false) {s : String} (h : r.check v = .ok (.string s)) :
    (∃ t, r.timestamp v = .ok t ∧ t.WellFormed ∧ s = t.text ∧
      (t.date.HasPlainYear → plain.check (.string s) = .ok (.string s)) ∧
      (¬ t.date.HasPlainYear → plain.check (.string s) = .error (.badTime .invalid))) ∧
    (r.format = .nanoseconds ∨ r.format = .internet ∧ r.toUtc = false →
      plain.check (.string s) = .ok (.string s)) := by
  obtain ⟨t, htime, hs⟩ : ∃ t, r.timestamp v = .ok t ∧ s = t.text := by
    rw [check] at h
    cases htime : r.timestamp v with
    | error e =>
      rw [htime] at h
      cases h
    | ok t =>
      rw [htime, hraw] at h
      exact ⟨t, rfl, (Value.string.inj (Except.ok.inj h)).symm⟩
  subst hs
  have hformed := wellFormed_of_timestamp htime
  refine ⟨⟨t, htime, hformed, rfl, plain_check_text hformed, plain_check_text_of_long_year⟩, ?_⟩
  exact fun hformat => plain_check_text hformed (hasPlainYear_of_timestamp htime hformat)

/-- Shifting back over the end of February leaves a time that is taken again. -/
theorem leapDay_check_text_again :
    (TimeRule.mk .internet true false).check (.string "2024-03-01T00:30:00.250+01:00") =
        .ok (.string "2024-02-29T23:30:00.250Z") ∧
      plain.check (.string "2024-02-29T23:30:00.250Z") =
        .ok (.string "2024-02-29T23:30:00.250Z") := by
  have htaken : (TimeRule.mk .internet true false).check
      (.string "2024-03-01T00:30:00.250+01:00") = .ok (.string "2024-02-29T23:30:00.250Z") := rfl
  obtain ⟨t, htime, -, -, hagain, -⟩ := (check_text_again rfl htaken).1
  have ht : t = ⟨⟨2024, 2, 29⟩, 23, 30, 0, 250000000, 0⟩ := Except.ok.inj (htime.symm.trans rfl)
  have hyear : t.date.HasPlainYear := by
    rw [ht, Date.HasPlainYear]
    decide
  exact ⟨htaken, hagain hyear⟩

/-- **A time given back as text that is no time.** The first second behind the years of four digits
is written with a sign and five digits, and the internet format has no such year. -/
theorem not_check_text_again :
    ¬ ∀ (r : TimeRule) (v : Value) (s : String), r.raw = false → r.check v = .ok (.string s) →
      plain.check (.string s) = .ok (.string s) := by
  intro h
  have hgiven : (TimeRule.mk .seconds false false).check (.int 253402300800) =
      .ok (.string "+10000-01-01T00:00:00Z") := rfl
  have hrefused : plain.check (.string "+10000-01-01T00:00:00Z") =
      .error (.badTime .invalid) := rfl
  cases hrefused.symm.trans (h _ _ _ rfl hgiven)

end TimeRule

end Intake
