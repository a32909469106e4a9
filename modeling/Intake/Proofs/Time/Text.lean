import Intake.Proofs.Json.Scalars
import Intake.Proofs.Result
import Intake.Proofs.Time.Moments
import Intake.Time.Reader
import Mathlib.Data.List.TakeWhile

set_option autoImplicit false

/-!
# Timestamps in text

A timestamp is written part by part, and each part is read back from the front of what is written.
What stands behind it is left: numbers have a fixed width, and neither a mark nor an offset goes on
with the digits of a fraction.

## Main definitions

* `EndsFraction` — texts that no fraction goes on into.
* `Date.HasPlainYear` — the year is written in four digits without a sign.

## Main results

* `Timestamp.read_text` — a timestamp whose year has four digits is read back from its text.
* `Timestamp.read_text_of_long_year` — with any other year its text is refused.
* `Timestamp.of_readChars` — what is read is well formed, and its year has four digits.
* `Date.inCalendar_of_readChars` — a date that is read alone is a day of the calendar.
-/

namespace Intake

/-! ### Numbers of a fixed width -/

/-- Zeros and digits are digits. -/
lemma isDigit_of_mem_paddedChars (width n : Nat) : ∀ c ∈ paddedChars width n, c.isDigit = true := by
  intro c h
  rcases List.mem_append.mp h with hzero | hdigit
  · rw [List.eq_of_mem_replicate hzero]
    rfl
  · exact Json.isDigit_of_mem_natChars hdigit

/-- Leading zeros do not count. -/
lemma natOfDigits_paddedChars (width n : Nat) : natOfDigits (paddedChars width n) = n := by
  have hzeros : ∀ k, (List.replicate k '0').foldl (fun n c => 10 * n + digitValue c) 0 = 0 := by
    intro k
    induction k with
    | zero => rfl
    | succ k ih => exact ih
  rw [natOfDigits, paddedChars, List.foldl_append, hzeros]
  exact Json.natOfDigits_natChars n

/-- A number that fits is filled up to the width. -/
lemma length_paddedChars (width n : Nat) (hwidth : 0 < width) (h : n < 10 ^ width) :
    (paddedChars width n).length = width := by
  have hlength : (natChars n).length ≤ width := by
    rw [Json.natChars_eq]
    exact (Nat.length_toDigits_le_iff (by decide) hwidth).mpr h
  rw [paddedChars, List.length_append, List.length_replicate]
  omega

/-- Any other number is longer than the width. -/
lemma width_le_length_paddedChars (width n : Nat) : width ≤ (paddedChars width n).length := by
  rw [paddedChars, List.length_append, List.length_replicate]
  omega

/-- Digits are read as long as there are enough of them. -/
lemma readDigits_append {ds : List Char} (h : ∀ c ∈ ds, c.isDigit = true) (n : Nat)
    (rest : List Char) : readDigits ds.length n (ds ++ rest) =
      .ok (ds.foldl (fun n c => 10 * n + digitValue c) n, rest) := by
  induction ds generalizing n with
  | nil => rfl
  | cons c ds ih =>
    obtain ⟨hc, hds⟩ := List.forall_mem_cons.mp h
    rw [List.cons_append, List.length_cons, readDigits, if_pos hc]
    exact ih hds _

/-- **A number that fits is read back from its digits.** -/
theorem readDigits_paddedChars (width n : Nat) (hwidth : 0 < width) (h : n < 10 ^ width)
    (rest : List Char) : readDigits width 0 (paddedChars width n ++ rest) = .ok (n, rest) := by
  have hread := readDigits_append (isDigit_of_mem_paddedChars width n) 0 rest
  have hvalue : (paddedChars width n).foldl (fun n c => 10 * n + digitValue c) 0 = n :=
    natOfDigits_paddedChars width n
  rwa [length_paddedChars width n hwidth h, hvalue] at hread

/-- A digit is worth less than ten. -/
lemma digitValue_lt {c : Char} (h : c.isDigit = true) : digitValue c < 10 := by
  have hnine : c.toNat ≤ 57 := (Char.isDigit_iff_toNat.mp h).2
  have hzero : '0'.toNat = 48 := rfl
  rw [digitValue, hzero]
  omega

/-- Digits write a number that has no more of them. -/
lemma foldl_digits_lt {ds : List Char} (h : ∀ c ∈ ds, c.isDigit = true) (n : Nat) :
    ds.foldl (fun n c => 10 * n + digitValue c) n < (n + 1) * 10 ^ ds.length := by
  induction ds generalizing n with
  | nil => simp
  | cons c ds ih =>
    obtain ⟨hc, hds⟩ := List.forall_mem_cons.mp h
    have hvalue := digitValue_lt hc
    calc (c :: ds).foldl (fun n c => 10 * n + digitValue c) n
        < (10 * n + digitValue c + 1) * 10 ^ ds.length := ih hds _
      _ ≤ (10 * (n + 1)) * 10 ^ ds.length := Nat.mul_le_mul_right _ (by omega)
      _ = (n + 1) * 10 ^ (c :: ds).length := by
        rw [List.length_cons, Nat.pow_succ, Nat.mul_comm 10, Nat.mul_assoc, Nat.mul_comm 10]

/-- Numbers are read from digits that are taken off the front. -/
lemma exists_of_readDigits {k n m : Nat} {cs rest : List Char}
    (h : readDigits k n cs = .ok (m, rest)) : ∃ ds : List Char, ds.length = k ∧
      (∀ c ∈ ds, c.isDigit = true) ∧ m = ds.foldl (fun n c => 10 * n + digitValue c) n := by
  fun_induction readDigits k n cs with
  | case1 n cs =>
    obtain ⟨rfl, -⟩ := Prod.mk.inj (Except.ok.inj h)
    exact ⟨[], rfl, List.forall_mem_nil _, rfl⟩
  | case2 k n c cs hdigit ih =>
    obtain ⟨ds, rfl, hds, rfl⟩ := ih h
    exact ⟨c :: ds, rfl, List.forall_mem_cons.mpr ⟨hdigit, hds⟩, rfl⟩
  | case3 => cases h
  | case4 => cases h

/-- A number that is read has no more digits than were asked for. -/
lemma lt_of_readDigits {k n : Nat} {cs rest : List Char}
    (h : readDigits k 0 cs = .ok (n, rest)) : n < 10 ^ k := by
  obtain ⟨ds, rfl, hds, rfl⟩ := exists_of_readDigits h
  simpa using foldl_digits_lt hds 0

/-! ### Fractions -/

/-- No fraction goes on into the text: it starts with neither a digit nor a point. -/
def EndsFraction (cs : List Char) : Prop := ∀ c ∈ cs.head?, c.isDigit = false ∧ c ≠ '.'

/-- Digits behind a point are read as that many places of nine. -/
lemma readFraction_digits {ds rest : List Char} (hds : ∀ c ∈ ds, c.isDigit = true)
    (hsome : 0 < ds.length) (hnine : ds.length ≤ 9) (hrest : EndsFraction rest) :
    readFraction ('.' :: (ds ++ rest)) = .ok (natOfDigits ds * 10 ^ (9 - ds.length), rest) := by
  have htake : (ds ++ rest).takeWhile Char.isDigit = ds := by
    rw [List.takeWhile_append_of_pos hds]
    cases rest with
    | nil => simp
    | cons c rest => simp [(hrest c rfl).1]
  have hdrop : (ds ++ rest).dropWhile Char.isDigit = rest := by
    rw [List.dropWhile_append_of_pos hds]
    cases rest with
    | nil => rfl
    | cons c rest => simp [(hrest c rfl).1]
  have hempty : ds.isEmpty = false := by
    cases ds with
    | nil => cases hsome
    | cons c ds => rfl
  rw [readFraction]
  simp only [htake, hdrop, hempty, Bool.false_eq_true, if_false, List.take_of_length_le hnine,
    Nat.min_eq_right hnine]
  rfl

/-- A number of places is read back from as many digits. -/
lemma readFraction_paddedChars {width n : Nat} (hwidth : 0 < width) (hnine : width ≤ 9)
    (h : n < 10 ^ width) {rest : List Char} (hrest : EndsFraction rest) :
    readFraction ('.' :: (paddedChars width n ++ rest)) = .ok (n * 10 ^ (9 - width), rest) := by
  have hlength := length_paddedChars width n hwidth h
  rw [readFraction_digits (isDigit_of_mem_paddedChars width n) (by omega) (by omega) hrest,
    natOfDigits_paddedChars, hlength]

/-- **A fraction is read back from its digits.** -/
theorem readFraction_fractionChars {n : Nat} (h : n < 10 ^ 9) {rest : List Char}
    (hrest : EndsFraction rest) :
    readFraction (Timestamp.fractionChars n ++ rest) = .ok (n, rest) := by
  rw [Timestamp.fractionChars]
  split_ifs with hzero hmilli hmicro
  · rw [List.nil_append, hzero]
    cases rest with
    | nil => rfl
    | cons c rest =>
      rw [readFraction]
      rintro cs ⟨⟩
      exact (hrest '.' rfl).2 rfl
  · rw [List.cons_append, readFraction_paddedChars (by decide) (by decide) (by omega) hrest]
    congr 2
    omega
  · rw [List.cons_append, readFraction_paddedChars (by decide) (by decide) (by omega) hrest]
    congr 2
    omega
  · rw [List.cons_append, readFraction_paddedChars (by decide) (by decide) h hrest]
    congr 2
    omega

/-- A fraction that is read has nine places. -/
lemma lt_of_readFraction {n : Nat} {cs rest : List Char} (h : readFraction cs = .ok (n, rest)) :
    n < 10 ^ 9 := by
  fun_cases readFraction cs with
  | case1 cs ds hempty =>
    rw [readFraction, if_pos hempty] at h
    cases h
  | case2 cs ds hsome =>
    rw [readFraction, if_neg hsome] at h
    obtain ⟨hn, -⟩ := Prod.mk.inj (Except.ok.inj h)
    have hdigits : ∀ c ∈ ds.take 9, c.isDigit = true := fun c hc =>
      List.mem_takeWhile_imp (List.mem_of_mem_take hc)
    have hvalue : natOfDigits (ds.take 9) < 10 ^ (min 9 ds.length) := by
      have hbound := foldl_digits_lt hdigits 0
      rwa [Nat.zero_add, Nat.one_mul, List.length_take] at hbound
    calc n = natOfDigits (ds.take 9) * 10 ^ (9 - min 9 ds.length) := hn.symm
      _ < 10 ^ (min 9 ds.length) * 10 ^ (9 - min 9 ds.length) :=
        Nat.mul_lt_mul_of_pos_right hvalue (Nat.pow_pos (by decide))
      _ = 10 ^ 9 := by
        rw [← Nat.pow_add]
        congr 1
        omega
  | case3 cs hnone =>
    rw [readFraction] at h
    · obtain ⟨rfl, -⟩ := Prod.mk.inj (Except.ok.inj h)
      decide
    · exact hnone

/-! ### Offsets -/

/-- Two digits are read back. -/
lemma readPair_paddedChars {n : Nat} (h : n < 100) (rest : List Char) :
    readPair (paddedChars 2 n ++ rest) = .ok (n, rest) := by
  obtain ⟨a, b, hab⟩ := List.length_eq_two.mp (length_paddedChars 2 n (by decide) h)
  have hdigits : ∀ c ∈ [a, b], c.isDigit = true := hab ▸ isDigit_of_mem_paddedChars 2 n
  have hvalue : natOfDigits [a, b] = n := hab ▸ natOfDigits_paddedChars 2 n
  have hboth : a.isDigit ∧ b.isDigit :=
    ⟨hdigits a List.mem_cons_self, hdigits b (List.mem_cons_of_mem a List.mem_cons_self)⟩
  have hsum : 10 * digitValue a + digitValue b = n := by simpa [natOfDigits] using hvalue
  rw [hab, List.cons_append, List.cons_append, List.nil_append, readPair, if_pos hboth, hsum]

/-- Hours and minutes of less than a day are read back as minutes. -/
lemma readOffsetMinutes_chars {n : Nat} (h : n < 1440) :
    readOffsetMinutes (paddedChars 2 (n / 60) ++ ':' :: paddedChars 2 (n % 60)) = .ok (n, []) := by
  have hminutes := readPair_paddedChars (n := n % 60) (by omega) []
  rw [List.append_nil] at hminutes
  have hsixty : ¬ 60 ≤ n % 60 := by omega
  have hsum : 60 * (n / 60) + n % 60 = n := Nat.div_add_mod n 60
  simp only [readOffsetMinutes, readPair_paddedChars (n := n / 60) (by omega), hminutes, hsixty,
    hsum, ne_eq, not_true_eq_false, if_false]

/-- **An offset of less than a day is read back.** -/
theorem readOffset_offsetChars {offset : Int} (h : offset.natAbs < 1440) :
    readOffset (Timestamp.offsetChars offset) = .ok (offset, []) := by
  rw [Timestamp.offsetChars]
  split_ifs with hzero hbehind
  · subst hzero
    rfl
  · have hsign : -(offset.natAbs : Int) = offset := by omega
    rw [readOffset, if_neg (by decide), if_neg (by decide), if_pos (.inl rfl),
      readOffsetMinutes_chars h, Except.map, hsign]
  · have hsign : (offset.natAbs : Int) = offset := by omega
    rw [readOffset, if_neg (by decide), if_pos rfl, readOffsetMinutes_chars h, Except.map, hsign]

/-- An offset does not go on with a fraction. -/
lemma endsFraction_offsetChars (offset : Int) : EndsFraction (Timestamp.offsetChars offset) := by
  rw [Timestamp.offsetChars]
  split_ifs
  all_goals
    rintro c ⟨⟩
    decide

/-! ### Dates and times of day -/

/-- A year of four digits. -/
def Date.HasPlainYear (d : Date) : Prop := 0 ≤ d.year ∧ d.year ≤ 9999

/-- **A date with a year of four digits is read back.** -/
theorem readFullDate_chars {d : Date} (h : d.InCalendar) (hyear : d.HasPlainYear)
    (rest : List Char) :
    readFullDate (Timestamp.yearChars d.year ++ '-' :: (paddedChars 2 d.month ++
      '-' :: (paddedChars 2 d.day ++ rest))) = .ok (d, rest) := by
  obtain ⟨hmonth, hday⟩ := h.month_le
  obtain ⟨hleast, hmost⟩ := hyear
  have hcast : ((d.year.toNat : Nat) : Int) = d.year := Int.toNat_of_nonneg hleast
  have hsupported : Date.supports d.year = true := by
    rw [Date.supports, Bool.and_eq_true, decide_eq_true_iff, decide_eq_true_iff, Date.firstYear,
      Date.lastYear]
    omega
  have hdate : Date.of? d.year d.month d.day = some d :=
    Date.of?_eq_some_iff.mpr ⟨rfl, hsupported, h⟩
  have hread := readDigits_paddedChars 4 d.year.toNat (by decide) (by omega)
  simp only [readFullDate, Timestamp.yearChars, hleast, hmost, and_self, if_true, hread, readMark,
    beq_self_eq_true, readDigits_paddedChars 2 d.month (by decide) (by omega),
    readDigits_paddedChars 2 d.day (by decide) (by omega), hcast, hdate]

/-- A date that is read is a day of the calendar, in a year of four digits. -/
lemma inCalendar_of_readFullDate {cs rest : List Char} {d : Date}
    (h : readFullDate cs = .ok (d, rest)) : d.InCalendar ∧ d.HasPlainYear := by
  revert h
  fun_cases readFullDate cs with
  | case7 year _ hyear _ _ month _ _ _ _ day _ _ date hdate =>
    rintro ⟨⟩
    obtain ⟨rfl, -, hcalendar⟩ := Date.of?_eq_some_iff.mp hdate
    have hdigits : year < 10 ^ 4 := lt_of_readDigits hyear
    have hmost : (year : Int) ≤ 9999 := by omega
    exact ⟨hcalendar, Int.natCast_nonneg year, hmost⟩
  | _ => rintro ⟨⟩

/-- **A time of day is read back.** -/
theorem readClockTime_chars {t : Timestamp} (h : t.WellFormed) {rest : List Char}
    (hrest : EndsFraction rest) :
    readClockTime (paddedChars 2 t.hour ++ ':' :: (paddedChars 2 t.minute ++
      ':' :: (paddedChars 2 t.second ++ (Timestamp.fractionChars t.nanosecond ++ rest)))) =
      .ok (⟨t.hour, t.minute, t.second, t.nanosecond⟩, rest) := by
  have hhour := h.hour
  have hminute := h.minute
  have hsecond := h.second
  simp only [readClockTime, readMark, beq_self_eq_true, if_true, hhour, hminute, hsecond, and_self,
    readDigits_paddedChars 2 t.hour (by decide) (by omega),
    readDigits_paddedChars 2 t.minute (by decide) (by omega),
    readDigits_paddedChars 2 t.second (by decide) (by omega),
    readFraction_fractionChars h.nanosecond hrest]

/-- A time of day that is read is one. -/
lemma of_readClockTime {cs rest : List Char} {time : ClockTime}
    (h : readClockTime cs = .ok (time, rest)) :
    (time.hour < 24 ∧ time.minute < 60 ∧ time.second ≤ 60) ∧ time.nanosecond < 10 ^ 9 := by
  revert h
  fun_cases readClockTime cs with
  | case7 hour _ _ _ _ minute _ _ _ _ second _ _ nanosecond _ hfraction htime =>
    rintro ⟨⟩
    exact ⟨htime, lt_of_readFraction hfraction⟩
  | _ => rintro ⟨⟩

namespace Timestamp

/-! ### Timestamps -/

/-- The text of a timestamp part by part. -/
lemma chars_eq (t : Timestamp) : t.chars = yearChars t.date.year ++ '-' ::
    (paddedChars 2 t.date.month ++ '-' :: (paddedChars 2 t.date.day ++ 'T' ::
      (paddedChars 2 t.hour ++ ':' :: (paddedChars 2 t.minute ++ ':' :: (paddedChars 2 t.second ++
        (fractionChars t.nanosecond ++ offsetChars t.offset)))))) := by
  simp only [chars, List.append_assoc, List.cons_append]

/-- A text is looked at if it has enough characters. -/
lemma length_le_byteLength (cs : List Char) : cs.length ≤ byteLength cs := by
  have hsizes : ∀ n, n + cs.length ≤ cs.foldl (fun n c => n + c.utf8Size) n := by
    induction cs with
    | nil => exact fun n => Nat.le_refl n
    | cons c cs ih =>
      intro n
      have hsize := c.utf8Size_pos
      have hrest := ih (n + c.utf8Size)
      rw [List.length_cons, List.foldl_cons]
      omega
  rw [byteLength, ← Nat.zero_add cs.length]
  exact hsizes 0

/-- A year has four digits at least. -/
lemma four_le_length_yearChars (year : Int) : 4 ≤ (yearChars year).length := by
  have hplain := width_le_length_paddedChars 4 year.toNat
  have hsigned := width_le_length_paddedChars 4 year.natAbs
  rw [yearChars]
  split_ifs
  · exact hplain
  all_goals
    rw [List.length_cons]
    omega

/-- The text of a timestamp is never too short. -/
lemma not_byteLength_chars_lt (t : Timestamp) : ¬ byteLength t.chars < 19 := by
  have hyear := four_le_length_yearChars t.date.year
  have htwo := width_le_length_paddedChars 2
  have hmonth := htwo t.date.month
  have hday := htwo t.date.day
  have hhour := htwo t.hour
  have hminute := htwo t.minute
  have hsecond := htwo t.second
  have hlength := length_le_byteLength t.chars
  rw [chars_eq] at hlength ⊢
  simp only [List.length_append, List.length_cons] at hlength
  omega

/-- **A timestamp with a year of four digits is read back from its text.** -/
theorem read_text {t : Timestamp} (h : t.WellFormed) (hyear : t.date.HasPlainYear) :
    read t.text = .ok t := by
  have hoffset : ¬ 1440 ≤ t.offset.natAbs := Nat.not_le.mpr h.offset
  rw [read, text, String.toList_ofList, readChars, if_neg t.not_byteLength_chars_lt, chars_eq]
  simp only [readFullDate_chars h.date hyear, readMark, isTimeMark, beq_self_eq_true, Bool.true_or,
    if_true, readClockTime_chars h (endsFraction_offsetChars _), readOffset_offsetChars h.offset,
    List.isEmpty_nil, not_true_eq_false, hoffset, if_false]

/-- **With any other year its text is refused**, since it starts with a sign. -/
theorem read_text_of_long_year {t : Timestamp} (hyear : ¬ t.date.HasPlainYear) :
    read t.text = .error .invalid := by
  have hbounds : ¬ (0 ≤ t.date.year ∧ t.date.year ≤ 9999) := hyear
  have hsign : ∀ rest, readFullDate (yearChars t.date.year ++ rest) = .error .invalid := by
    intro rest
    rw [yearChars, if_neg hbounds]
    split_ifs <;> rfl
  rw [read, text, String.toList_ofList, readChars, if_neg t.not_byteLength_chars_lt, chars_eq,
    hsign]

/-- What is read is well formed, and its year has four digits. -/
theorem of_readChars {cs : List Char} {t : Timestamp} (h : readChars cs = .ok t) :
    t.WellFormed ∧ t.date.HasPlainYear := by
  revert h
  fun_cases readChars cs with
  | case8 _ date _ hdate _ _ time _ htime offset _ _ _ hoffset =>
    rintro ⟨⟩
    obtain ⟨hcalendar, hyear⟩ := inCalendar_of_readFullDate hdate
    obtain ⟨⟨hhour, hminute, hsecond⟩, hnanosecond⟩ := of_readClockTime htime
    exact ⟨⟨hcalendar, hhour, hminute, hsecond, hnanosecond, Nat.not_le.mp hoffset⟩, hyear⟩
  | _ => rintro ⟨⟩

end Timestamp

/-- A date that is read alone is a day of the calendar. -/
theorem Date.inCalendar_of_readChars {cs : List Char} {d : Date} (h : Date.readChars cs = .ok d) :
    d.InCalendar := by
  revert h
  fun_cases Date.readChars cs with
  | case9 _ _ _ _ _ _ _ _ _ _ _ _ _ _ _ _ hdate =>
    rintro ⟨⟩
    exact (Date.of?_eq_some_iff.mp hdate).2.2
  | _ => rintro ⟨⟩

end Intake
