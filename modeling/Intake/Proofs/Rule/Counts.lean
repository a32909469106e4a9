import Intake.Proofs.Number.Integral
import Intake.Proofs.Result
import Intake.Proofs.Time.Moments
import Intake.Rule.Time

set_option autoImplicit false

/-!
# Times that are counted

A time may be given as a count of seconds, milliseconds or nanoseconds from the start of 1970. A
float is cut to an integer of 64 bits first: its fraction is dropped, and beyond the range it
becomes the limit on its side. In seconds and in milliseconds both limits lie outside the supported
years, so that what was beyond the range is refused in the end. In nanoseconds all integers of 64
bits lie within these years, and the limit is taken for the count.

## Main definitions

* `TimeFormat.unit?` — the unit in which a format counts.

## Main results

* `Binary64.toInt64_eq_of_trunc`, `Binary64.toInt64_beyond` — how floats are cut to 64 bits.
* `TimeRule.timestamp_of_unit` — which counts are taken.
* `TimeRule.check_float_by_count` — a float is judged as the integer that is left of it, or is
  refused, unless it counts nanoseconds.
* `TimeRule.not_check_float_refused` — a float that was taken and should not have been.
-/

namespace Intake

/-! ### Floats cut to 64 bits -/

namespace Binary64

variable {x : Binary64}

/-- An integer part of 64 bits is kept. -/
lemma toInt64_eq_of_trunc (h : x.isFinite = true) {n : Int64} (hn : n.toInt = x.trunc) :
    x.toInt64 = n := by
  have hleast : Int64.minValue.toInt ≤ n.toInt := n.minValue_le_toInt
  have hmost : n.toInt ≤ Int64.maxValue.toInt := n.toInt_le
  rw [toInt64_of_isFinite h, ← hn, min_eq_right hmost, max_eq_right hleast, Int64.ofInt_toInt]

/-- The limit of 64 bits on the side of a float. -/
def limit (x : Binary64) : Int64 := if x.negative then Int64.minValue else Int64.maxValue

/-- Beyond 64 bits an integer part becomes the limit on its side. -/
lemma toInt64_beyond (h : x.isFinite = true) (hbeyond : ∀ n : Int64, n.toInt ≠ x.trunc) :
    x.toInt64 = x.limit := by
  have hleast : Int64.minValue.toInt = -2 ^ 63 := rfl
  have hmost : Int64.maxValue.toInt = 2 ^ 63 - 1 := rfl
  have hrange : ¬ (-2 ^ 63 ≤ x.trunc ∧ x.trunc < 2 ^ 63) := fun hwithin =>
    hbeyond (Int64.ofInt x.trunc) (Int64.toInt_ofInt_of_le hwithin.1 hwithin.2)
  rw [toInt64_of_isFinite h, limit]
  cases hsign : x.negative with
  | true =>
    have hside : x.trunc ≤ 0 := by
      rw [trunc, hsign, if_pos rfl]
      exact Int.neg_nonpos_of_nonneg (Int.natCast_nonneg _)
    rw [if_pos rfl, min_eq_right (by omega), max_eq_left (by omega), Int64.ofInt_toInt]
  | false =>
    have hside : 0 ≤ x.trunc := by
      rw [trunc, hsign, if_neg Bool.false_ne_true]
      exact Int.natCast_nonneg _
    rw [if_neg Bool.false_ne_true, min_eq_left (by omega), max_eq_right (by omega),
      Int64.ofInt_toInt]

end Binary64

/-! ### Units of time -/

/-- The nanoseconds in the unit in which a format counts, if it does. -/
def TimeFormat.unit? : TimeFormat → Option Int
  | .internet | .date => none
  | .seconds => some 1000000000
  | .milliseconds => some 1000000
  | .nanoseconds => some 1

namespace TimeRule

variable {r : TimeRule} {unit : Int}

/-- A count is taken if it falls on a day of the supported years. -/
lemma moment_eq (unit count : Int) : moment unit count =
    if Timestamp.Supports (count * unit) then .ok (Timestamp.ofNanoseconds (count * unit))
    else .error .timeOutOfRange := by
  -- Rewriting with the equation of `moment` would evaluate the test of the year.
  delta moment
  cases htime : Timestamp.ofNanoseconds? (count * unit) with
  | some t =>
    obtain ⟨rfl, hdays⟩ := Timestamp.ofNanoseconds?_eq_some_iff.mp htime
    rw [if_pos hdays]
  | none =>
    have hdays : ¬ Timestamp.Supports (count * unit) := fun hdays =>
      absurd (Timestamp.ofNanoseconds?_eq_some_iff.mpr ⟨rfl, hdays⟩) (by rw [htime]; nofun)
    rw [if_neg hdays]

/-- A format that counts in a unit takes the moment of a count. -/
lemma timestamp_of_unit (h : r.format.unit? = some unit) (v : Value) :
    r.timestamp v = (count? v).bind (moment unit) := by
  obtain ⟨format, toUtc, raw⟩ := r
  cases format with
  | internet | date => cases h
  | seconds | milliseconds | nanoseconds =>
    cases h
    rfl

/-- A float is taken for the moment of the integer that it is cut to. -/
lemma timestamp_float (h : r.format.unit? = some unit) {x : Binary64} (hx : x.isFinite = true) :
    r.timestamp (.float x) = r.timestamp (.int x.toInt64) := by
  have hcount : count? (.float x) = .ok x.toInt64.toInt := if_pos hx
  rw [timestamp_of_unit h, timestamp_of_unit h, hcount]
  rfl

/-- All integers of 64 bits count nanoseconds within the supported years. -/
lemma exists_timestamp_of_nanoseconds (h : r.format = .nanoseconds) (n : Int64) :
    ∃ t, r.timestamp (.int n) = .ok t := by
  have hleast : -2 ^ 63 ≤ n.toInt := n.le_toInt
  have hmost : n.toInt < 2 ^ 63 := n.toInt_lt
  have hdays : Timestamp.Supports (n.toInt * 1) := by
    rw [Timestamp.Supports, Timestamp.firstDay, Timestamp.lastDay]
    omega
  have hunit : r.format.unit? = some 1 := by rw [h]; rfl
  refine ⟨Timestamp.ofNanoseconds (n.toInt * 1), ?_⟩
  rw [timestamp_of_unit hunit]
  exact (moment_eq 1 n.toInt).trans (if_pos hdays)

/-- The limits of 64 bits lie outside the supported years in any other unit. -/
lemma timestamp_limit (h : r.format.unit? = some unit) (hcoarse : r.format ≠ .nanoseconds)
    (x : Binary64) : r.timestamp (.int x.limit) = .error .timeOutOfRange := by
  have hunit : unit = 1000000000 ∨ unit = 1000000 := by
    cases hformat : r.format with
    | seconds => exact .inl (Option.some.inj (h.symm.trans (congrArg _ hformat)))
    | milliseconds => exact .inr (Option.some.inj (h.symm.trans (congrArg _ hformat)))
    | nanoseconds => exact absurd hformat hcoarse
    | internet | date =>
      rw [hformat] at h
      cases h
  have hlimit : x.limit.toInt = -2 ^ 63 ∨ x.limit.toInt = 2 ^ 63 - 1 := by
    rw [Binary64.limit]
    split_ifs
    · exact .inl rfl
    · exact .inr rfl
  have hdays : ¬ Timestamp.Supports (x.limit.toInt * unit) := by
    rw [Timestamp.Supports, Timestamp.firstDay, Timestamp.lastDay]
    rcases hunit with rfl | rfl <;> omega
  rw [timestamp_of_unit h]
  exact (moment_eq unit x.limit.toInt).trans (if_neg hdays)

/-- A value is taken if it gives a time. -/
lemma exists_check_iff {v : Value} :
    (∃ w, r.check v = .ok w) ↔ ∃ t, r.timestamp v = .ok t := by
  rw [check]
  cases r.timestamp v <;> simp

/-- Values that give the same time give the same text. -/
lemma check_congr (hraw : r.raw = false) {v w : Value} (h : r.timestamp v = r.timestamp w) :
    r.check v = r.check w := by
  rw [check, check, h, hraw]
  rfl

/-- **A float is judged as the integer that is left of it.** If a time is counted, a float whose
integer part is an integer of 64 bits is taken exactly when this integer is, and gives the same
text. A float with any other integer part is refused in seconds and in milliseconds, and is taken as
the limit on its side in nanoseconds.

**Proof sketch.** A float counts as the integer that it is cut to, which is its integer part within
64 bits (`Binary64.toInt64_eq_of_trunc`) and a limit beyond (`Binary64.toInt64_beyond`). Both limits
lie far outside the supported years in seconds and in milliseconds, and within them in
nanoseconds. -/
theorem check_float_by_count (h : r.format.unit? = some unit) {x : Binary64}
    (hx : x.isFinite = true) :
    (∀ n : Int64, n.toInt = x.units.tdiv Binary64.one →
        ((∃ w, r.check (.float x) = .ok w) ↔ ∃ w, r.check (.int n) = .ok w) ∧
          (r.raw = false → r.check (.float x) = r.check (.int n))) ∧
      ((∀ n : Int64, n.toInt ≠ x.units.tdiv Binary64.one) →
        (r.format ≠ .nanoseconds → r.check (.float x) = .error .timeOutOfRange) ∧
          (r.format = .nanoseconds → (∃ w, r.check (.float x) = .ok w) ∧
            (r.raw = false → r.check (.float x) = r.check (.int x.limit)))) := by
  have hfloat := timestamp_float h hx
  rw [← Binary64.trunc_eq_tdiv]
  constructor
  · intro n hn
    rw [Binary64.toInt64_eq_of_trunc hx hn] at hfloat
    refine ⟨?_, fun hraw => check_congr hraw hfloat⟩
    rw [exists_check_iff, exists_check_iff, hfloat]
  · intro hbeyond
    rw [Binary64.toInt64_beyond hx hbeyond] at hfloat
    constructor
    · intro hcoarse
      rw [check, hfloat, timestamp_limit h hcoarse]
    · intro hfine
      refine ⟨?_, fun hraw => check_congr hraw hfloat⟩
      rw [exists_check_iff, hfloat]
      exact exists_timestamp_of_nanoseconds hfine _

section Sample

/-- The rule for milliseconds. -/
def milliseconds : TimeRule := ⟨.milliseconds, false, false⟩

/-- The number 1500.5. -/
def withHalf : Binary64 := ⟨0x4097720000000000⟩

/-- Half a millisecond is dropped, and with it the milliseconds are those of the integer. -/
theorem withHalf_check_float_by_count :
    milliseconds.format.unit? = some 1000000 ∧ withHalf.isFinite = true ∧
      (1500 : Int64).toInt = withHalf.units.tdiv Binary64.one ∧
      milliseconds.check (.float withHalf) = milliseconds.check (.int 1500) ∧
      milliseconds.check (.int 1500) = .ok (.string "1970-01-01T00:00:01.500Z") := by
  have hfinite : withHalf.isFinite = true := by decide
  have hpart : (1500 : Int64).toInt = withHalf.units.tdiv Binary64.one := by decide +kernel
  have hsame := (check_float_by_count (r := milliseconds) rfl hfinite).1 1500 hpart
  exact ⟨rfl, hfinite, hpart, hsame.2 rfl, rfl⟩

end Sample

/-- **A float that was taken and should not have been.** In nanoseconds the first float beyond the
integers of 64 bits is taken for the last one of them. -/
theorem not_check_float_refused :
    ¬ ∀ (r : TimeRule) (x : Binary64), r.format.unit?.isSome = true → x.isFinite = true →
      (∀ n : Int64, n.toInt ≠ x.units.tdiv Binary64.one) → ∀ w, r.check (.float x) ≠ .ok w := by
  intro h
  obtain ⟨x, hfinite, hpart⟩ : ∃ x : Binary64, x.isFinite = true ∧
      x.units.tdiv Binary64.one = 2 ^ 63 :=
    ⟨⟨0x43e0000000000000⟩, by decide, by decide +kernel⟩
  have hbeyond : ∀ n : Int64, n.toInt ≠ x.units.tdiv Binary64.one := by
    intro n hn
    have hmost := n.toInt_lt
    omega
  have htaken : ∃ w, (TimeRule.mk .nanoseconds false false).check (.float x) = .ok w := by
    have hunit : (TimeRule.mk .nanoseconds false false).format.unit? = some 1 := rfl
    rw [exists_check_iff, timestamp_float hunit hfinite]
    exact exists_timestamp_of_nanoseconds rfl _
  obtain ⟨w, hw⟩ := htaken
  exact h _ x rfl hfinite hbeyond w hw

end TimeRule

end Intake
