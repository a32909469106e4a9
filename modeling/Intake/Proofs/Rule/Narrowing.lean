import Intake.Proofs.Number.Integral
import Intake.Proofs.Record.Stability
import Intake.Proofs.Rule.Bounds

set_option autoImplicit false

/-!
# Floats narrowed to integers

A float that is an integer of 64 bits stands for that integer, in the rule for integers as in a
field that converts to integers. The two test the range against its limits as floats, and the upper
limit as a float is the first integer beyond the range: the rule leaves it out, the field takes it
and gives the greatest integer of 64 bits for it.

## Main results

* `IntegerRule.narrow?_eq_some_iff`, `coerceToInt_eq_ok_iff` — which floats are narrowed, to what.
* `IntegerRule.check_float_eq_ok_iff_denotes` — a float is taken as the integer that it is.
* `coerce_float_eq_check_iff` — the field and the rule agree away from the limit.
* `not_coerce_float_eq_check` — they do not agree at it.
-/

namespace Intake

namespace Binary64

/-! ### The range of 64 bits -/

/-- The lower limit as a float is the least integer of 64 bits. -/
lemma denotes_least : (ofInt Int64.minValue.toInt).Denotes (-2 ^ 63) :=
  ⟨by decide +kernel, by decide +kernel⟩

/-- The upper limit as a float is the first integer beyond those of 64 bits. -/
lemma denotes_limit : (ofInt Int64.maxValue.toInt).Denotes (2 ^ 63) :=
  ⟨by decide +kernel, by decide +kernel⟩

namespace Denotes

variable {x : Binary64} {n : Int}

/-- An integer within 64 bits is kept. -/
lemma toInt_toInt64 (h : x.Denotes n) (hlow : -2 ^ 63 ≤ n) (hhigh : n < 2 ^ 63) :
    x.toInt64.toInt = n := by
  have hleast : Int64.minValue.toInt = -2 ^ 63 := rfl
  have hmost : Int64.maxValue.toInt = 2 ^ 63 - 1 := rfl
  rw [h.toInt64_eq, hleast, hmost, min_eq_right (by omega), max_eq_right hlow]
  exact Int64.toInt_ofInt_of_le hlow hhigh

/-- The first integer beyond 64 bits becomes the last one within them. -/
lemma toInt64_limit (h : x.Denotes (2 ^ 63)) : x.toInt64 = Int64.maxValue := by
  rw [h.toInt64_eq]
  rfl

end Denotes

end Binary64

open Binary64

/-! ### The rule and the field -/

/-- A float passes the tests up to the one of the upper limit if it is an integer from the lower
limit up. -/
lemma inRange_iff {x : Binary64} {upper : Bool} :
    (x.integral?.isSome && (ofInt Int64.minValue.toInt).le x && upper) = true ↔
      ∃ k, x.Denotes k ∧ -2 ^ 63 ≤ k ∧ upper = true := by
  rw [Bool.and_eq_true, Bool.and_eq_true, Option.isSome_iff_exists]
  constructor
  · rintro ⟨⟨⟨k, hk⟩, hlow⟩, hupper⟩
    have hdenotes := integral?_eq_some_iff.mp hk
    exact ⟨k, hdenotes, (denotes_least.le_iff hdenotes).mp hlow, hupper⟩
  · rintro ⟨k, hdenotes, hlow, hupper⟩
    exact ⟨⟨⟨k, integral?_eq_some_iff.mpr hdenotes⟩, (denotes_least.le_iff hdenotes).mpr hlow⟩,
      hupper⟩

/-- The rule narrows the floats that are integers from the lower limit up to below the upper one. -/
theorem IntegerRule.narrow?_eq_some_iff {x : Binary64} {n : Int64} :
    narrow? x = some n ↔ ∃ k, x.Denotes k ∧ -2 ^ 63 ≤ k ∧ k < 2 ^ 63 ∧ n = x.toInt64 := by
  rw [narrow?, Option.ite_none_right_eq_some, inRange_iff]
  constructor
  · rintro ⟨⟨k, hdenotes, hlow, hhigh⟩, hn⟩
    exact ⟨k, hdenotes, hlow, (hdenotes.lt_iff denotes_limit).mp hhigh, (Option.some.inj hn).symm⟩
  · rintro ⟨k, hdenotes, hlow, hhigh, rfl⟩
    exact ⟨⟨k, hdenotes, hlow, (hdenotes.lt_iff denotes_limit).mpr hhigh⟩, rfl⟩

/-- The field converts the floats that are integers from the lower limit up to the upper one. -/
theorem coerceToInt_eq_ok_iff {x : Binary64} {w : Value} :
    coerceToInt x = .ok w ↔
      ∃ k, x.Denotes k ∧ -2 ^ 63 ≤ k ∧ k ≤ 2 ^ 63 ∧ w = .int x.toInt64 := by
  rw [coerceToInt, ite_eq_ok_iff, inRange_iff]
  constructor
  · rintro ⟨⟨k, hdenotes, hlow, hhigh⟩, hw⟩
    exact ⟨k, hdenotes, hlow, (hdenotes.le_iff denotes_limit).mp hhigh, hw⟩
  · rintro ⟨k, hdenotes, hlow, hhigh, hw⟩
    exact ⟨⟨k, hdenotes, hlow, (hdenotes.le_iff denotes_limit).mpr hhigh⟩, hw⟩

/-- So does an integer target that converts. -/
lemma coerce_float_eq_ok_iff {x : Binary64} {w : Value} :
    Target.int.coerce true (.float x) = .ok w ↔
      ∃ k, x.Denotes k ∧ -2 ^ 63 ≤ k ∧ k ≤ 2 ^ 63 ∧ w = .int x.toInt64 := by
  have hscalar : coerceScalar .int .int true (.float x) = coerceToInt x := rfl
  rw [coerce_of_scalarKind? rfl, mapError_eq_ok_iff, hscalar, coerceToInt_eq_ok_iff]

/-- A rule for integers without bounds takes a float that it narrows. -/
lemma IntegerRule.check_float_eq_ok_iff {convert : Bool} {x : Binary64} {w : Value} :
    check ⟨convert, none, none⟩ (.float x) = .ok w ↔
      ∃ k, x.Denotes k ∧ -2 ^ 63 ≤ k ∧ k < 2 ^ 63 ∧ w = .int x.toInt64 := by
  have hnumber : number? ⟨convert, none, none⟩ (.float x) = narrow? x := rfl
  simp only [check_eq_ok_iff, hnumber, narrow?_eq_some_iff]
  constructor
  · rintro ⟨_, ⟨k, hdenotes, hlow, hhigh, rfl⟩, -, -, hw⟩
    exact ⟨k, hdenotes, hlow, hhigh, hw⟩
  · rintro ⟨k, hdenotes, hlow, hhigh, hw⟩
    exact ⟨_, ⟨k, hdenotes, hlow, hhigh, rfl⟩, nofun, nofun, hw⟩

/-- It takes the float as the integer of 64 bits that it is. -/
lemma IntegerRule.check_float_eq_ok_iff_denotes {convert : Bool} {x : Binary64} {w : Value} :
    check ⟨convert, none, none⟩ (.float x) = .ok w ↔
      ∃ n : Int64, w = .int n ∧ x.Denotes n.toInt := by
  rw [check_float_eq_ok_iff]
  constructor
  · rintro ⟨k, hk, hlow, hhigh, rfl⟩
    exact ⟨x.toInt64, rfl, (hk.toInt_toInt64 hlow hhigh).symm ▸ hk⟩
  · rintro ⟨n, rfl, hn⟩
    have hkept := hn.toInt_toInt64 n.le_toInt n.toInt_lt
    exact ⟨n.toInt, hn, n.le_toInt, n.toInt_lt, congrArg Value.int (Int64.toInt_inj.mp hkept).symm⟩

/-- **When a field that converts to integers and the rule for integers agree on a float.** They come
to the same result for every float but the upper limit, which the field takes and the rule does not.
The rule takes a float exactly as the integer that it is, and takes all floats that are integers of
64 bits.

**Proof sketch.** The two tests differ in the upper limit alone (`coerce_float_eq_ok_iff`,
`IntegerRule.check_float_eq_ok_iff`), and a float is one integer at most. An integer within the
range is kept when it is cut to 64 bits (`Binary64.Denotes.toInt_toInt64`). -/
theorem coerce_float_eq_check_iff (x : Binary64) (convert : Bool) :
    ((∀ w, Target.int.coerce true (.float x) = .ok w ↔
        IntegerRule.check ⟨convert, none, none⟩ (.float x) = .ok w) ↔ ¬ x.Denotes (2 ^ 63)) ∧
      (∀ w, IntegerRule.check ⟨convert, none, none⟩ (.float x) = .ok w ↔
        ∃ n : Int64, w = .int n ∧ x.Denotes n.toInt) ∧
      ((∃ w, IntegerRule.check ⟨convert, none, none⟩ (.float x) = .ok w) ↔
        ∃ k : Int, x.Denotes k ∧ -2 ^ 63 ≤ k ∧ k < 2 ^ 63) := by
  refine ⟨?_, fun w => IntegerRule.check_float_eq_ok_iff_denotes, ?_⟩
  all_goals simp only [coerce_float_eq_ok_iff, IntegerRule.check_float_eq_ok_iff]
  · constructor
    · -- The field has a result at the limit, for which the rule would need a smaller integer.
      intro hagree hlimit
      obtain ⟨k, hk, -, hhigh, -⟩ := (hagree _).mp ⟨2 ^ 63, hlimit, by decide, le_rfl, rfl⟩
      exact absurd (hlimit.unique hk) hhigh.ne'
    · intro hlimit w
      constructor
      · rintro ⟨k, hk, hlow, hhigh, hw⟩
        have hne : k ≠ 2 ^ 63 := by
          rintro rfl
          exact hlimit hk
        exact ⟨k, hk, hlow, lt_of_le_of_ne hhigh hne, hw⟩
      · rintro ⟨k, hk, hlow, hhigh, hw⟩
        exact ⟨k, hk, hlow, hhigh.le, hw⟩
  · constructor
    · rintro ⟨_, k, hk, hlow, hhigh, -⟩
      exact ⟨k, hk, hlow, hhigh⟩
    · rintro ⟨k, hk, hlow, hhigh⟩
      exact ⟨_, k, hk, hlow, hhigh, rfl⟩

/-- **The limit itself.** The float `2 ^ 63` is converted to the integer below it, and the rule
refuses it. -/
theorem not_coerce_float_eq_check :
    ¬ ∀ (x : Binary64) (w : Value), Target.int.coerce true (.float x) = .ok w ↔
      IntegerRule.plain.check (.float x) = .ok w := by
  intro h
  obtain ⟨x, hlimit⟩ : ∃ x : Binary64, x.Denotes (2 ^ 63) :=
    ⟨⟨0x43e0000000000000⟩, by decide +kernel, by decide +kernel⟩
  have hcoerce : Target.int.coerce true (.float x) = .ok (.int Int64.maxValue) :=
    coerce_float_eq_ok_iff.mpr
      ⟨2 ^ 63, hlimit, by decide, le_rfl, congrArg Value.int hlimit.toInt64_limit.symm⟩
  obtain ⟨k, hk, -, hhigh, -⟩ := IntegerRule.check_float_eq_ok_iff.mp ((h _ _).mp hcoerce)
  exact absurd (hlimit.unique hk) hhigh.ne'

end Intake
