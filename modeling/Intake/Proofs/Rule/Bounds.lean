import Intake.Proofs.Number.Order
import Intake.Rule.Number

set_option autoImplicit false

/-!
# Numbers within bounds

A rule for numbers compares a number with its bounds one after the other, and takes it when it is
beyond neither. An integer that is beyond no bound is within the bounds. So is a float, unless it is
NaN, which is beyond nothing and within no bounds at all.

## Main definitions

* `FloatRule.Within` — a float is within the bounds of a rule.

## Main results

* `IntegerRule.check_eq_ok_iff`, `FloatRule.check_eq_ok_iff` — what the rules take.
* `FloatRule.check_eq_ok_iff_within` — the floats that are taken are those within the bounds, and
  NaN.
* `FloatRule.not_within_of_check` — a float that was taken and is not.
-/

namespace Intake

/-- A bound is passed when nothing is beyond it. -/
lemma passes_iff {β : Type} {bound : Option β} {beyond : β → Bool} :
    bound.filter beyond = none ↔ ∀ m ∈ bound, beyond m = false := by
  cases bound <;> simp [Option.filter]

/-- A rule for integers takes the integers within its bounds. -/
theorem IntegerRule.check_eq_ok_iff {r : IntegerRule} {v w : Value} :
    r.check v = .ok w ↔
      ∃ n, r.number? v = some n ∧ (∀ m ∈ r.min, m ≤ n) ∧ (∀ m ∈ r.max, n ≤ m) ∧ w = .int n := by
  have hle : ∀ m n : Int64, m ≤ n ↔ decide (n < m) = false := by simp
  rw [check]
  cases r.number? v with
  | none => simp
  | some n =>
    simp only [Option.some.injEq, exists_eq_left', hle, ← passes_iff]
    cases r.min.filter fun m => decide (n < m) with
    | some m => simp
    | none => cases r.max.filter fun m => decide (m < n) <;> simp [eq_comm]

namespace FloatRule

/-- A rule for floats takes the floats that are beyond neither bound. -/
theorem check_eq_ok_iff {r : FloatRule} {v w : Value} :
    r.check v = .ok w ↔ ∃ x, r.number? v = some x ∧
      (∀ m ∈ r.min, x.lt m = false) ∧ (∀ m ∈ r.max, m.lt x = false) ∧ w = .float x := by
  rw [check]
  cases r.number? v with
  | none => simp
  | some x =>
    simp only [Option.some.injEq, exists_eq_left', ← passes_iff]
    cases r.min.filter fun m => x.lt m with
    | some m => simp
    | none => cases r.max.filter fun m => m.lt x <;> simp [eq_comm]

/-- A float is at least the lower bound and at most the upper one, as far as there are any. -/
def Within (r : FloatRule) (x : Binary64) : Prop :=
  (∀ m ∈ r.min, m.le x = true) ∧ ∀ m ∈ r.max, x.le m = true

/-- NaN is within the bounds of a rule that has none. -/
lemma within_of_isNaN_iff {r : FloatRule} {x : Binary64} (h : x.isNaN = true) :
    r.Within x ↔ r.min = none ∧ r.max = none := by
  have hlow : ∀ m : Binary64, m.le x = false := fun m => (Binary64.le_of_isNaN h m).2
  have hhigh : ∀ m : Binary64, x.le m = false := fun m => (Binary64.le_of_isNaN h m).1
  simp [Within, hlow, hhigh, Option.eq_none_iff_forall_ne_some]

/-- A number is beyond neither bound exactly if it is within the bounds. -/
lemma not_beyond_iff_within {r : FloatRule} (hmin : ∀ m ∈ r.min, m.isNaN = false)
    (hmax : ∀ m ∈ r.max, m.isNaN = false) {x : Binary64} (hx : x.isNaN = false) :
    ((∀ m ∈ r.min, x.lt m = false) ∧ ∀ m ∈ r.max, m.lt x = false) ↔ r.Within x := by
  refine and_congr (forall₂_congr fun m hm => ?_) (forall₂_congr fun m hm => ?_)
  · exact Binary64.lt_eq_false_iff hx (hmin m hm)
  · exact Binary64.lt_eq_false_iff (hmax m hm) hx

/-- NaN is beyond no bound. -/
lemma not_beyond_of_isNaN {x : Binary64} (h : x.isNaN = true) (r : FloatRule) :
    (∀ m ∈ r.min, x.lt m = false) ∧ ∀ m ∈ r.max, m.lt x = false :=
  ⟨fun m _ => (Binary64.lt_of_isNaN h m).1, fun m _ => (Binary64.lt_of_isNaN h m).2⟩

/-- **A rule for floats takes the floats within its bounds, and NaN**, whatever value they are read
from.

**Proof sketch.** The rule looks whether the float is beyond a bound (`check_eq_ok_iff`). The order
of numbers is total, so a number is not beyond a bound exactly if it is within it
(`not_beyond_iff_within`); NaN is beyond no bound (`not_beyond_of_isNaN`). -/
theorem check_eq_ok_iff_within {r : FloatRule} (hmin : ∀ m ∈ r.min, m.isNaN = false)
    (hmax : ∀ m ∈ r.max, m.isNaN = false) {v : Value} {x : Binary64} :
    r.check v = .ok (.float x) ↔ r.number? v = some x ∧ (x.isNaN = true ∨ r.Within x) := by
  have htaken : r.check v = .ok (.float x) ↔
      r.number? v = some x ∧ (∀ m ∈ r.min, x.lt m = false) ∧ ∀ m ∈ r.max, m.lt x = false := by
    rw [check_eq_ok_iff]
    constructor
    · rintro ⟨_, hnumber, hlow, hhigh, ⟨⟩⟩
      exact ⟨hnumber, hlow, hhigh⟩
    · rintro ⟨hnumber, hlow, hhigh⟩
      exact ⟨x, hnumber, hlow, hhigh, rfl⟩
  rw [htaken]
  refine and_congr_right fun _ => ?_
  cases hx : x.isNaN with
  | true => exact iff_of_true (not_beyond_of_isNaN hx r) (.inl rfl)
  | false =>
    rw [not_beyond_iff_within hmin hmax hx]
    simp

/-- The numbers from zero to one, in text too. -/
def share : FloatRule := ⟨true, some (.zero false), some ⟨0x3ff0000000000000⟩⟩

/-- A half, read from a text with blanks around it, is such a number. -/
theorem share_within_half :
    (∀ m ∈ share.min, m.isNaN = false) ∧ (∀ m ∈ share.max, m.isNaN = false) ∧
      share.check (.string " 5e-1 ") = .ok (.float ⟨0x3fe0000000000000⟩) ∧
        share.Within ⟨0x3fe0000000000000⟩ := by
  have hmin : ∀ m ∈ share.min, m.isNaN = false := by
    rintro _ ⟨⟩
    decide
  have hmax : ∀ m ∈ share.max, m.isNaN = false := by
    rintro _ ⟨⟩
    decide
  have hnumber : share.number? (.string " 5e-1 ") = some ⟨0x3fe0000000000000⟩ := by
    decide +kernel
  have hcheck : share.check (.string " 5e-1 ") = .ok (.float ⟨0x3fe0000000000000⟩) := by
    refine check_eq_ok_iff.mpr ⟨_, hnumber, ?_, ?_, rfl⟩
    all_goals
      rintro _ ⟨⟩
      decide +kernel
  have hwithin := ((check_eq_ok_iff_within hmin hmax).mp hcheck).2.resolve_left (by decide)
  exact ⟨hmin, hmax, hcheck, hwithin⟩

/-- **A float that was taken and is not within the bounds.** NaN is taken for a number that is not
negative. -/
theorem not_within_of_check :
    ¬ ∀ r : FloatRule, (∀ m ∈ r.min, m.isNaN = false) → (∀ m ∈ r.max, m.isNaN = false) →
      ∀ (v : Value) (x : Binary64), r.check v = .ok (.float x) → r.Within x := by
  intro h
  have hmin : ∀ m ∈ some (Binary64.zero false), m.isNaN = false := by
    rintro _ ⟨⟩
    decide
  have hwithin := h ⟨false, some (.zero false), none⟩ hmin nofun (.float .nan) .nan rfl
  exact absurd ((within_of_isNaN_iff (by decide)).mp hwithin).1 nofun

end FloatRule

end Intake
