import Intake.Proofs.Form.Alike
import Intake.Proofs.Number.Order

set_option autoImplicit false

/-!
# Parameters that say nothing

A bound that no number is beyond, a default that is null and a pattern that matches every text do
nothing. Rules with such parameters do the same as rules without them.

## Main results

* `Rule.Alike.optional_null` — a default that is null.
* `Rule.Alike.float` — bounds that no number is beyond.
* `Rule.Alike.pattern` — patterns that match every text.
-/

namespace Intake

/-- Null as a default is no default. -/
lemma Rule.Alike.optional_null :
    (Rule.optional .plain).Alike (.optional (.withDefault .null)) := by
  funext values context v
  rfl

/-! ### Bounds -/

/-- A lower bound is the other one, or is given up because no number is below it. -/
def LowerAlike (bound bound' : Option Binary64) : Prop :=
  bound' = bound ∨ bound' = none ∧ ∀ x ∈ bound, ∀ y : Binary64, y.lt x = false

/-- An upper bound is the other one, or is given up because it is below no number. -/
def UpperAlike (bound bound' : Option Binary64) : Prop :=
  bound' = bound ∨ bound' = none ∧ ∀ x ∈ bound, ∀ y : Binary64, x.lt y = false

/-- **Bounds that no number is beyond may be given up.** -/
theorem Rule.Alike.float (convert : Bool) {least least' most most' : Option Binary64}
    (hleast : LowerAlike least least') (hmost : UpperAlike most most') :
    (Rule.float ⟨convert, least', most'⟩).Alike (.float ⟨convert, least, most⟩) := by
  have hlower : ∀ y : Binary64,
      (least'.filter fun x => y.lt x) = least.filter fun x => y.lt x := by
    intro y
    obtain rfl | ⟨rfl, hnone⟩ := hleast
    · rfl
    · cases least with
      | none => rfl
      | some x => simp [Option.filter, hnone x rfl y]
  have hupper : ∀ y : Binary64,
      (most'.filter fun x => x.lt y) = most.filter fun x => x.lt y := by
    intro y
    obtain rfl | ⟨rfl, hnone⟩ := hmost
    · rfl
    · cases most with
      | none => rfl
      | some x => simp [Option.filter, hnone x rfl y]
  have hnumber : ∀ v, (FloatRule.mk convert least' most').number? v =
      (FloatRule.mk convert least most).number? v := fun v => by cases v <;> rfl
  funext values context v
  simp only [Rule.check, FloatRule.check, hnumber, hlower, hupper]

/-! ### Patterns -/

/-- **Patterns that match every text do the same**, up to the text of the pattern in rejections, of
which there are none. -/
theorem Rule.Alike.pattern {p q : Pattern} (hp : ∀ s, p.occursIn s = true)
    (hq : ∀ s, q.occursIn s = true) : (Rule.pattern ⟨p⟩).Alike (.pattern ⟨q⟩) := by
  funext values context v
  cases v with
  | string s => simp [Rule.check, PatternRule.check, hp s, hq s]
  | null | bool | int | float | bytes | list | map => rfl

end Intake
