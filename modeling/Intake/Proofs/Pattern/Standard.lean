import Intake.Pattern.Standard
import Mathlib.Tactic.Lemma
import Mathlib.Tactic.SplitIfs

set_option autoImplicit false

/-!
# What the standard engine promises

The standard engine reads the empty pattern and the one that stands for no pattern as patterns that
may take no characters, and these are found in every text.

## Main definitions

* `PatternTree.isBlank` — patterns that may take no characters.

## Main results

* `standardEngine_lawful` — the standard engine is lawful.
-/

namespace Intake

/-- A turn leaves a place where there is one. -/
lemma takeUpTo_ne_zero (turn : Places → Places) (n : Nat) {s : Places} (h : s ≠ 0) :
    takeUpTo turn n s ≠ 0 := by
  induction n generalizing s with
  | zero => exact h
  | succ n ih =>
    rw [takeUpTo]
    split_ifs
    · exact h
    · exact ih fun hzero => h (Nat.or_eq_zero_iff.mp hzero).1

/-- Every text has a place. -/
lemma Places.all_ne_zero (count : Nat) : Places.all count ≠ 0 := by
  rw [Places.all, Nat.one_shiftLeft]
  exact Nat.sub_ne_zero_of_lt (Nat.one_lt_two_pow (Nat.succ_ne_zero count))

namespace PatternTree

/-- Whether a pattern is seen to take no characters if there are none. -/
def isBlank : PatternTree → Bool
  | .empty => true
  | .turns 0 _ _ => true
  | _ => false

/-- A pattern that may take no characters occurs in every text. -/
lemma occursIn_of_isBlank {t : PatternTree} (h : t.isBlank = true) (s : String) :
    t.occursIn s = true := by
  have hreach : ∀ (text : Array Char) (places : Places), places ≠ 0 → t.reach text places ≠ 0 := by
    intro text places hplaces
    cases t with
    | empty => exact hplaces
    | turns least most t =>
      cases least with
      | succ n => cases h
      | zero => cases most <;> exact takeUpTo_ne_zero _ _ hplaces
    | one | place | group | sequence | choice => cases h
  rw [occursIn, bne_iff_ne]
  exact hreach _ _ (Places.all_ne_zero _)

end PatternTree

/-- A text that is read as a pattern that may take no characters compiles and matches every
text. -/
lemma Pattern.exists_ofText_of_isBlank {text : String}
    (h : (PatternTree.read? text).any PatternTree.isBlank = true) :
    ∃ p, Pattern.ofText text = .ok p ∧ ∀ s, p.occursIn s = true := by
  cases hread : PatternTree.read? text with
  | none =>
    rw [hread] at h
    cases h
  | some t =>
    rw [hread] at h
    have hcompile : PatternEngine.compile text = .ok t.occursIn := by
      simp only [PatternEngine.compile, hread]
    exact ⟨⟨text, t.occursIn⟩, by rw [ofText, hcompile]; rfl, PatternTree.occursIn_of_isBlank h⟩

/-- **The standard engine is lawful.** -/
theorem standardEngine_lawful : PatternEngine.Lawful where
  any := Pattern.exists_ofText_of_isBlank (by decide +kernel)
  empty := by
    have hblank : (PatternTree.read? "").any PatternTree.isBlank = true := rfl
    obtain ⟨q, hq, hmatch⟩ := Pattern.exists_ofText_of_isBlank hblank
    intro p hp
    obtain rfl : q = p := Except.ok.inj (hq.symm.trans hp)
    exact hmatch

end Intake
