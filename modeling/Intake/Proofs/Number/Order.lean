import Intake.Number.Binary64
import Mathlib.Algebra.Group.Nat.Defs
import Mathlib.Tactic.Lemma
import Mathlib.Tactic.SplitIfs

set_option autoImplicit false

/-!
# The order of floats

The comparisons of floats compare places on the extended line. NaN has none, so it is neither below
nor above anything; every other word has one, and of two such words one is below the other or not
above it.

## Main results

* `Binary64.eq_of_not_finite` — a word that is not finite is NaN or one of the infinities.
* `Binary64.lt_negative_infinity`, `Binary64.positive_infinity_lt` — nothing is beyond the
  infinities.
* `Binary64.lt_of_isNaN`, `Binary64.le_of_isNaN` — NaN compares with nothing.
* `Binary64.lt_eq_false_iff` — the order of numbers is total.
-/

namespace Intake

namespace Binary64

/-! ### Words that are not finite -/

/-- A word that is not finite is NaN or one of the infinities. -/
lemma eq_of_not_finite {x : Binary64} (h : x.isFinite = false) :
    x.isNaN = true ∨ x = infinity false ∨ x = infinity true := by
  have hfield : x.exponentField = 2047 := by simpa [isFinite] using h
  by_cases hfraction : x.fractionField = 0
  · right
    have hword : x.bits.toNat < 2 ^ 64 := x.bits.toNat_lt
    have hexponent : x.bits.toNat / 2 ^ 52 % 2 ^ 11 = 2047 := hfield
    have hrest : x.bits.toNat % 2 ^ 52 = 0 := hfraction
    have hbits : x.bits.toNat = 0x7ff0000000000000 ∨ x.bits.toNat = 0xfff0000000000000 := by
      omega
    refine hbits.imp (fun hword => ?_) fun hword => ?_
    · exact congrArg Binary64.mk (UInt64.toNat_inj.mp hword)
    · exact congrArg Binary64.mk (UInt64.toNat_inj.mp hword)
  · left
    simp [isNaN, hfield, hfraction]

/-- A finite number is no NaN. -/
lemma not_isNaN_of_isFinite {x : Binary64} (h : x.isFinite = true) : x.isNaN = false := by
  have hfield : x.exponentField ≠ 2047 := by simpa [isFinite] using h
  simp [isNaN, hfield]

/-- Nor is it an infinity. -/
lemma not_isInfinite_of_isFinite {x : Binary64} (h : x.isFinite = true) :
    x.isInfinite = false := by
  have hfield : x.exponentField ≠ 2047 := by simpa [isFinite] using h
  simp [isInfinite, hfield]

/-- A word made of a field without a sign is a number. -/
lemma not_isNaN_ofField (field : Nat) : (ofField false field).isNaN = false := by
  have h52 : Nat.pow 2 52 = 4503599627370496 := rfl
  have h11 : Nat.pow 2 11 = 2048 := rfl
  by_cases hfield : 2047 * Nat.pow 2 52 ≤ field
  · rw [ofField, if_pos hfield]
    decide
  · have hsize : UInt64.size = 18446744073709551616 := rfl
    have hnat : (UInt64.ofNat field).toNat = field := UInt64.toNat_ofNat_of_lt' (by omega)
    have hquotient : field / 4503599627370496 < 2047 := by omega
    have hexponent : field / 4503599627370496 % 2048 ≠ 2047 := by omega
    rw [ofField, if_neg hfield]
    apply not_isNaN_of_isFinite
    simpa [isFinite, exponentField, hnat] using hexponent

/-- The float nearest to a natural is a number. -/
lemma not_isNaN_ofNat (n : Nat) : (ofNat n).isNaN = false := by
  rw [ofNat, ofRatio]
  split_ifs
  · decide
  · exact not_isNaN_ofField _

/-! ### Places -/

/-- The place of a finite number is the number of its units. -/
lemma rank?_of_isFinite {x : Binary64} (h : x.isFinite = true) : x.rank? = some x.units := by
  simp [rank?, not_isNaN_of_isFinite h, not_isInfinite_of_isFinite h]

/-- NaN has no place. -/
lemma rank?_of_isNaN {x : Binary64} (h : x.isNaN = true) : x.rank? = none := if_pos h

/-- Every other word has one. -/
lemma exists_rank? {x : Binary64} (h : x.isNaN = false) : ∃ a, x.rank? = some a := by
  rw [rank?, h]
  cases x.isInfinite <;> exact ⟨_, rfl⟩

/-- The significand of a number takes 53 bits. -/
lemma significand_lt (x : Binary64) : x.significand < 2 ^ 53 := by
  have hfraction : x.fractionField < 2 ^ 52 := Nat.mod_lt _ (by decide)
  have hhidden : Nat.pow 2 52 = 2 ^ 52 := rfl
  rw [significand, hhidden]
  split_ifs <;> omega

/-- A significand takes 53 bits, and the shift adds to them. -/
lemma magnitude_lt {x : Binary64} {n : Nat} (h : 53 + x.shift ≤ n) : x.magnitude < Nat.pow 2 n := by
  have hpositive : 0 < Nat.pow 2 x.shift := Nat.pow_pos (by decide)
  calc x.magnitude = x.significand * Nat.pow 2 x.shift := rfl
    _ < 2 ^ 53 * Nat.pow 2 x.shift := Nat.mul_lt_mul_of_pos_right x.significand_lt hpositive
    _ = Nat.pow 2 (53 + x.shift) := (Nat.pow_add 2 53 x.shift).symm
    _ ≤ Nat.pow 2 n := Nat.pow_le_pow_right (by decide) h

/-- No place is beyond a bound of the magnitude that stands for the infinities. -/
lemma place_within {x : Binary64} {far : Nat} (hfar : x.magnitude < far) {a : Int}
    (h : (if x.isNaN then none else if x.isInfinite then
      some (if x.negative then -(far : Int) else far) else some x.units) = some a) :
    -(far : Int) ≤ a ∧ a ≤ far := by
  have hunits : x.units = x.magnitude ∨ x.units = -(x.magnitude : Int) := by
    rw [units]
    split_ifs
    · exact .inr rfl
    · exact .inl rfl
  split_ifs at h <;> cases h <;> omega

/-- No number has a place beyond the infinities. -/
lemma rank_within {x : Binary64} {a : Int} (h : x.rank? = some a) :
    -(Nat.pow 2 2100 : Int) ≤ a ∧ a ≤ Nat.pow 2 2100 := by
  have hshift : 53 + x.shift ≤ 2100 := by
    have hfield : x.exponentField < 2 ^ 11 := Nat.mod_lt _ (by decide)
    rw [shift]
    omega
  have hfar := magnitude_lt hshift
  exact place_within hfar h

/-! ### Comparing -/

/-- Every number equals itself. -/
lemma equal_self_of_not_isNaN {x : Binary64} (h : x.isNaN = false) : x.equal x = true := by
  obtain ⟨r, hr⟩ := exists_rank? h
  simp [equal, hr]

/-- No number is below the negative infinity. -/
lemma lt_negative_infinity (x : Binary64) : x.lt (infinity true) = false := by
  have hrank : (infinity true).rank? = some (-(Nat.pow 2 2100 : Int)) := rfl
  rw [lt, hrank]
  cases hx : x.rank? with
  | none => rfl
  | some a => exact decide_eq_false (Int.not_lt.mpr (rank_within hx).1)

/-- The positive infinity is below no number. -/
lemma positive_infinity_lt (x : Binary64) : (infinity false).lt x = false := by
  have hrank : (infinity false).rank? = some (Nat.pow 2 2100 : Int) := rfl
  rw [lt, hrank]
  cases hx : x.rank? with
  | none => rfl
  | some a => exact decide_eq_false (Int.not_lt.mpr (rank_within hx).2)

/-- NaN is below no number, and no number is below NaN. -/
lemma lt_of_isNaN {x : Binary64} (h : x.isNaN = true) (y : Binary64) :
    x.lt y = false ∧ y.lt x = false := by
  rw [lt, lt, rank?_of_isNaN h]
  exact ⟨rfl, by cases y.rank? <;> rfl⟩

/-- Nor is one of the two at most the other. -/
lemma le_of_isNaN {x : Binary64} (h : x.isNaN = true) (y : Binary64) :
    x.le y = false ∧ y.le x = false := by
  rw [le, le, rank?_of_isNaN h]
  exact ⟨rfl, by cases y.rank? <;> rfl⟩

/-- Of two numbers, one is below the other or not above it. -/
lemma lt_eq_false_iff {x y : Binary64} (hx : x.isNaN = false) (hy : y.isNaN = false) :
    x.lt y = false ↔ y.le x = true := by
  obtain ⟨a, ha⟩ := exists_rank? hx
  obtain ⟨b, hb⟩ := exists_rank? hy
  simp [lt, le, ha, hb]

/-- No number is below a word that is not finite, unless it is the positive infinity. -/
lemma not_lt_of_not_finite {x : Binary64} (h : x.isFinite = false) (hx : x ≠ infinity false)
    (y : Binary64) : y.lt x = false := by
  obtain hnan | rfl | rfl := eq_of_not_finite h
  · exact (lt_of_isNaN hnan y).2
  · exact absurd rfl hx
  · exact y.lt_negative_infinity

/-- A word that is not finite is below no number, unless it is the negative infinity. -/
lemma lt_of_not_finite {x : Binary64} (h : x.isFinite = false) (hx : x ≠ infinity true)
    (y : Binary64) : x.lt y = false := by
  obtain hnan | rfl | rfl := eq_of_not_finite h
  · exact (lt_of_isNaN hnan y).1
  · exact y.positive_infinity_lt
  · exact absurd rfl hx

end Binary64

end Intake
