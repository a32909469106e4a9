import Intake.Proofs.Number.Order
import Mathlib.Algebra.Order.Ring.Int
import Mathlib.Tactic.Ring

set_option autoImplicit false

/-!
# Floats that are integers

A finite float is an integer when its units are a multiple of the units of one. Reading the integer
off, comparing and truncating then agree with the integers.

## Main definitions

* `Binary64.Denotes` — a float is the integer.

## Main results

* `Binary64.integral?_eq_some_iff` — the integer that is read off a float is the one that it is.
* `Binary64.trunc_eq_tdiv` — what is left of a float without its fraction.
* `Binary64.Denotes.le_iff`, `Binary64.Denotes.lt_iff` — floats compare as the integers that they
  are.
* `Binary64.Denotes.toInt64_eq` — such a float becomes the integer of 64 bits next to it.
-/

namespace Intake

namespace Binary64

/-- A float is finite and, as a number of the real line, the integer. -/
def Denotes (x : Binary64) (n : Int) : Prop := x.isFinite = true ∧ x.units = n * one

/-- One has units. -/
lemma one_pos : (0 : Int) < one := by decide +kernel

/-- A sign and a natural that is a multiple of a unit are an integer times the unit, and no other
natural is. -/
lemma signed_eq_mul_iff {negative : Bool} {m d : Nat} {n : Int} (hd : (0 : Int) < d) :
    (if negative then -(m : Int) else m) = n * d ↔
      m % d = 0 ∧ (if negative then -((m / d : Nat) : Int) else (m / d : Nat)) = n := by
  have hpos : 0 < d := Int.natCast_pos.mp hd
  have hsplit : (d : Int) * (m / d : Nat) + (m % d : Nat) = m := by
    exact_mod_cast Nat.div_add_mod m d
  constructor
  · intro h
    have hdvd : (d : Int) ∣ m := by
      cases negative with
      | false => exact ⟨n, by simpa [mul_comm] using h⟩
      | true => exact Int.dvd_neg.mp ⟨n, by simpa [mul_comm] using h⟩
    have hmod : m % d = 0 := Nat.mod_eq_zero_of_dvd (Int.natCast_dvd_natCast.mp hdvd)
    refine ⟨hmod, Int.eq_of_mul_eq_mul_right hd.ne' ?_⟩
    rw [← h]
    rw [hmod] at hsplit
    cases negative with
    | false => simpa [mul_comm] using hsplit
    | true => simpa [mul_comm] using hsplit
  · rintro ⟨hmod, rfl⟩
    rw [hmod] at hsplit
    cases negative with
    | false => simpa [mul_comm] using hsplit.symm
    | true => simpa [mul_comm] using hsplit.symm

/-- The integer that is read off a float is the one that it is. -/
theorem integral?_eq_some_iff {x : Binary64} {n : Int} : x.integral? = some n ↔ x.Denotes n := by
  rw [Denotes, units, signed_eq_mul_iff one_pos, integral?, Option.ite_none_right_eq_some,
    Bool.and_eq_true, beq_iff_eq, Option.some.injEq, and_assoc]

/-- The integer part is the quotient by one, rounded toward zero. -/
lemma trunc_eq_tdiv (x : Binary64) : x.trunc = x.units.tdiv one := by
  rw [trunc, units, Int.ofNat_tdiv]
  cases x.negative with
  | false => rfl
  | true => exact (Int.neg_tdiv _ _).symm

/-- The integer part of a number is cut to 64 bits. -/
lemma toInt64_of_isFinite {x : Binary64} (h : x.isFinite = true) :
    x.toInt64 = Int64.ofInt (max Int64.minValue.toInt (min Int64.maxValue.toInt x.trunc)) := by
  simp [toInt64, not_isNaN_of_isFinite h, not_isInfinite_of_isFinite h]

namespace Denotes

variable {x y : Binary64} {n k : Int}

/-- The integer part of an integer is the integer. -/
lemma trunc_eq (h : x.Denotes n) : x.trunc = n := ((signed_eq_mul_iff one_pos).mp h.2).2

/-- A float is one integer at most. -/
lemma unique (h : x.Denotes n) (hk : x.Denotes k) : n = k := h.trunc_eq.symm.trans hk.trunc_eq

/-- The place of an integer is its number of units. -/
lemma rank?_eq (h : x.Denotes n) : x.rank? = some (n * one) := by
  rw [rank?_of_isFinite h.1, h.2]

/-- Floats that are integers compare as these. -/
lemma le_iff (hx : x.Denotes n) (hy : y.Denotes k) : x.le y = true ↔ n ≤ k := by
  rw [le, hx.rank?_eq, hy.rank?_eq]
  exact decide_eq_true_iff.trans (mul_le_mul_iff_left₀ one_pos)

/-- Floats that are integers compare strictly as these. -/
lemma lt_iff (hx : x.Denotes n) (hy : y.Denotes k) : x.lt y = true ↔ n < k := by
  rw [lt, hx.rank?_eq, hy.rank?_eq]
  exact decide_eq_true_iff.trans (mul_lt_mul_iff_left₀ one_pos)

/-- A float that is an integer becomes the integer of 64 bits next to it. -/
lemma toInt64_eq (h : x.Denotes n) :
    x.toInt64 = Int64.ofInt (max Int64.minValue.toInt (min Int64.maxValue.toInt n)) := by
  rw [toInt64_of_isFinite h.1, h.trunc_eq]

end Denotes

end Binary64

end Intake
