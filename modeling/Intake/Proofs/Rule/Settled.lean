import Intake.Proofs.Form.Lists
import Intake.Proofs.Rule.Hexadecimal

set_option autoImplicit false

/-!
# Rules that leave their results alone

A rule that normalizes turns what it takes into another form: text into a number, an integer into a
float, text into bytes, a missing value into its default. The result then goes through another
branch of the same rule, with the same bounds, and comes back as it is. So what a form has given can
be given to the form again.

## Main definitions

* `Settles` — a check gives its own results back.
* `Rule.Normalizing` — the rules that normalize, and lists of what they take.

## Main results

* `settles_of_unchanged` — a check that changes nothing gives its results back.
* `Rule.Normalizing.check_idempotent` — a rule that normalizes gives its own results back.
-/

namespace Intake

/-- A check takes what it has given, and gives it back unchanged. -/
def Settles (f : Value → Except Rejection Value) : Prop := ∀ v w, f v = .ok w → f w = .ok w

/-- A check that gives values back as they are gives its results back, too. -/
lemma settles_of_unchanged {f : Value → Except Rejection Value}
    (h : ∀ v w, f v = .ok w → w = v) : Settles f := by
  intro v w hw
  obtain rfl := h v w hw
  exact hw

/-! ### The rules for scalars -/

/-- A rule for text changes nothing. -/
lemma TextRule.check_settles (r : TextRule) : Settles r.check := by
  refine settles_of_unchanged fun v w h => ?_
  cases v with
  | string s => exact (map_checkLength_eq_ok_iff.mp h).2
  | null | bool | int | float | bytes | list | map => cases h

/-- The integer that a rule has read off a value passes as itself. -/
lemma IntegerRule.check_settles (r : IntegerRule) : Settles r.check := by
  intro v w h
  obtain ⟨n, -, hmin, hmax, rfl⟩ := check_eq_ok_iff.mp h
  exact check_eq_ok_iff.mpr ⟨n, rfl, hmin, hmax, rfl⟩

/-- The float that a rule has read off a value passes as itself, NaN included. -/
lemma FloatRule.check_settles (r : FloatRule) : Settles r.check := by
  intro v w h
  obtain ⟨x, -, hmin, hmax, rfl⟩ := check_eq_ok_iff.mp h
  exact check_eq_ok_iff.mpr ⟨x, rfl, hmin, hmax, rfl⟩

/-- A rule for booleans gives a boolean. -/
lemma BooleanRule.check_settles (r : BooleanRule) : Settles r.check := by
  intro v w h
  have hbool : ∃ b, w = .bool b := by
    cases v with
    | bool b => exact ⟨b, (Except.ok.inj h).symm⟩
    | string s =>
      rw [check] at h
      split_ifs at h
      · exact ⟨true, (Except.ok.inj h).symm⟩
      · exact ⟨false, (Except.ok.inj h).symm⟩
    | null | int | float | bytes | list | map => cases h
  obtain ⟨b, rfl⟩ := hbool
  rfl

/-- A rule for bytes gives bytes, which it takes in any number. -/
lemma BytesRule.check_settles (r : BytesRule) : Settles r.check := by
  intro v w h
  obtain ⟨data, rfl, -⟩ := check_eq_ok_iff.mp h
  exact check_eq_ok_iff.mpr ⟨data, rfl, .inl rfl⟩

/-- A rule for patterns changes nothing. -/
lemma PatternRule.check_settles (r : PatternRule) : Settles r.check := by
  refine settles_of_unchanged fun v w h => ?_
  cases v with
  | string s =>
    exact (ite_eq_ok_iff.mp h).2
  | null | bool | int | float | bytes | list | map => cases h

/-- Nor does a choice among values. -/
lemma OneOfRule.check_settles (r : OneOfRule) : Settles r.check :=
  settles_of_unchanged fun _ _ h => (ite_eq_ok_iff.mp h).2

/-- Nor does the exclusion of values. -/
lemma NoneOfRule.check_settles (r : NoneOfRule) : Settles r.check := by
  refine settles_of_unchanged fun v w h => ?_
  rw [check] at h
  cases hfind : r.values.find? fun illegal => illegal.equal v with
  | some illegal =>
    rw [hfind] at h
    cases h
  | none =>
    rw [hfind] at h
    exact (Except.ok.inj h).symm

/-- A rule for hexadecimal that keeps text gives the digits alone. -/
lemma HexRule.check_settles {r : HexRule} (h : r.convertToBinary = false) : Settles r.check := by
  intro v w hw
  obtain ⟨s, data, -, hdata, hwithin, rfl⟩ := check_eq_ok_iff.mp hw
  refine check_eq_ok_iff.mpr ⟨r.digits s, data, by simp [h], ?_, hwithin, ?_⟩
  · rw [digits_digits]
    exact hdata
  · rw [digits_digits]

/-- A rule for identifiers that keeps text keeps the hyphens in it. -/
lemma UuidRule.check_settles {r : UuidRule} (h : r.convertToBinary = false) : Settles r.check := by
  refine settles_of_unchanged fun v w hw => ?_
  obtain ⟨s, data, rfl, -, -, rfl⟩ := check_eq_ok_iff.mp hw
  simp [h]

/-- A default is given again if it counts as missing itself. -/
lemma OptionalRule.apply_apply (r : OptionalRule) (v : Value) :
    r.apply (r.apply v) = r.apply v := by
  by_cases hv : isMissing v = true <;> simp [apply, hv]

/-! ### All of them -/

namespace Rule

/-- A rule that normalizes: for a scalar, for what may be missing but is not generated, for
hexadecimal kept as text, or for a list of what one such rule takes. -/
inductive Normalizing : Rule → Prop where
  | text (r : TextRule) : Normalizing (.text r)
  | integer (r : IntegerRule) : Normalizing (.integer r)
  | float (r : FloatRule) : Normalizing (.float r)
  | boolean (r : BooleanRule) : Normalizing (.boolean r)
  | bytes (r : BytesRule) : Normalizing (.bytes r)
  | pattern (r : PatternRule) : Normalizing (.pattern r)
  | oneOf (r : OneOfRule) : Normalizing (.oneOf r)
  | noneOf (r : NoneOfRule) : Normalizing (.noneOf r)
  | hex {r : HexRule} (text : r.convertToBinary = false) : Normalizing (.hex r)
  | uuid {r : UuidRule} (text : r.convertToBinary = false) : Normalizing (.uuid r)
  | optional {r : OptionalRule} (fixed : r.generator = none) : Normalizing (.optional r)
  | list {r : Rule} (item : Normalizing r) : Normalizing (.list [r])

/-- **A rule that normalizes leaves its own results alone.** What it gives for a value it takes
again, whatever the sibling values and the context are then, and gives it back unchanged, floats to
the last bit.

**Proof sketch.** Induction on the nesting of lists. A rule for scalars either changes nothing or
gives a value of its own kind, which it has already compared with its bounds; what was missing has
become the default, or is missing again. A list is taken item by item, and each item of the result
comes from an item that passed. -/
theorem Normalizing.check_idempotent {r : Rule} (hr : r.Normalizing)
    {values values' : Dict Value} {context context' : Option (Dict Value)} {v w : Value}
    (h : r.check values context v = .ok w) : r.check values' context' w = .ok w := by
  induction hr generalizing v w with
  | text r => exact r.check_settles v w h
  | integer r => exact r.check_settles v w h
  | float r => exact r.check_settles v w h
  | boolean r => exact r.check_settles v w h
  | bytes r => exact r.check_settles v w h
  | pattern r => exact r.check_settles v w h
  | oneOf r => exact r.check_settles v w h
  | noneOf r => exact r.check_settles v w h
  | hex text => exact HexRule.check_settles text v w h
  | uuid text => exact UuidRule.check_settles text v w h
  | optional =>
    rw [Rule.check] at h ⊢
    rw [← Except.ok.inj h, OptionalRule.apply_apply]
  | list _ ih =>
    obtain ⟨items, ws, rfl, rfl, hitems⟩ := check_list_eq_ok_iff.mp h
    refine check_list_eq_ok_iff.mpr ⟨ws, ws, rfl, rfl, List.forall₂_same.mpr fun u hu => ?_⟩
    obtain ⟨item, -, hitem⟩ := exists_mem_of_forall₂ hitems hu
    rw [checkNested_singleton] at hitem ⊢
    exact ih hitem

section Sample

/-- Rows of sizes from 1 to 9, also as text. -/
def sizesRule : Rule := .list [.list [.integer ⟨true, some 1, some 9⟩]]

/-- Rows as they are sent. -/
def sentSizes : Value := .list [.list [.string " +7", .int 3], .list [.string "9"]]

/-- The same rows as the rule gives them. -/
def keptSizes : Value := .list [.list [.int 7, .int 3], .list [.int 9]]

/-- Texts become integers, and the integers stay, whatever stands beside them then. -/
theorem sizes_check_idempotent :
    sizesRule.Normalizing ∧ sizesRule.check [] none sentSizes = .ok keptSizes ∧
      sizesRule.check [("sizes", keptSizes)] none keptSizes = .ok keptSizes := by
  have hrule : sizesRule.Normalizing := .list (.list (.integer _))
  have hcheck : sizesRule.check [] none sentSizes = .ok keptSizes := rfl
  exact ⟨hrule, hcheck, hrule.check_idempotent hcheck⟩

end Sample

end Rule

end Intake
