import Intake.Proofs.Result
import Intake.Proofs.Rule.Bounds
import Intake.Rule.Binary

set_option autoImplicit false

/-!
# Lengths within bounds

A rule that bounds a length compares the length with the bounds one after the other. The rules for
binary data count the bytes that a text writes. A rule for bytes also takes bytes that it is given,
whatever their number is; a rule for hexadecimal is given text only, so nothing escapes its bounds.

## Main definitions

* `LengthWithin` — a length is within the bounds on it.
* `Value.hexBytes?` — the bytes that a value is or writes.

## Main results

* `checkLength_eq_ok_iff` — the lengths that pass are those within the bounds.
* `BytesRule.check_eq_ok_iff`, `HexRule.check_eq_ok_iff`, `UuidRule.check_eq_ok_iff` — what the
  rules take.
* `accepted_length_within` — what is taken is within the bounds, but for bytes that were given.
* `BytesRule.not_length_within_of_check` — bytes that were taken and are too few.
-/

namespace Intake

/-- A length is at least the lower bound and at most the upper one, as far as there are any. -/
def LengthWithin (length : Nat) (least most : Option UInt64) : Prop :=
  (∀ m ∈ least, m.toNat ≤ length) ∧ ∀ m ∈ most, length ≤ m.toNat

-- By the bounds that there are: the instance for a finite type would go through all its words.
instance (length : Nat) (least most : Option UInt64) : Decidable (LengthWithin length least most) :=
  decidable_of_iff
    ((least.all fun m => m.toNat ≤ length) = true ∧ (most.all fun m => length ≤ m.toNat) = true)
    (by simp [LengthWithin, Option.all_eq_true])

/-- The lengths that pass are those within the bounds. -/
lemma checkLength_eq_ok_iff {length : Nat} {least most : Option UInt64} {unit : LengthUnit}
    {u : Unit} : checkLength length least most unit = .ok u ↔ LengthWithin length least most := by
  have hle : ∀ n m : Nat, m ≤ n ↔ decide (n < m) = false := by simp
  simp only [LengthWithin, hle, ← passes_iff, checkLength]
  cases least.filter fun m => decide (length < m.toNat) with
  | some m => simp
  | none => cases most.filter fun m => decide (m.toNat < length) <;> simp

/-- What is taken after its length was compared. -/
lemma map_checkLength_eq_ok_iff {length : Nat} {least most : Option UInt64} {unit : LengthUnit}
    {v w : Value} : ((checkLength length least most unit).map fun _ => v) = .ok w ↔
      LengthWithin length least most ∧ w = v := by
  simp only [map_eq_ok_iff, checkLength_eq_ok_iff, exists_const, eq_comm (a := w)]

/-- A rule for bytes takes bytes as they are, and text that writes as many bytes as it asks for. -/
theorem BytesRule.check_eq_ok_iff {r : BytesRule} {v w : Value} :
    r.check v = .ok w ↔ ∃ data, w = .bytes data ∧ (v = .bytes data ∨
      ∃ s, v = .string s ∧ r.encoding.decode s = .ok data ∧
        LengthWithin data.length r.minLength r.maxLength) := by
  cases v with
  | bytes data => simp [check, eq_comm]
  | string s =>
    rw [check]
    cases hdata : r.encoding.decode s with
    | error e => simp [hdata]
    | ok data =>
      rw [map_checkLength_eq_ok_iff]
      constructor
      · rintro ⟨hwithin, hw⟩
        exact ⟨data, hw, .inr ⟨s, rfl, hdata, hwithin⟩⟩
      · rintro ⟨_, hw, hgiven | ⟨_, ⟨⟩, hdata', hwithin⟩⟩
        · nomatch hgiven
        · obtain rfl := Except.ok.inj (hdata.symm.trans hdata')
          exact ⟨hwithin, hw⟩
  | _ => simp [check]

/-- A rule for hexadecimal takes text that writes as many bytes as it asks for. -/
theorem HexRule.check_eq_ok_iff {r : HexRule} {v w : Value} :
    r.check v = .ok w ↔ ∃ s data, v = .string s ∧ Hex.decodeText (r.digits s) = .ok data ∧
      LengthWithin data.length r.minLength r.maxLength ∧
        w = if r.convertToBinary then .bytes data else .string (r.digits s) := by
  cases v with
  | string s =>
    rw [check]
    cases hdata : Hex.decodeText (r.digits s) with
    | error e => simp [hdata]
    | ok data => simp [hdata, map_checkLength_eq_ok_iff]
  | _ => simp [check]

/-- A rule for identifiers takes text whose digits write sixteen bytes. -/
theorem UuidRule.check_eq_ok_iff {r : UuidRule} {v w : Value} :
    r.check v = .ok w ↔ ∃ s data, v = .string s ∧ Hex.decodeText (digits s) = .ok data ∧
      data.length = 16 ∧ w = if r.convertToBinary then .bytes data else .string s := by
  cases v with
  | string s =>
    rw [check]
    cases hdata : Hex.decodeText (digits s) with
    | error e => simp [hdata]
    | ok data =>
      constructor
      · intro h
        obtain ⟨hlength, hw⟩ := ite_eq_ok_iff.mp h
        exact ⟨s, data, rfl, hdata, hlength, hw⟩
      · rintro ⟨_, _, ⟨⟩, hdata', hlength, hw⟩
        obtain rfl := Except.ok.inj (hdata.symm.trans hdata')
        exact ite_eq_ok_iff.mpr ⟨hlength, hw⟩
  | _ => simp [check]

/-- The bytes that a value is, or writes in hexadecimal. -/
def Value.hexBytes? : Value → Option (List UInt8)
  | .bytes data => some data
  | .string s => (Hex.decodeText s).toOption
  | _ => none

/-- What a rule for hexadecimal makes of a text is, or writes, the bytes that the text writes. -/
lemma HexRule.hexBytes?_result {r : HexRule} {s : String} {data : List UInt8}
    (h : Hex.decodeText (r.digits s) = .ok data) :
    (if r.convertToBinary then Value.bytes data else .string (r.digits s)).hexBytes? =
      some data := by
  cases r.convertToBinary with
  | true => rfl
  | false => exact toOption_eq_some_iff.mpr h

/-- **The bounds on a length hold for all that the rules for binary data take**, but for bytes that
a rule for bytes is given. It takes the bytes that it decodes from a text within its bounds, and
bytes of any number. A rule for hexadecimal takes exactly the text that writes bytes within its
bounds, and what it makes of the text is, or writes, these bytes.

**Proof sketch.** The bytes that are decoded have their number compared with the bounds
(`checkLength_eq_ok_iff`). The text that a rule for hexadecimal comes to is the one that these bytes
were decoded from (`HexRule.hexBytes?_result`). -/
theorem accepted_length_within (b : BytesRule) (x : HexRule) :
    (∀ v data, b.check v = .ok (.bytes data) ↔ v = .bytes data ∨
        ∃ s, v = .string s ∧ b.encoding.decode s = .ok data ∧
          LengthWithin data.length b.minLength b.maxLength) ∧
      ∀ v w, x.check v = .ok w ↔ ∃ s data, v = .string s ∧ Hex.decodeText (x.digits s) = .ok data ∧
        w = (if x.convertToBinary then .bytes data else .string (x.digits s)) ∧
          w.hexBytes? = some data ∧ LengthWithin data.length x.minLength x.maxLength := by
  constructor
  · intro v data
    simp [BytesRule.check_eq_ok_iff]
  · intro v w
    rw [HexRule.check_eq_ok_iff]
    constructor
    · rintro ⟨s, data, hv, hdata, hwithin, rfl⟩
      exact ⟨s, data, hv, hdata, rfl, HexRule.hexBytes?_result hdata, hwithin⟩
    · rintro ⟨s, data, hv, hdata, hw, -, hwithin⟩
      exact ⟨s, data, hv, hdata, hwithin, hw⟩

example :
    HexRule.check ⟨false, false, some 2, some 2⟩ (.string "de-ad") = .ok (.string "dead") := by
  cbv

/-- **Bytes that were taken and are too few.** One byte is taken where two are asked for. -/
theorem BytesRule.not_length_within_of_check :
    ¬ ∀ (r : BytesRule) (v : Value) (data : List UInt8), r.check v = .ok (.bytes data) →
      LengthWithin data.length r.minLength r.maxLength := by
  intro h
  exact absurd (h ⟨.base64, some 2, none⟩ (.bytes [1]) [1] rfl) (by decide)

end Intake
