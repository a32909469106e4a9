import Intake.Proofs.Encoding.Hex
import Intake.Proofs.Rule.Lengths

set_option autoImplicit false

/-!
# Three readers of hexadecimal text

Identifiers, hexadecimal text and encoded bytes are read by three rules. They differ in whether
hyphens are taken out, in the number of bytes that they ask for, and in whether the text or the
bytes are the result. Apart from that they read the same texts as the same bytes.

## Main definitions

* `digitChars` — the characters of a text that should be digits.

## Main results

* `HexRule.digits_eq_digits` — the two ways to drop hyphens come to the same.
* `HexRule.check_eq_bytes_iff`, `UuidRule.check_eq_bytes_iff`, `BytesRule.check_eq_bytes_iff` — the
  rules decode the bytes that the characters write.
* `HexRule.exists_check_iff`, `UuidRule.exists_check_iff` — which texts are taken, whatever the form
  of the result.
* `hex_readers_agree` — the three rules agree.
-/

namespace Intake

/-- The characters of a text that should be digits: all of them, or all but the hyphens. -/
def digitChars (strict : Bool) (s : String) : List Char :=
  if strict then s.toList else s.toList.filter (· != '-')

/-- A character that is replaced by nothing is taken out. -/
lemma toList_replaceChar_empty (s : String) (old : Char) :
    (replaceChar s old "").toList = s.toList.filter (· != old) := by
  rw [replaceChar, String.toList_ofList]
  induction s.toList with
  | nil => rfl
  | cons c rest ih =>
    rw [List.flatMap_cons, ih]
    by_cases hc : c = old <;> simp [hc]

/-- They are what a rule for hexadecimal reads. -/
lemma HexRule.toList_digits (r : HexRule) (s : String) :
    (r.digits s).toList = digitChars r.strict s := by
  rw [digits, digitChars]
  split_ifs
  · rfl
  · exact toList_replaceChar_empty s '-'

/-- All but the hyphens are what a rule for identifiers reads. -/
lemma UuidRule.toList_digits (s : String) : (digits s).toList = digitChars false s :=
  String.toList_ofList

/-- Unless it is strict, a rule for hexadecimal reads the same as a rule for identifiers: replacing
the hyphens by nothing is leaving them out. -/
theorem HexRule.digits_eq_digits {r : HexRule} (h : r.strict = false) (s : String) :
    r.digits s = UuidRule.digits s := by
  rw [← String.toList_inj, r.toList_digits, h, UuidRule.toList_digits]

/-- What is left of a text that the digits were taken from is digits. -/
lemma HexRule.digits_digits (r : HexRule) (s : String) : r.digits (r.digits s) = r.digits s := by
  have hfilter : digitChars r.strict (r.digits s) = digitChars r.strict s := by
    rw [digitChars, toList_digits, digitChars]
    cases r.strict <;> simp
  rw [← String.toList_inj, toList_digits, hfilter, toList_digits]

/-- A length within equal bounds is the bound. -/
lemma lengthWithin_same_iff {length : Nat} {bound : UInt64} :
    LengthWithin length (some bound) (some bound) ↔ length = bound.toNat := by
  simp only [LengthWithin, Option.mem_some_iff, forall_eq']
  omega

/-- A length is within bounds that there are not. -/
lemma lengthWithin_none (length : Nat) : LengthWithin length none none := ⟨nofun, nofun⟩

variable {s : String} {data : List UInt8}

section Hex

variable {binary strict : Bool} {least most : Option UInt64}

/-- A rule for hexadecimal reads the characters that should be digits. -/
lemma HexRule.check_string_eq_ok_iff {w : Value} :
    check ⟨binary, strict, least, most⟩ (.string s) = .ok w ↔
      ∃ data, Hex.Writes (digitChars strict s) data ∧ LengthWithin data.length least most ∧
        w = if binary then .bytes data else .string (digits ⟨binary, strict, least, most⟩ s) := by
  have hdigits := toList_digits ⟨binary, strict, least, most⟩ s
  simp only at hdigits
  rw [check_eq_ok_iff]
  constructor
  · rintro ⟨_, data, ⟨⟩, hdata, hrest⟩
    exact ⟨data, hdigits ▸ Hex.decodeText_eq_ok_iff.mp hdata, hrest⟩
  · rintro ⟨data, hdata, hrest⟩
    exact ⟨s, data, rfl, Hex.decodeText_eq_ok_iff.mpr (hdigits ▸ hdata), hrest⟩

/-- If it decodes, it gives the bytes that these write. -/
theorem HexRule.check_eq_bytes_iff :
    check ⟨true, strict, least, most⟩ (.string s) = .ok (.bytes data) ↔
      Hex.Writes (digitChars strict s) data ∧ LengthWithin data.length least most := by
  simp [check_string_eq_ok_iff]

/-- It takes a text if these write bytes within its bounds. -/
theorem HexRule.exists_check_iff :
    (∃ w, check ⟨binary, strict, least, most⟩ (.string s) = .ok w) ↔
      ∃ data, Hex.Writes (digitChars strict s) data ∧ LengthWithin data.length least most := by
  simp only [check_string_eq_ok_iff]
  constructor
  · rintro ⟨_, data, hdata, hwithin, -⟩
    exact ⟨data, hdata, hwithin⟩
  · rintro ⟨data, hdata, hwithin⟩
    exact ⟨_, data, hdata, hwithin, rfl⟩

end Hex

section Uuid

variable {binary : Bool}

/-- A rule for identifiers reads the characters but the hyphens. -/
lemma UuidRule.check_string_eq_ok_iff {w : Value} :
    check ⟨binary⟩ (.string s) = .ok w ↔
      ∃ data, Hex.Writes (digitChars false s) data ∧ data.length = 16 ∧
        w = if binary then .bytes data else .string s := by
  have hdigits := toList_digits s
  rw [check_eq_ok_iff]
  constructor
  · rintro ⟨_, data, ⟨⟩, hdata, hrest⟩
    exact ⟨data, hdigits ▸ Hex.decodeText_eq_ok_iff.mp hdata, hrest⟩
  · rintro ⟨data, hdata, hrest⟩
    exact ⟨s, data, rfl, Hex.decodeText_eq_ok_iff.mpr (hdigits ▸ hdata), hrest⟩

/-- If it decodes, it gives the sixteen bytes that these write. -/
theorem UuidRule.check_eq_bytes_iff :
    check ⟨true⟩ (.string s) = .ok (.bytes data) ↔
      Hex.Writes (digitChars false s) data ∧ data.length = 16 := by
  simp [check_string_eq_ok_iff]

/-- It takes a text if these write sixteen bytes. -/
theorem UuidRule.exists_check_iff :
    (∃ w, check ⟨binary⟩ (.string s) = .ok w) ↔
      ∃ data, Hex.Writes (digitChars false s) data ∧ data.length = 16 := by
  simp only [check_string_eq_ok_iff]
  constructor
  · rintro ⟨_, data, hdata, hlength, -⟩
    exact ⟨data, hdata, hlength⟩
  · rintro ⟨data, hdata, hlength⟩
    exact ⟨_, data, hdata, hlength, rfl⟩

end Uuid

/-- A rule for bytes in hexadecimal gives the bytes that all characters of a text write. -/
theorem BytesRule.check_eq_bytes_iff :
    check ⟨.hex, none, none⟩ (.string s) = .ok (.bytes data) ↔
      Hex.Writes (digitChars true s) data := by
  have hdecode : ByteEncoding.hex.decode s = .ok data ↔ Hex.Writes s.toList data := by
    rw [← Hex.decodeText_eq_ok_iff, ByteEncoding.decode, mapError_eq_ok_iff]
  rw [check_eq_ok_iff]
  constructor
  · rintro ⟨_, ⟨⟩, hgiven | ⟨_, ⟨⟩, hdata, -⟩⟩
    · nomatch hgiven
    · exact hdecode.mp hdata
  · intro hwrites
    exact ⟨data, rfl, .inr ⟨s, rfl, hdecode.mpr hwrites, lengthWithin_none _⟩⟩

/-- **The three readers of hexadecimal text agree.** A rule for identifiers and one for hexadecimal
that asks for sixteen bytes decode the same texts to the same bytes, whatever hyphens are in them.
So do a rule for bytes in hexadecimal and a strict rule for hexadecimal. Keeping the text changes
nothing about which texts are taken. And the bytes are those that the characters of the text write
as digits, two for each byte.

**Proof sketch.** All three read the bytes of the text, which comes to the same as reading its
characters (`Hex.decodeText_eq_ok_iff`). What differs is compared with the bytes afterwards. -/
theorem hex_readers_agree (s : String) :
    (∀ data, UuidRule.check ⟨true⟩ (.string s) = .ok (.bytes data) ↔
        HexRule.check ⟨true, false, some 16, some 16⟩ (.string s) = .ok (.bytes data)) ∧
      (∀ data, BytesRule.check ⟨.hex, none, none⟩ (.string s) = .ok (.bytes data) ↔
        HexRule.check ⟨true, true, none, none⟩ (.string s) = .ok (.bytes data)) ∧
      ((∃ w, UuidRule.check ⟨false⟩ (.string s) = .ok w) ↔
        ∃ w, UuidRule.check ⟨true⟩ (.string s) = .ok w) ∧
      (∀ strict least most, (∃ w, HexRule.check ⟨false, strict, least, most⟩ (.string s) = .ok w) ↔
        ∃ w, HexRule.check ⟨true, strict, least, most⟩ (.string s) = .ok w) ∧
      ∀ strict least most data,
        HexRule.check ⟨true, strict, least, most⟩ (.string s) = .ok (.bytes data) ↔
          Hex.Writes (digitChars strict s) data ∧ LengthWithin data.length least most := by
  refine ⟨fun data => ?_, fun data => ?_, ?_, fun strict least most => ?_, fun _ _ _ _ => ?_⟩
  · rw [UuidRule.check_eq_bytes_iff, HexRule.check_eq_bytes_iff, lengthWithin_same_iff]
    rfl
  · rw [BytesRule.check_eq_bytes_iff, HexRule.check_eq_bytes_iff]
    exact (and_iff_left (lengthWithin_none _)).symm
  · rw [UuidRule.exists_check_iff, UuidRule.exists_check_iff]
  · rw [HexRule.exists_check_iff, HexRule.exists_check_iff]
  · exact HexRule.check_eq_bytes_iff

/-- A letter outside ASCII is two bytes, which are no digits. -/
example : Hex.decodeText "0ß1" = .error (.invalidDigit 195 1) := by
  decide

end Intake
