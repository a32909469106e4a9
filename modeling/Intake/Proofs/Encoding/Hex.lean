import Intake.Encoding.Hex
import Intake.Proofs.Result
import Mathlib.Data.List.Basic
import Mathlib.Tactic.SplitIfs

set_option autoImplicit false

/-!
# What hexadecimal text writes

Digits are read from the bytes of a text. All digits are ASCII characters, which are single bytes,
and every other character has a byte that is no digit. So it comes to the same to read the
characters of the text, two for each byte.

## Main definitions

* `Hex.Writes` — characters that write bytes.

## Main results

* `Hex.decode_eq_ok_iff` — what is read from bytes.
* `Hex.decodeText_eq_ok_iff` — what is read from a text.
-/

namespace Intake

namespace Hex

/-- Characters write bytes: two digits each, the high one first. -/
inductive Writes : List Char → List UInt8 → Prop where
  | nil : Writes [] []
  | cons {high low : Char} {h l : Nat} {cs : List Char} {data : List UInt8}
      (hhigh : Json.hexValue? high = some h) (hlow : Json.hexValue? low = some l)
      (rest : Writes cs data) : Writes (high :: low :: cs) (UInt8.ofNat (16 * h + l) :: data)

/-- The character that a byte is looked up as. -/
def charOfByte (byte : UInt8) : Char := Char.ofNat byte.toNat

/-! ### Digits from bytes -/

/-- Two characters stand for each byte. -/
lemma Writes.length_eq {cs : List Char} {data : List UInt8} (h : Writes cs data) :
    cs.length = 2 * data.length := by
  induction h with
  | nil => rfl
  | cons _ _ _ ih =>
    rw [List.length_cons, List.length_cons, List.length_cons, ih]
    omega

/-- Two characters and more write what the two write, and what the others write. -/
lemma writes_cons_cons_iff {high low : Char} {cs : List Char} {data : List UInt8} :
    Writes (high :: low :: cs) data ↔ ∃ h l rest, Json.hexValue? high = some h ∧
      Json.hexValue? low = some l ∧ Writes cs rest ∧ data = UInt8.ofNat (16 * h + l) :: rest := by
  constructor
  · intro hwrites
    cases hwrites with
    | cons hhigh hlow rest => exact ⟨_, _, _, hhigh, hlow, rest, rfl⟩
  · rintro ⟨h, l, rest, hhigh, hlow, hrest, rfl⟩
    exact .cons hhigh hlow hrest

/-- Pairs of digits are read as what they write. -/
lemma decodePairs_eq_ok_iff {position : Nat} {bytes data : List UInt8}
    (heven : bytes.length % 2 = 0) :
    decodePairs position bytes = .ok data ↔ Writes (bytes.map charOfByte) data := by
  fun_induction decodePairs position bytes generalizing data with
  | case1 position high low rest hhigh =>
    have hdigit : Json.hexValue? (charOfByte high) = none := hhigh
    simp [writes_cons_cons_iff, hdigit]
  | case2 position high low rest h hhigh hlow =>
    have hdigit : Json.hexValue? (charOfByte low) = none := hlow
    simp [writes_cons_cons_iff, hdigit]
  | case3 position high low rest h hhigh l hlow ih =>
    have hhigh : Json.hexValue? (charOfByte high) = some h := hhigh
    have hlow : Json.hexValue? (charOfByte low) = some l := hlow
    have hrest : rest.length % 2 = 0 := by
      simp only [List.length_cons] at heven
      omega
    simp [map_cons_eq_ok_iff, writes_cons_cons_iff, hhigh, hlow, ih hrest]
  | case4 bytes position hshort =>
    obtain rfl : bytes = [] := by
      match bytes, hshort with
      | [], _ => rfl
      | [b], _ => cases heven
      | high :: low :: rest, hshort => exact absurd rfl (hshort high low rest)
    constructor
    · rintro ⟨⟩
      exact .nil
    · rintro ⟨⟩
      rfl

/-- **Bytes are read as what their characters write.** -/
theorem decode_eq_ok_iff {bytes data : List UInt8} :
    decode bytes = .ok data ↔ Writes (bytes.map charOfByte) data := by
  rw [decode]
  split_ifs with hodd
  · simp only [false_iff]
    intro hwrites
    have hlength := hwrites.length_eq
    rw [List.length_map] at hlength
    omega
  · exact decodePairs_eq_ok_iff (by omega)

/-! ### Characters from bytes -/

/-- Digits are ASCII characters. -/
lemma toNat_lt_of_hexValue? {c : Char} {n : Nat} (h : Json.hexValue? c = some n) :
    c.toNat < 128 := by
  simp only [Json.hexValue?] at h
  split_ifs at h <;> omega

/-- So are all characters that write bytes. -/
lemma Writes.ascii {cs : List Char} {data : List UInt8} (h : Writes cs data) :
    ∀ c ∈ cs, c.toNat < 128 := by
  induction h with
  | nil => exact List.forall_mem_nil _
  | cons hhigh hlow _ ih =>
    exact List.forall_mem_cons.mpr ⟨toNat_lt_of_hexValue? hhigh,
      List.forall_mem_cons.mpr ⟨toNat_lt_of_hexValue? hlow, ih⟩⟩

/-- An ASCII character is a byte. -/
lemma map_charOfByte_of_ascii {c : Char} (h : c.toNat < 128) :
    (String.utf8EncodeChar c).map charOfByte = [c] := by
  have hval : c.val.toNat ≤ 127 := Nat.le_of_lt_succ h
  have hbyte : (UInt8.ofNat c.val.toNat).toNat = c.toNat :=
    UInt8.toNat_ofNat_of_lt' (by
      have hsize : UInt8.size = 256 := rfl
      omega)
  simp only [String.utf8EncodeChar, hval, if_true, List.map_cons, List.map_nil, charOfByte, hbyte,
    Char.ofNat_toNat]

/-- Any other character has a byte that is none. -/
lemma exists_charOfByte_of_not_ascii {c : Char} (h : 128 ≤ c.toNat) :
    ∃ d ∈ (String.utf8EncodeChar c).map charOfByte, 128 ≤ d.toNat := by
  have hval : ¬ c.val.toNat ≤ 127 := by
    have hnat : c.val.toNat = c.toNat := rfl
    omega
  -- the last byte of several carries six bits behind a mark
  have hlast : UInt8.ofNat (c.val.toNat % 64 + 128) ∈ String.utf8EncodeChar c := by
    simp only [String.utf8EncodeChar, hval, if_false]
    split_ifs <;> simp
  refine ⟨_, List.mem_map_of_mem hlast, ?_⟩
  have hsize : UInt8.size = 256 := rfl
  have hbyte : (UInt8.ofNat (c.val.toNat % 64 + 128)).toNat = c.val.toNat % 64 + 128 :=
    UInt8.toNat_ofNat_of_lt' (by omega)
  have hchar : (Char.ofNat (c.val.toNat % 64 + 128)).toNat = c.val.toNat % 64 + 128 := by
    rw [Char.ofNat, dif_pos (.inl (by omega))]
    rfl
  rw [charOfByte, hbyte, hchar]
  omega

/-- The bytes of characters write what the characters write. -/
lemma writes_flatMap_iff {cs : List Char} {data : List UInt8} :
    Writes ((cs.flatMap String.utf8EncodeChar).map charOfByte) data ↔ Writes cs data := by
  rw [List.map_flatMap]
  by_cases hascii : ∀ c ∈ cs, c.toNat < 128
  · have hsame : cs.flatMap (fun c => (String.utf8EncodeChar c).map charOfByte) = cs := by
      rw [List.flatMap_congr fun c hc => map_charOfByte_of_ascii (hascii c hc)]
      exact List.flatMap_singleton' cs
    rw [hsame]
  · simp only [not_forall, Nat.not_lt] at hascii
    obtain ⟨c, hc, hlarge⟩ := hascii
    obtain ⟨d, hd, hbyte⟩ := exists_charOfByte_of_not_ascii hlarge
    constructor
    · intro hwrites
      exact absurd (hwrites.ascii d (List.mem_flatMap.mpr ⟨c, hc, hd⟩)) (Nat.not_lt.mpr hbyte)
    · intro hwrites
      exact absurd (hwrites.ascii c hc) (Nat.not_lt.mpr hlarge)

/-- **A text is read as what its characters write.** -/
theorem decodeText_eq_ok_iff {s : String} {data : List UInt8} :
    decodeText s = .ok data ↔ Writes s.toList data := by
  have hbytes : s.toUTF8.data.toList = s.toList.flatMap String.utf8EncodeChar := by
    have hencode : s.toUTF8 = s.toList.utf8Encode := String.utf8Encode_toList.symm
    rw [hencode]
    exact List.toList_data_toByteArray
  rw [decodeText, decode_eq_ok_iff, hbytes, writes_flatMap_iff]

end Hex

end Intake
