import Intake.Json.Printer
import Intake.Json.Reader
import Mathlib.Data.List.Basic
import Mathlib.Tactic.Lemma

set_option autoImplicit false

/-!
# Numbers and strings in JSON texts

What stands for a number or a string at the front of a text is read as that number or string, and
what follows it is left.

## Main definitions

* `Json.EndsNumeral` — texts that no numeral goes on into.

## Main results

* `Json.takeDigits_natChars` — the digits of a natural of 64 bits.
* `Json.readNumber_natChars` — an integer, as it is read behind its sign.
* `Json.readString_escapeChar` — one character of a string, whatever it is.
* `Json.readString_escape` — a string up to its closing quote.
-/

namespace Intake

namespace Json

/-! ### Digits -/

/-- A text whose front is no part of a numeral that ends there. -/
def EndsNumeral (cs : List Char) : Prop :=
  ∀ c ∈ cs.head?, c.isDigit = false ∧ c ≠ '.' ∧ c ≠ 'e' ∧ c ≠ 'E'

/-- The empty text ends a numeral. -/
lemma endsNumeral_nil : EndsNumeral [] := by
  intro c hc
  cases hc

/-- A text ends a numeral if its first character does. -/
lemma endsNumeral_cons {c : Char} {cs : List Char} :
    EndsNumeral (c :: cs) ↔ c.isDigit = false ∧ c ≠ '.' ∧ c ≠ 'e' ∧ c ≠ 'E' := by
  simp [EndsNumeral]

/-- The digits of a natural are those of its decimal expansion. -/
lemma natChars_eq (n : Nat) : natChars n = Nat.toDigits 10 n := Nat.toList_repr

/-- The digits of a natural are digits. -/
lemma isDigit_of_mem_natChars {n : Nat} {c : Char} (h : c ∈ natChars n) : c.isDigit = true := by
  rw [natChars_eq] at h
  exact Nat.isDigit_of_mem_toDigits (by omega) (by omega) h

/-- The digits of a natural write it. -/
lemma natOfDigits_natChars (n : Nat) : natOfDigits (natChars n) = n := by
  rw [natChars_eq]
  exact Nat.ofDigitChars_toDigits (by omega) (by omega)

/-- A natural has a digit. -/
lemma natChars_ne_nil (n : Nat) : natChars n ≠ [] := by
  rw [natChars_eq]
  rcases Nat.lt_or_ge n 10 with hlt | hge
  · simp [Nat.toDigits_of_lt_base hlt]
  · simp [Nat.toDigits_of_base_le (by omega) hge]

/-- Only zero begins with a zero. -/
lemma head?_natChars {n : Nat} (hn : n ≠ 0) : (natChars n).head? ≠ some '0' := by
  induction n using Nat.strongRecOn with
  | _ n ih =>
    rw [natChars_eq]
    rcases Nat.lt_or_ge n 10 with hlt | hge
    · have hall : ∀ m < 10, m ≠ 0 → m.digitChar ≠ '0' := by decide
      rw [Nat.toDigits_of_lt_base hlt]
      simpa using hall n hlt hn
    · have hfront := ih (n / 10) (by omega) (by omega)
      have hne := natChars_ne_nil (n / 10)
      rw [natChars_eq] at hfront hne
      rw [Nat.toDigits_of_base_le (by omega) hge, List.head?_append_of_ne_nil _ hne]
      exact hfront

/-- Zero is its only digit. -/
lemma natChars_zero : natChars 0 = ['0'] := by
  rw [natChars_eq, Nat.toDigits_of_lt_base (by omega)]
  rfl

/-- More digits write a larger number. -/
lemma le_foldl_digits (cs : List Char) (n : Nat) :
    n ≤ cs.foldl (fun n c => 10 * n + digitValue c) n := by
  induction cs generalizing n with
  | nil => exact Nat.le_refl n
  | cons c rest ih => exact Nat.le_trans (by omega) (ih (10 * n + digitValue c))

/-- Digits are taken as long as 64 bits hold the number. -/
lemma takeDigits_append {ds : List Char} (hds : ∀ c ∈ ds, c.isDigit = true) {n : Nat}
    (hn : ds.foldl (fun n c => 10 * n + digitValue c) n < Nat.pow 2 64) (taken : Nat)
    (rest : List Char) :
    takeDigits n taken (ds ++ rest) =
      takeDigits (ds.foldl (fun n c => 10 * n + digitValue c) n) (taken + ds.length) rest := by
  induction ds generalizing n taken with
  | nil => rfl
  | cons c ds ih =>
    obtain ⟨hc, hds⟩ := List.forall_mem_cons.mp hds
    have hnext : 10 * n + digitValue c < Nat.pow 2 64 :=
      Nat.lt_of_le_of_lt (le_foldl_digits ds _) hn
    rw [List.cons_append, takeDigits, if_pos hc, if_pos hnext, ih hds hn, List.length_cons,
      List.foldl_cons, Nat.add_assoc, Nat.add_comm 1]

/-- No digit is taken where a numeral ends. -/
lemma takeDigits_of_endsNumeral {rest : List Char} (hrest : EndsNumeral rest) (n taken : Nat) :
    takeDigits n taken rest = (n, taken, rest) := by
  cases rest with
  | nil => rfl
  | cons c rest =>
    obtain ⟨hc, -⟩ := endsNumeral_cons.mp hrest
    rw [takeDigits, hc, if_neg Bool.false_ne_true]

/-- No digit is skipped where a numeral ends. -/
lemma skipDigits_of_endsNumeral {rest : List Char} (hrest : EndsNumeral rest) :
    skipDigits rest = (0, rest) := by
  cases rest with
  | nil => rfl
  | cons c rest =>
    obtain ⟨hc, -⟩ := endsNumeral_cons.mp hrest
    rw [skipDigits, hc, if_neg Bool.false_ne_true]

/-- Where a numeral ends, no exponent follows its digits. -/
lemma readTail_of_endsNumeral {rest : List Char} (hrest : EndsNumeral rest) (negative : Bool)
    (digits : Nat) (e : Int) :
    readTail negative digits e rest = (floatOf? negative digits e).map fun j => (j, rest) := by
  cases rest with
  | nil => rfl
  | cons c rest =>
    obtain ⟨-, -, hlower, hupper⟩ := endsNumeral_cons.mp hrest
    rw [readTail]
    · rintro _ ⟨⟩
      exact hlower rfl
    · rintro _ ⟨⟩
      exact hupper rfl

/-- The digits of a natural of 64 bits are taken as that natural. -/
lemma takeDigits_natChars {n : Nat} (hn : n < Nat.pow 2 64) {rest : List Char}
    (hrest : EndsNumeral rest) :
    takeDigits 0 0 (natChars n ++ rest) = (n, (natChars n).length, rest) := by
  have hfold : (natChars n).foldl (fun n c => 10 * n + digitValue c) 0 = n :=
    natOfDigits_natChars n
  have happend := takeDigits_append (n := 0) (fun _ => isDigit_of_mem_natChars)
    (by rw [hfold]; exact hn) 0 rest
  rw [happend, hfold, takeDigits_of_endsNumeral hrest, Nat.zero_add]

/-- **An integer of 64 bits is read behind its sign.** -/
theorem readNumber_natChars (negative : Bool) {n : Nat} (hn : n < Nat.pow 2 64)
    {rest : List Char} (hrest : EndsNumeral rest) :
    readNumber negative (natChars n ++ rest) = some (integer negative n, rest) := by
  have hlength : (natChars n).length ≠ 0 := by simp [natChars_ne_nil n]
  have hzero : ¬ (1 < (natChars n).length ∧ (natChars n ++ rest).head? = some '0') := by
    rintro ⟨hlong, hhead⟩
    rw [List.head?_append_of_ne_nil _ (natChars_ne_nil n)] at hhead
    by_cases h0 : n = 0
    · rw [h0, natChars_zero] at hlong
      exact absurd hlong (by decide)
    · exact head?_natChars h0 hhead
  rw [readNumber, takeDigits_natChars hn hrest]
  simp only [hlength, hzero, if_false, skipDigits_of_endsNumeral hrest, if_true]
  -- the text behind the digits begins with none of the letters that continue a numeral
  split
  · exact absurd rfl (endsNumeral_cons.mp hrest).2.1
  · exact absurd rfl (endsNumeral_cons.mp hrest).2.2.1
  · exact absurd rfl (endsNumeral_cons.mp hrest).2.2.2
  · rfl

/-- A natural of 64 bits is read as one. -/
lemma integer_false (n : UInt64) : integer false n.toNat = .unsigned n := by
  rw [integer, if_neg Bool.false_ne_true]
  exact congrArg Json.unsigned (UInt64.ofNat_toNat (x := n))

/-- A negative integer of 64 bits is read as one. -/
lemma integer_true {n : Int64} (hn : n.toInt < 0) : integer true n.toInt.natAbs = .signed n := by
  have hle : -(Nat.pow 2 63 : Int) ≤ n.toInt := n.le_toInt
  have hrange : ¬ (n.toInt.natAbs = 0 ∨ Nat.pow 2 63 < n.toInt.natAbs) := by omega
  have habs : -(n.toInt.natAbs : Int) = n.toInt := by omega
  rw [integer, if_pos rfl, if_neg hrange, habs]
  exact congrArg Json.signed (Int64.ofInt_toInt n)

/-! ### Strings -/

/-- A hexadecimal digit has its value. -/
lemma hexValue?_hexDigit {n : Nat} (hn : n < 16) : hexValue? (hexDigit n) = some n := by
  have hall : ∀ m < 16, hexValue? (hexDigit m) = some m := by decide
  exact hall n hn

/-- The two digits of a control character write its number. -/
lemma hex4?_hexDigits {n : Nat} (hn : n < 256) :
    hex4? '0' '0' (hexDigit (n / 16)) (hexDigit (n % 16)) = some n := by
  have hzero : hexValue? '0' = some 0 := by decide
  have hhigh := hexValue?_hexDigit (n := n / 16) (by omega)
  have hlow := hexValue?_hexDigit (n := n % 16) (by omega)
  simp only [hex4?, hzero, hhigh, hlow, Option.bind_eq_bind, Option.bind_some, Option.pure_def,
    Option.some.injEq]
  omega

/-- A number behind a backslash stands for its character, unless it is a surrogate. -/
lemma readString_unicode {a b c d : Char} {n : Nat} (hn : hex4? a b c d = some n)
    (hlt : n < 0xD800) (cs : List Char) :
    readString ('\\' :: 'u' :: a :: b :: c :: d :: cs) =
      consChar (Char.ofNat n) (readString cs) := by
  have hhigh : ¬ (0xD800 ≤ n ∧ n < 0xDC00) := by omega
  have hlow : ¬ (0xDC00 ≤ n ∧ n < 0xE000) := by omega
  have hsurrogate : ¬ (0xD800 ≤ n ∧ n < 0xE000) := by omega
  -- the reader looks for the partner of a surrogate before it knows whether there is need of one
  by_cases hnext : ∃ e f g h rest, cs = '\\' :: 'u' :: e :: f :: g :: h :: rest
  · obtain ⟨e, f, g, h, rest, rfl⟩ := hnext
    rw [readString, hn]
    simp only [hhigh, hlow, if_false]
  · rw [readString, hn]
    · simp only [hsurrogate, if_false]
    · rintro e f g h rest rfl
      exact hnext ⟨e, f, g, h, rest, rfl⟩

/-- A letter behind a backslash stands for its character. -/
lemma readString_simple {c c' : Char} (hc : simpleEscape? c = some c') (cs : List Char) :
    readString ('\\' :: c :: cs) = consChar c' (readString cs) := by
  have hu : c ≠ 'u' := by
    rintro rfl
    cases hc
  rw [readString, hc]
  · exact fun _ _ _ _ _ _ _ _ _ h => absurd h hu
  · exact fun _ _ _ _ _ h => absurd h hu

/-- A character that needs no escape stands for itself. -/
lemma readString_bare {c : Char} (hquote : c ≠ '"') (hslash : c ≠ '\\') (hcontrol : ¬ c.toNat < 32)
    (cs : List Char) : readString (c :: cs) = consChar c (readString cs) := by
  have hplain : ¬ (c.toNat < 32 ∨ c = '\\') := not_or.mpr ⟨hcontrol, hslash⟩
  rw [readString, if_neg hplain]
  · exact hquote
  -- no escape begins here
  all_goals
    intros
    contradiction

/-- **Every character of a string is read from what stands for it.** -/
theorem readString_escapeChar (c : Char) (cs : List Char) :
    readString (escapeChar c ++ cs) = consChar c (readString cs) := by
  rw [escapeChar]
  split_ifs with hquote hslash hline hreturn htab hback hfeed hcontrol
  · subst hquote
    exact readString_simple (by decide) cs
  · subst hslash
    exact readString_simple (by decide) cs
  · subst hline
    exact readString_simple (by decide) cs
  · subst hreturn
    exact readString_simple (by decide) cs
  · subst htab
    exact readString_simple (by decide) cs
  · have hc : Char.ofNat 8 = c := hback ▸ Char.ofNat_toNat c
    exact readString_simple (hc ▸ by decide) cs
  · have hc : Char.ofNat 12 = c := hfeed ▸ Char.ofNat_toNat c
    exact readString_simple (hc ▸ by decide) cs
  · have hread := readString_unicode (hex4?_hexDigits (n := c.toNat) (by omega)) (by omega) cs
    rwa [Char.ofNat_toNat] at hread
  · exact readString_bare hquote hslash hcontrol cs

/-- **A string is read from what stands between its quotes.** -/
theorem readString_escape (cs rest : List Char) :
    readString (escape cs ++ '"' :: rest) = some (cs, rest) := by
  induction cs with
  | nil => simp [escape, readString]
  | cons c cs ih =>
    have hsplit : escape (c :: cs) ++ '"' :: rest = escapeChar c ++ (escape cs ++ '"' :: rest) := by
      simp [escape]
    rw [hsplit, readString_escapeChar, ih]
    rfl

end Json

end Intake
