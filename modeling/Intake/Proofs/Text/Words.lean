import Intake.Text.SnakeCase
import Mathlib

set_option autoImplicit false

/-!
# Words of a name

The words of an ASCII name end where an upper-case letter begins another one. The snake case of the
name is its lower case with an underscore behind each word that another one follows, and nothing
else: it keeps the underscores and all other characters of the name in their order.

## Main definitions

* `wordEnds` — a word ends with the character at a position, and another one follows.
* `snakePlace` — where a character of a name stands in its snake case.
* `Separated` — a text with underscores added between letters and digits.

## Main results

* `separated_snakeChars` — the snake case separates the words of the lower-case name.
* `snakeChars_of_not_isUpper` — a name without upper-case letters stays as it is.
* `snakeCase_separates_words` — what the snake case of a name is made of.
-/

namespace Intake

/-- A word of a name ends with the character at a position, and another one follows: an upper-case
letter comes next, behind a lower-case letter or a digit, or as the last one of a run of upper-case
letters with a lower-case letter behind it. -/
def wordEnds (cs : List Char) (i : ℕ) : Bool :=
  cs[i + 1]?.any Char.isUpper &&
    (cs[i]?.any (fun c => c.isLower || c.isDigit) ||
      cs[i]?.any Char.isUpper && cs[i + 2]?.any Char.isLower)

/-- Where the character at a position of a name stands in the snake case: right behind the one
before it, or with one place between them if a word ends there. -/
def snakePlace (cs : List Char) : ℕ → ℕ
  | 0 => 0
  | i + 1 => snakePlace cs i + if wordEnds cs i then 2 else 1

/-- A text arises from another one by underscores alone. The characters of the other text stand in
it in their order, each at its place, and whatever stands elsewhere is an underscore between two
letters or digits. -/
structure Separated (place : ℕ → ℕ) (cs ds : List Char) : Prop where
  strictMono : StrictMono place
  kept : ∀ i, ds[place i]? = cs[i]?
  added : ∀ j, (∀ i, place i ≠ j) → ds[j]? = some '_' ∧
    ∃ k before after, j = k + 1 ∧ ds[k]? = some before ∧ ds[k + 2]? = some after ∧
      before.isAlphanum ∧ after.isAlphanum

/-! ### Letter case in ASCII -/

section Ascii

variable {c : Char} (hascii : c.toNat < 128)

include hascii

lemma isUpper_of_ascii : isUpper c = c.isUpper := if_pos hascii

lemma isLower_of_ascii : isLower c = c.isLower := if_pos hascii

lemma lowerChar_of_ascii : lowerChar c = [c.toLower] := if_pos hascii

/-- The lower case of an ASCII character is an ASCII character. -/
lemma toNat_toLower_lt : c.toLower.toNat < 128 := by
  by_cases hupper : c.isUpper
  · have hlower : c.toLower.isLower := by simp [Char.isAlpha, hupper]
    simp only [Char.isLower, ge_iff_le, UInt32.le_iff_toNat_le, Char.toNat_val, Bool.and_eq_true,
      decide_eq_true_eq] at hlower
    exact Nat.lt_of_le_of_lt hlower.2 (by decide)
  · rwa [Char.toLower_eq_of_not_isUpper hupper]

/-- The lower case of an ASCII character is no upper-case letter. -/
lemma isUpper_toLower_of_ascii : isUpper c.toLower = false := by
  rw [isUpper_of_ascii (toNat_toLower_lt hascii), Char.isUpper_toLower_eq_false]

end Ascii

/-- The lower case of a letter or digit is one. -/
lemma isAlphanum_toLower (c : Char) : c.toLower.isAlphanum = c.isAlphanum := by
  by_cases hupper : c.isUpper
  · simp [Char.isAlphanum, Char.isAlpha, hupper]
  · rw [Char.toLower_eq_of_not_isUpper hupper]

/-- An ASCII text is put into lower case character by character. -/
lemma lowerChars_of_ascii (before : List Char) {cs : List Char}
    (hascii : ∀ c ∈ cs, c.toNat < 128) : lowerChars before cs = cs.map Char.toLower := by
  induction cs generalizing before with
  | nil => rfl
  | cons c rest ih =>
    obtain ⟨hc, hrest⟩ := List.forall_mem_cons.mp hascii
    have hsigma : c.toNat ≠ 0x3A3 := by omega
    rw [lowerChars, if_neg hsigma, lowerChar_of_ascii hc, ih _ hrest]
    rfl

/-! ### Ends of words -/

lemma wordEnds_cons_succ (c : Char) (cs : List Char) (i : ℕ) :
    wordEnds (c :: cs) (i + 1) = wordEnds cs i := rfl

/-- The last character of a word and the first one of the next are letters or digits. -/
lemma exists_of_wordEnds {cs : List Char} {i : ℕ} (h : wordEnds cs i) :
    ∃ c d, cs[i]? = some c ∧ cs[i + 1]? = some d ∧ c.isAlphanum ∧ d.isAlphanum := by
  simp only [wordEnds, Bool.and_eq_true, Bool.or_eq_true, Option.any_eq_true] at h
  obtain ⟨⟨d, hd, hupper⟩, ⟨c, hc, hlower | hdigit⟩ | ⟨⟨c, hc, hcapital⟩, -⟩⟩ := h
  all_goals have hnext : d.isAlphanum := by simp [Char.isAlphanum, Char.isAlpha, hupper]
  · exact ⟨c, d, hc, hd, by simp [Char.isAlphanum, Char.isAlpha, hlower], hnext⟩
  · exact ⟨c, d, hc, hd, by simp [Char.isAlphanum, hdigit], hnext⟩
  · exact ⟨c, d, hc, hd, by simp [Char.isAlphanum, Char.isAlpha, hcapital], hnext⟩

/-- The characters around an upper-case letter tell whether a word begins with it. -/
lemma isBoundary_of_ascii {c : Char} (hc : c.toNat < 128) {rest : List Char}
    (hrest : ∀ n ∈ rest, n.toNat < 128) :
    isBoundary (some c) rest.head? =
      (c.isLower || c.isDigit || c.isUpper && rest.head?.any Char.isLower) := by
  simp only [isBoundary, isUpper_of_ascii hc, isLower_of_ascii hc]
  split_ifs with hunderscore hword hupper
  · subst hunderscore
    rfl
  · rw [hword, Bool.true_or]
  · rw [Bool.not_eq_true] at hword
    rw [hword, hupper, Bool.false_or, Bool.true_and]
    cases rest with
    | nil => rfl
    | cons n _ => exact isLower_of_ascii (hrest n List.mem_cons_self)
  · rw [Bool.not_eq_true] at hword hupper
    rw [hword, hupper, Bool.false_and, Bool.or_false]

/-- A word begins with a character exactly if one ends right before it. -/
lemma begins_eq_wordEnds {c d : Char} {rest : List Char}
    (hascii : ∀ n ∈ c :: d :: rest, n.toNat < 128) :
    (isUpper d && isBoundary (some c) rest.head?) = wordEnds (c :: d :: rest) 0 := by
  simp only [List.forall_mem_cons] at hascii
  obtain ⟨hc, hd, hrest⟩ := hascii
  rw [isUpper_of_ascii hd, isBoundary_of_ascii hc hrest]
  simp [wordEnds, List.head?_eq_getElem?]

/-! ### The snake case, word by word -/

/-- What is written for a character: its lower case, behind an underscore if a word begins. -/
lemma snakeChars_cons {c : Char} (hc : c.toNat < 128) (previous : Option Char)
    (rest : List Char) :
    snakeChars previous (c :: rest) =
      (if isUpper c && isBoundary previous rest.head? then ['_'] else []) ++
        c.toLower :: snakeChars (some c) rest := by
  by_cases hupper : isUpper c
  · simp [snakeChars, hupper, lowerChar_of_ascii hc]
  · have hlower : c.toLower = c :=
      Char.toLower_eq_of_not_isUpper (by rwa [← isUpper_of_ascii hc])
    simp [snakeChars, hupper, hlower]

/-- The underscore that is due before a character may as well be written behind the one before it,
after which the rest of the name is a name by itself. -/
lemma snakeChars_none_cons {c : Char} {rest : List Char}
    (hascii : ∀ n ∈ c :: rest, n.toNat < 128) :
    snakeChars none (c :: rest) =
      c.toLower :: ((if wordEnds (c :: rest) 0 then ['_'] else []) ++ snakeChars none rest) := by
  have hfirst (next : Option Char) : isBoundary none next = false := rfl
  obtain ⟨hc, hrest⟩ := List.forall_mem_cons.mp hascii
  rw [snakeChars_cons hc, hfirst]
  cases rest with
  | nil =>
    -- no word follows the last character
    simp [snakeChars, wordEnds]
  | cons d rest =>
    have hd := hrest d List.mem_cons_self
    rw [snakeChars_cons hd, snakeChars_cons hd, begins_eq_wordEnds hascii, hfirst]
    simp

section Names

variable {cs : List Char} (hascii : ∀ c ∈ cs, c.toNat < 128)

include hascii

/-- No upper-case letter is left. -/
lemma not_isUpper_of_mem_snakeChars : ∀ c ∈ snakeChars none cs, isUpper c = false := by
  induction cs with
  | nil => simp [snakeChars]
  | cons c rest ih =>
    obtain ⟨hc, hrest⟩ := List.forall_mem_cons.mp hascii
    have hunderscore : ∀ d ∈ if wordEnds (c :: rest) 0 then ['_'] else [], isUpper d = false := by
      split_ifs <;> simp [isUpper]
    rw [snakeChars_none_cons hascii, List.forall_mem_cons, List.forall_mem_append]
    exact ⟨isUpper_toLower_of_ascii hc, hunderscore, ih hrest⟩

/-- Without underscores, the snake case of a name is its lower case. -/
lemma filter_snakeChars :
    (snakeChars none cs).filter (· ≠ '_') = (cs.map Char.toLower).filter (· ≠ '_') := by
  induction cs with
  | nil => rfl
  | cons c rest ih =>
    have hrest := (List.forall_mem_cons.mp hascii).2
    have hunderscore : (if wordEnds (c :: rest) 0 then ['_'] else []).filter (· ≠ '_') = [] := by
      split_ifs <;> rfl
    rw [snakeChars_none_cons hascii, List.map_cons, List.filter_cons, List.filter_cons,
      List.filter_append, hunderscore, List.nil_append, ih hrest]

end Names

/-- A name without upper-case letters stays as it is. -/
lemma snakeChars_of_not_isUpper {cs : List Char} (previous : Option Char)
    (h : ∀ c ∈ cs, isUpper c = false) : snakeChars previous cs = cs := by
  induction cs generalizing previous with
  | nil => rfl
  | cons c rest ih =>
    obtain ⟨hc, hrest⟩ := List.forall_mem_cons.mp h
    rw [snakeChars, hc, if_neg Bool.false_ne_true, ih _ hrest]

/-! ### Places of the characters -/

lemma snakePlace_cons_succ (c : Char) (cs : List Char) (i : ℕ) :
    snakePlace (c :: cs) (i + 1) =
      (if wordEnds (c :: cs) 0 then 2 else 1) + snakePlace cs i := by
  induction i with
  | zero => rw [snakePlace, snakePlace, snakePlace, Nat.zero_add, Nat.add_zero]
  | succ i ih => rw [snakePlace, ih, snakePlace, wordEnds_cons_succ, Nat.add_assoc]

lemma strictMono_snakePlace (cs : List Char) : StrictMono (snakePlace cs) := by
  refine strictMono_nat_of_lt_succ fun i => ?_
  rw [snakePlace]
  split_ifs <;> omega

/-- Every position is the place of a character, or the one behind the end of a word. -/
lemma exists_snakePlace (cs : List Char) (j : ℕ) :
    ∃ i, snakePlace cs i = j ∨ wordEnds cs i ∧ snakePlace cs i + 1 = j := by
  induction j with
  | zero => exact ⟨0, .inl rfl⟩
  | succ j ih =>
    obtain ⟨i, rfl | ⟨hends, rfl⟩⟩ := ih
    · by_cases hends : wordEnds cs i
      · exact ⟨i, .inr ⟨hends, rfl⟩⟩
      · exact ⟨i + 1, .inl (by rw [snakePlace, if_neg hends])⟩
    · exact ⟨i + 1, .inl (by rw [snakePlace, if_pos hends])⟩

/-- Behind what is written for the first character stands what is written for the rest. -/
lemma getElem?_snakeChars_cons {c : Char} {rest : List Char}
    (hascii : ∀ n ∈ c :: rest, n.toNat < 128) (j : ℕ) :
    (snakeChars none (c :: rest))[(if wordEnds (c :: rest) 0 then 2 else 1) + j]? =
      (snakeChars none rest)[j]? := by
  rw [snakeChars_none_cons hascii, Nat.add_comm]
  split_ifs <;> rfl

section Places

variable {cs : List Char} (hascii : ∀ c ∈ cs, c.toNat < 128)

include hascii

/-- The lower case of a character stands at its place. -/
lemma getElem?_snakePlace (i : ℕ) :
    (snakeChars none cs)[snakePlace cs i]? = (cs.map Char.toLower)[i]? := by
  induction cs generalizing i with
  | nil => rfl
  | cons c rest ih =>
    cases i with
    | zero =>
      rw [snakeChars_none_cons hascii]
      rfl
    | succ i =>
      rw [snakePlace_cons_succ, getElem?_snakeChars_cons hascii, List.map_cons,
        List.getElem?_cons_succ, ih (List.forall_mem_cons.mp hascii).2]

/-- An underscore stands behind the end of a word. -/
lemma getElem?_behind_wordEnds {i : ℕ} (h : wordEnds cs i) :
    (snakeChars none cs)[snakePlace cs i + 1]? = some '_' := by
  induction cs generalizing i with
  | nil => cases h
  | cons c rest ih =>
    cases i with
    | zero =>
      rw [snakeChars_none_cons hascii, if_pos h]
      rfl
    | succ i =>
      rw [wordEnds_cons_succ] at h
      rw [snakePlace_cons_succ, Nat.add_assoc, getElem?_snakeChars_cons hascii,
        ih (List.forall_mem_cons.mp hascii).2 h]

/-- **The snake case separates the words of the lower-case name.** -/
theorem separated_snakeChars :
    Separated (snakePlace cs) (cs.map Char.toLower) (snakeChars none cs) where
  strictMono := strictMono_snakePlace cs
  kept := getElem?_snakePlace hascii
  added := by
    intro j hadded
    obtain ⟨i, hkept | ⟨hends, rfl⟩⟩ := exists_snakePlace cs j
    · exact absurd hkept (hadded i)
    · -- the underscore stands between the places of the characters around the end of the word
      obtain ⟨c, d, hc, hd, hcword, hdword⟩ := exists_of_wordEnds hends
      refine ⟨getElem?_behind_wordEnds hascii hends, snakePlace cs i, c.toLower, d.toLower, rfl,
        ?_, ?_, ?_, ?_⟩
      · rw [getElem?_snakePlace hascii, List.getElem?_map, hc, Option.map_some]
      · have hnext : snakePlace cs (i + 1) = snakePlace cs i + 2 := by rw [snakePlace, if_pos hends]
        rw [← hnext, getElem?_snakePlace hascii, List.getElem?_map, hd, Option.map_some]
      · rw [isAlphanum_toLower, hcword]
      · rw [isAlphanum_toLower, hdword]

end Places

/-- **What the snake case of an ASCII name is made of.** It has no upper-case letter. Without its
underscores it is the lower-case name without its underscores. An underscore that is not one of the
name's is written between two letters or digits, where a word of the name ends and the next begins.
The snake case of a snake case is the same.

**Proof sketch.** Every step of the walk writes the lower case of a character, behind an underscore
if a word begins. The underscore may be counted to the character before it, so that the name without
its first character is a name of the same kind; all but the last statement follow by induction. The
last one holds since a name without upper-case letters stays as it is. -/
theorem snakeCase_separates_words {name : String} (hascii : ∀ c ∈ name.toList, c.toNat < 128) :
    (∀ c ∈ (snakeCase name).toList, isUpper c = false) ∧
      (snakeCase name).toList.filter (· ≠ '_') = (lowerText name).toList.filter (· ≠ '_') ∧
        Separated (snakePlace name.toList) (lowerText name).toList (snakeCase name).toList ∧
          snakeCase (snakeCase name) = snakeCase name := by
  have hsnake : (snakeCase name).toList = snakeChars none name.toList := String.toList_ofList
  have hlower : (lowerText name).toList = name.toList.map Char.toLower := by
    rw [lowerText, String.toList_ofList, lowerChars_of_ascii [] hascii]
  have hupper := not_isUpper_of_mem_snakeChars hascii
  have hagain : snakeCase (snakeCase name) = snakeCase name := by
    rw [snakeCase, hsnake, snakeChars_of_not_isUpper none hupper]
    rfl
  rw [hsnake, hlower]
  exact ⟨hupper, filter_snakeChars hascii, separated_snakeChars hascii, hagain⟩

/-- A name with a run of capitals, digits and an underscore of its own. -/
theorem acronym_snakeCase_separates_words :
    let name := "HTTPServer_v2Value"
    (∀ c ∈ name.toList, c.toNat < 128) ∧ snakeCase name = "http_server_v2_value" ∧
      (∀ c ∈ (snakeCase name).toList, isUpper c = false) ∧
        (snakeCase name).toList.filter (· ≠ '_') = (lowerText name).toList.filter (· ≠ '_') ∧
          Separated (snakePlace name.toList) (lowerText name).toList (snakeCase name).toList ∧
            snakeCase (snakeCase name) = snakeCase name := by
  intro name
  have hascii : ∀ c ∈ name.toList, c.toNat < 128 := by simp [name]
  exact ⟨hascii, by decide, snakeCase_separates_words hascii⟩

end Intake
