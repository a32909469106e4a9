import Intake.Proofs.Json.Scalars

set_option autoImplicit false

/-!
# Documents in JSON texts

A document is printed with some blanks between its parts, none or a new line for every item, and
the reader passes over them. So one induction over the document covers both printers.

## Main definitions

* `Json.depth` — how many arrays and objects lie inside one another.
* `Json.Legible` — documents whose numbers are in the form in which they are read.
* `Json.Reads` — a text that is read as a document wherever no numeral goes on.
* `Json.Spacing` — the blanks of a printer.

## Main results

* `Json.Spacing.reads_chars` — a printed document is read again.
* `Json.read?_compact`, `Json.read?_pretty` — the two printers.

## Design

Of the fuel of the reader a document takes at most two steps for every character of its text, one to
find an item and one to read it.
-/

namespace Intake

namespace Json

/-! ### Documents -/

mutual

/-- How many arrays and objects lie inside one another. -/
def depth : Json → Nat
  | .array items => depthOfItems items + 1
  | .object members => depthOfMembers members + 1
  | _ => 0
termination_by structural j => j

/-- The largest depth of the items. -/
def depthOfItems : List Json → Nat
  | [] => 0
  | j :: rest => max j.depth (depthOfItems rest)
termination_by structural items => items

/-- The largest depth of the values of members. -/
def depthOfMembers : List (String × Json) → Nat
  | [] => 0
  | (_, j) :: rest => max j.depth (depthOfMembers rest)
termination_by structural members => members

end

mutual

/-- Signed integers are negative, and only some floats occur. -/
def Legible (floats : Binary64 → Prop) : Json → Prop
  | .signed n => n.toInt < 0
  | .float x => floats x
  | .array items => LegibleItems floats items
  | .object members => LegibleMembers floats members
  | _ => True
termination_by structural j => j

/-- Every item is legible. -/
def LegibleItems (floats : Binary64 → Prop) : List Json → Prop
  | [] => True
  | j :: rest => j.Legible floats ∧ LegibleItems floats rest
termination_by structural items => items

/-- The value of every member is legible. -/
def LegibleMembers (floats : Binary64 → Prop) : List (String × Json) → Prop
  | [] => True
  | (_, j) :: rest => j.Legible floats ∧ LegibleMembers floats rest
termination_by structural members => members

end

/-! ### Blanks -/

/-- The characters that the reader passes over. -/
def Blank (c : Char) : Prop := c = ' ' ∨ c = '\n' ∨ c = '\t' ∨ c = '\r'

/-- Blanks at the front are passed over. -/
lemma skipBlanks_append {bs : List Char} (hbs : ∀ c ∈ bs, Blank c) (cs : List Char) :
    skipBlanks (bs ++ cs) = skipBlanks cs := by
  induction bs with
  | nil => rfl
  | cons c bs ih =>
    obtain ⟨hc, hbs⟩ := List.forall_mem_cons.mp hbs
    have hc : c = ' ' ∨ c = '\n' ∨ c = '\t' ∨ c = '\r' := hc
    rw [List.cons_append, skipBlanks, if_pos hc]
    exact ih hbs

/-- Nothing is passed over in front of a character that is no blank. -/
lemma skipBlanks_cons {c : Char} (hc : ¬ Blank c) (cs : List Char) :
    skipBlanks (c :: cs) = c :: cs := by
  have hc : ¬ (c = ' ' ∨ c = '\n' ∨ c = '\t' ∨ c = '\r') := hc
  rw [skipBlanks, if_neg hc]

/-- Blanks are passed over at once. -/
lemma skipBlanks_idem (cs : List Char) : skipBlanks (skipBlanks cs) = skipBlanks cs := by
  induction cs with
  | nil => rfl
  | cons c cs ih =>
    by_cases hc : Blank c
    · have hone : ∀ b ∈ [c], Blank b := by simpa using hc
      have hskip : skipBlanks (c :: cs) = skipBlanks cs := skipBlanks_append hone cs
      rw [hskip, ih]
    · rw [skipBlanks_cons hc, skipBlanks_cons hc]

/-- A numeral ends at blanks. -/
lemma EndsNumeral.blanks {bs cs : List Char} (hbs : ∀ c ∈ bs, Blank c) (hcs : EndsNumeral cs) :
    EndsNumeral (bs ++ cs) := by
  cases bs with
  | nil => exact hcs
  | cons c bs =>
    rcases (hbs c List.mem_cons_self : Blank c) with rfl | rfl | rfl | rfl <;>
      exact endsNumeral_cons.mpr (by decide)

/-- The reader of documents passes over blanks. -/
lemma readValue_skipBlanks (fuel room : Nat) (cs : List Char) :
    readValue fuel room (skipBlanks cs) = readValue fuel room cs := by
  cases fuel with
  | zero => simp only [readValue]
  | succ fuel => simp only [readValue, skipBlanks_idem]

/-- The reader of items passes over blanks. -/
lemma readItems_skipBlanks (fuel room : Nat) (cs : List Char) :
    readItems fuel room (skipBlanks cs) = readItems fuel room cs := by
  cases fuel with
  | zero => simp only [readItems]
  | succ fuel => simp only [readItems, readValue_skipBlanks]

/-- The reader of members passes over blanks. -/
lemma readMembers_skipBlanks (fuel room : Nat) (cs : List Char) :
    readMembers fuel room (skipBlanks cs) = readMembers fuel room cs := by
  cases fuel with
  | zero => simp only [readMembers]
  | succ fuel => simp only [readMembers, skipBlanks_idem]

/-! ### Reading documents -/

/-- A text is read as a document wherever no numeral goes on. -/
def Reads (room : Nat) (cs : List Char) (j : Json) : Prop :=
  ∀ (fuel : Nat) (rest : List Char), 2 * cs.length + 1 ≤ fuel → EndsNumeral rest →
    readValue fuel room (cs ++ rest) = some (j, rest)

/-- A text is read if it is whenever there is fuel for a first step, which there always is. -/
lemma Reads.of_succ {room : Nat} {cs : List Char} {j : Json}
    (h : ∀ (fuel : Nat) (rest : List Char), 2 * cs.length ≤ fuel → EndsNumeral rest →
      readValue (fuel + 1) room (cs ++ rest) = some (j, rest)) : Reads room cs j := by
  intro fuel rest hfuel hrest
  obtain ⟨fuel, rfl⟩ : ∃ k, fuel = k + 1 := ⟨fuel - 1, by omega⟩
  exact h fuel rest (by omega) hrest

/-- A document may stand behind blanks. -/
lemma Reads.blanks {room : Nat} {bs cs : List Char} {j : Json} (hbs : ∀ c ∈ bs, Blank c)
    (h : Reads room cs j) : Reads room (bs ++ cs) j := by
  intro fuel rest hfuel hrest
  rw [List.length_append] at hfuel
  rw [List.append_assoc, ← readValue_skipBlanks, skipBlanks_append hbs, readValue_skipBlanks]
  exact h fuel rest (by omega) hrest

/-- What begins with a digit is a number. -/
lemma readValue_digit {c : Char} (hc : c.isDigit = true) (fuel room : Nat) (cs : List Char) :
    readValue (fuel + 1) room (c :: cs) = readNumber false (c :: cs) := by
  have hblank : ¬ Blank c := by
    rintro (rfl | rfl | rfl | rfl) <;> exact absurd hc (by decide)
  rw [readValue, skipBlanks_cons hblank]
  split
  case h_8 => rfl
  all_goals
    rename_i heq
    obtain ⟨rfl, -⟩ := List.cons.inj heq
    exact absurd hc (by decide)

/-- Items between brackets are an array. -/
lemma readValue_array {fuel room : Nat} {cs rest : List Char} {items : List Json}
    (h : readItems fuel room cs = some (items, rest)) :
    readValue (fuel + 1) (room + 1) ('[' :: cs) = some (.array items, rest) := by
  have hopen : ¬ Blank '[' := by simp [Blank]
  simp only [readValue, skipBlanks_cons hopen]
  rw [← readItems_skipBlanks] at h
  split
  · -- no item begins with the closing bracket
    rename_i heq
    rw [heq] at h
    rcases fuel with _ | _ | fuel <;> simp [readItems, readValue, skipBlanks, readNumber,
      takeDigits] at h
  · rw [h]
    rfl

/-- Members between braces are an object. -/
lemma readValue_object {fuel room : Nat} {cs rest : List Char} {members : List (String × Json)}
    (h : readMembers fuel room cs = some (members, rest)) :
    readValue (fuel + 1) (room + 1) ('\x7b' :: cs) = some (.object members, rest) := by
  have hopen : ¬ Blank '\x7b' := by simp [Blank]
  simp only [readValue, skipBlanks_cons hopen]
  rw [← readMembers_skipBlanks] at h
  split
  · -- no member begins with the closing brace
    rename_i heq
    rw [heq] at h
    cases fuel <;> simp [readMembers, skipBlanks] at h
  · rw [h]
    rfl

/-- A single item is read up to the closing bracket. -/
lemma readItems_last {fuel room : Nat} {cs bs : List Char} {j : Json} (h : Reads room cs j)
    (hbs : ∀ c ∈ bs, Blank c) (hfuel : 2 * cs.length + 1 ≤ fuel) (rest : List Char) :
    readItems (fuel + 1) room (cs ++ (bs ++ ']' :: rest)) = some ([j], rest) := by
  have hends : EndsNumeral (bs ++ ']' :: rest) :=
    .blanks hbs (endsNumeral_cons.mpr (by decide))
  have hclose : ¬ Blank ']' := by simp [Blank]
  rw [readItems, h fuel _ hfuel hends]
  simp only [skipBlanks_append hbs, skipBlanks_cons hclose]

/-- An item is read in front of the items behind the next comma. -/
lemma readItems_cons {fuel room : Nat} {cs more rest : List Char} {j : Json} {js : List Json}
    (h : Reads room cs j) (hmore : readItems fuel room more = some (js, rest))
    (hfuel : 2 * cs.length + 1 ≤ fuel) :
    readItems (fuel + 1) room (cs ++ ',' :: more) = some (j :: js, rest) := by
  have hends : EndsNumeral (',' :: more) := endsNumeral_cons.mpr (by decide)
  have hcomma : ¬ Blank ',' := by simp [Blank]
  rw [readItems, h fuel _ hfuel hends]
  simp only [skipBlanks_cons hcomma, hmore, Option.map_some]

/-- The members from a key on, given what is read behind its colon. -/
def membersFrom (fuel room : Nat) (k : String) :
    Option (Json × List Char) → Option (List (String × Json) × List Char)
  | none => none
  | some (j, rest) =>
    match skipBlanks rest with
    | ',' :: rest => (readMembers fuel room rest).map fun p => ((k, j) :: p.1, p.2)
    | '\x7d' :: rest => some ([(k, j)], rest)
    | _ => none

/-- The key of a member is read up to its colon. -/
lemma readMembers_key {bs : List Char} (hbs : ∀ c ∈ bs, Blank c) (k : String) (fuel room : Nat)
    (cs : List Char) :
    readMembers (fuel + 1) room (bs ++ (quote k ++ ':' :: cs)) =
      membersFrom fuel room k (readValue fuel room cs) := by
  have hquote : ¬ Blank '"' := by simp [Blank]
  have hcolon : ¬ Blank ':' := by simp [Blank]
  have htext : quote k ++ ':' :: cs = '"' :: (escape k.toList ++ '"' :: ':' :: cs) := by
    simp [quote]
  rw [← readMembers_skipBlanks, skipBlanks_append hbs, readMembers_skipBlanks, htext, readMembers]
  simp only [skipBlanks_cons hquote, readString_escape, skipBlanks_cons hcolon,
    String.ofList_toList]
  rfl

/-- A single member is read up to the closing brace. -/
lemma readMembers_last {fuel room : Nat} {as cs bs : List Char} {k : String} {j : Json}
    (has : ∀ c ∈ as, Blank c) (h : Reads room cs j) (hbs : ∀ c ∈ bs, Blank c)
    (hfuel : 2 * cs.length + 1 ≤ fuel) (rest : List Char) :
    readMembers (fuel + 1) room (as ++ (quote k ++ ':' :: (cs ++ (bs ++ '\x7d' :: rest)))) =
      some ([(k, j)], rest) := by
  have hends : EndsNumeral (bs ++ '\x7d' :: rest) :=
    .blanks hbs (endsNumeral_cons.mpr (by decide))
  have hclose : ¬ Blank '\x7d' := by simp [Blank]
  rw [readMembers_key has, h fuel _ hfuel hends, membersFrom]
  simp only [skipBlanks_append hbs, skipBlanks_cons hclose]

/-- A member is read in front of the members behind the next comma. -/
lemma readMembers_cons {fuel room : Nat} {as cs more rest : List Char} {k : String} {j : Json}
    {ms : List (String × Json)} (has : ∀ c ∈ as, Blank c) (h : Reads room cs j)
    (hmore : readMembers fuel room more = some (ms, rest)) (hfuel : 2 * cs.length + 1 ≤ fuel) :
    readMembers (fuel + 1) room (as ++ (quote k ++ ':' :: (cs ++ ',' :: more))) =
      some ((k, j) :: ms, rest) := by
  have hends : EndsNumeral (',' :: more) := endsNumeral_cons.mpr (by decide)
  have hcomma : ¬ Blank ',' := by simp [Blank]
  rw [readMembers_key has, h fuel _ hfuel hends, membersFrom]
  simp only [skipBlanks_cons hcomma, hmore, Option.map_some]

/-- Floats that are read from their numerals wherever no numeral goes on. -/
def ReadsFloats (floats : Binary64 → Prop) : Prop :=
  ∀ x, floats x → ∀ room, Reads room (floatChars x) (.float x)

/-- Where there is no float, every float is read. -/
lemma readsFloats_false : ReadsFloats fun _ => False := fun _ h => h.elim

/-- One half. -/
def half : Binary64 := ⟨0x3fe0000000000000⟩

/-- One half is printed as a numeral with a fraction and read from it. -/
lemma readsFloats_half : ReadsFloats (· = half) := by
  rintro _ rfl room
  have hchars : floatChars half = ['0', '.', '5'] := by decide +kernel
  rw [hchars]
  refine .of_succ fun fuel rest _ hrest => ?_
  have hscale : scale 4 (Binary64.ofNat 5) (-1) = some half := by decide +kernel
  have hfloat : floatOf? false 5 (-1) = some (.float half) := by
    rw [floatOf?, hscale]
    rfl
  -- a digit before the point, and one behind it at which the numeral ends
  have hzero : takeDigits 0 0 ('0' :: '.' :: '5' :: rest) = (0, 1, '.' :: '5' :: rest) := rfl
  have hfive : takeDigits 0 0 ('5' :: rest) = (5, 1, rest) :=
    takeDigits_of_endsNumeral hrest 5 1
  have htail : readTail false 5 (-1) rest = some (.float half, rest) := by
    rw [readTail_of_endsNumeral hrest, hfloat]
    rfl
  have hfraction : readFraction false 0 0 ('5' :: rest) = some (.float half, rest) := by
    simp [readFraction, hfive, skipDigits_of_endsNumeral hrest, htail]
  have hnumber : readNumber false ('0' :: '.' :: '5' :: rest) = some (.float half, rest) := by
    simpa [readNumber, hzero, skipDigits] using hfraction
  rw [List.cons_append, readValue_digit (by decide)]
  exact hnumber
/-- A natural of 64 bits is read from its digits. -/
lemma reads_natChars (room : Nat) (n : UInt64) : Reads room (natChars n.toNat) (.unsigned n) := by
  refine .of_succ fun fuel rest _ hrest => ?_
  have hread := readNumber_natChars false n.toNat_lt hrest
  rw [integer_false] at hread
  cases hchars : natChars n.toNat with
  | nil => exact absurd hchars (natChars_ne_nil _)
  | cons c cs =>
    have hc : c.isDigit = true := isDigit_of_mem_natChars (hchars ▸ List.mem_cons_self)
    rw [hchars] at hread
    rw [List.cons_append, readValue_digit hc]
    exact hread

/-- A negative integer of 64 bits is read from its sign and its digits. -/
lemma reads_intChars (room : Nat) {n : Int64} (hn : n.toInt < 0) :
    Reads room (intChars n.toInt) (.signed n) := by
  refine .of_succ fun fuel rest _ hrest => ?_
  have hle : -(Nat.pow 2 63 : Int) ≤ n.toInt := n.le_toInt
  have hdouble : Nat.pow 2 64 = 2 * Nat.pow 2 63 := rfl
  have hlt : n.toInt.natAbs < Nat.pow 2 64 := by omega
  have hread := readNumber_natChars true hlt hrest
  have hminus : ¬ Blank '-' := by simp [Blank]
  rw [integer_true hn] at hread
  rw [intChars, if_pos hn, List.cons_append]
  simp only [readValue, skipBlanks_cons hminus]
  exact hread

/-- A string is read from its quotes. -/
lemma reads_quote (room : Nat) (s : String) : Reads room (quote s) (.string s) := by
  refine .of_succ fun fuel rest _ _ => ?_
  have hread := readString_escape s.toList rest
  have hquote : ¬ Blank '"' := by simp [Blank]
  have htext : quote s ++ rest = '"' :: (escape s.toList ++ '"' :: rest) := by simp [quote]
  rw [htext]
  simp only [readValue, skipBlanks_cons hquote, hread, Option.map_some, String.ofList_toList]

/-- A legible document that is neither an array nor an object is read again. -/
lemma reads_scalarChars {floats : Binary64 → Prop} (hfloats : ReadsFloats floats) {j : Json}
    (hj : j.Legible floats) (harray : ∀ items, j ≠ .array items)
    (hobject : ∀ members, j ≠ .object members) (room : Nat) : Reads room (scalarChars j) j := by
  cases j with
  | array items => exact absurd rfl (harray items)
  | object members => exact absurd rfl (hobject members)
  | unsigned n => exact reads_natChars room n
  | signed n => exact reads_intChars room hj
  | float x => exact hfloats x hj room
  | string s => exact reads_quote room s
  | null =>
    refine .of_succ fun fuel rest _ _ => ?_
    simp [scalarChars, readValue, skipBlanks]
  | bool b =>
    refine .of_succ fun fuel rest _ _ => ?_
    cases b <;> simp [scalarChars, readValue, skipBlanks]

/-! ### Printers -/

/-- The blanks that a printer puts between the parts of a document. -/
structure Spacing where
  /-- What stands in front of an item at a level, and in front of a closing bracket. -/
  gap : Nat → List Char
  afterColon : List Char
  blank_gap : ∀ level, ∀ c ∈ gap level, Blank c
  blank_afterColon : ∀ c ∈ afterColon, Blank c

namespace Spacing

mutual

/-- A document that stands at a level. -/
def chars (S : Spacing) (level : Nat) : Json → List Char
  | .array [] => ['[', ']']
  | .array (j :: rest) =>
    '[' :: (S.gap (level + 1) ++ chars S (level + 1) j ++ items S level rest)
  | .object [] => ['\x7b', '\x7d']
  | .object ((k, j) :: rest) =>
    '\x7b' :: (S.gap (level + 1) ++ quote k ++ ':' :: (S.afterColon ++ chars S (level + 1) j)
      ++ members S level rest)
  | other => scalarChars other
termination_by structural j => j

/-- The items after the first and the closing bracket. -/
def items (S : Spacing) (level : Nat) : List Json → List Char
  | [] => S.gap level ++ [']']
  | j :: rest => ',' :: (S.gap (level + 1) ++ chars S (level + 1) j ++ items S level rest)
termination_by structural items => items

/-- The members after the first and the closing brace. -/
def members (S : Spacing) (level : Nat) : List (String × Json) → List Char
  | [] => S.gap level ++ ['\x7d']
  | (k, j) :: rest =>
    ',' :: (S.gap (level + 1) ++ quote k ++ ':' :: (S.afterColon ++ chars S (level + 1) j)
      ++ members S level rest)
termination_by structural members => members

end

/-- No blanks at all. -/
def tight : Spacing where
  gap _ := []
  afterColon := []
  blank_gap := by simp
  blank_afterColon := by simp

/-- A line for every item, indented by its level. -/
def lines : Spacing where
  gap := newline
  afterColon := [' ']
  blank_gap level := by
    simp [newline, Blank]
  blank_afterColon := by simp [Blank]

mutual

/-- The compact printer puts no blanks. -/
theorem chars_tight (level : Nat) : ∀ j : Json, tight.chars level j = compactChars j
  | .array [] => rfl
  | .array (j :: rest) => by
    rw [chars, compactChars, chars_tight, items_tight]
    rfl
  | .object [] => rfl
  | .object ((k, j) :: rest) => by
    rw [chars, compactChars, chars_tight, members_tight]
    simp [tight]
  | .null => rfl
  | .bool _ => rfl
  | .unsigned _ => rfl
  | .signed _ => rfl
  | .float _ => rfl
  | .string _ => rfl
termination_by structural j => j

/-- The compact printer puts no blanks between items. -/
theorem items_tight (level : Nat) : ∀ js : List Json, tight.items level js = compactItems js
  | [] => rfl
  | j :: rest => by
    rw [items, compactItems, chars_tight, items_tight]
    rfl
termination_by structural js => js

/-- The compact printer puts no blanks between members. -/
theorem members_tight (level : Nat) :
    ∀ ms : List (String × Json), tight.members level ms = compactMembers ms
  | [] => rfl
  | (k, j) :: rest => by
    rw [members, compactMembers, chars_tight, members_tight]
    simp [tight]
termination_by structural ms => ms

end

mutual

/-- The other printer puts every item on a line. -/
theorem chars_lines : ∀ (j : Json) (level : Nat), lines.chars level j = prettyChars level j
  | .array [], _ => rfl
  | .array (j :: rest), level => by
    rw [chars, prettyChars, chars_lines, items_lines]
    rfl
  | .object [], _ => rfl
  | .object ((k, j) :: rest), level => by
    rw [chars, prettyChars, chars_lines, members_lines]
    simp [lines]
  | .null, _ => rfl
  | .bool _, _ => rfl
  | .unsigned _, _ => rfl
  | .signed _, _ => rfl
  | .float _, _ => rfl
  | .string _, _ => rfl
termination_by structural j => j

/-- The other printer puts every item on a line, up to the closing bracket. -/
theorem items_lines : ∀ (js : List Json) (level : Nat), lines.items level js = prettyItems level js
  | [], _ => rfl
  | j :: rest, level => by
    rw [items, prettyItems, chars_lines, items_lines]
    rfl
termination_by structural js => js

/-- The other printer puts every member on a line. -/
theorem members_lines :
    ∀ (ms : List (String × Json)) (level : Nat), lines.members level ms = prettyMembers level ms
  | [], _ => rfl
  | (k, j) :: rest, level => by
    rw [members, prettyMembers, chars_lines, members_lines]
    simp [lines]
termination_by structural ms => ms

end

/-! ### Reading what is printed -/

section Read

variable (S : Spacing) {floats : Binary64 → Prop}

mutual

/-- **A legible document that does not nest too deep is read from what is printed.** -/
theorem reads_chars (hfloats : ReadsFloats floats) (level : Nat) :
    ∀ (j : Json), j.Legible floats → ∀ {room : Nat}, j.depth ≤ room →
      Reads room (S.chars level j) j
  | .array [], _, room, hroom => by
    refine .of_succ fun fuel rest _ _ => ?_
    obtain ⟨room, rfl⟩ : ∃ k, room = k + 1 := ⟨room - 1, by simp [depth] at hroom; omega⟩
    simp [chars, readValue, skipBlanks]
  | .array (j :: js), hj, room, hroom => by
    refine .of_succ fun fuel rest hfuel _ => ?_
    obtain ⟨hfirst, hothers⟩ : j.Legible floats ∧ LegibleItems floats js := hj
    have hdepth : max j.depth (depthOfItems js) + 1 ≤ room := hroom
    obtain ⟨room, rfl⟩ : ∃ k, room = k + 1 := ⟨room - 1, by omega⟩
    have hread : Reads room (S.gap (level + 1) ++ S.chars (level + 1) j) j :=
      (reads_chars hfloats (level + 1) j hfirst (by omega)).blanks (S.blank_gap (level + 1))
    simp only [chars, List.length_cons, List.length_append] at hfuel
    have hitems := readItems_items hfloats level js hothers (by omega) hread fuel rest (by
      rw [List.length_append]
      omega)
    rw [chars, List.cons_append]
    exact readValue_array hitems
  | .object [], _, room, hroom => by
    refine .of_succ fun fuel rest _ _ => ?_
    obtain ⟨room, rfl⟩ : ∃ k, room = k + 1 := ⟨room - 1, by simp [depth] at hroom; omega⟩
    simp [chars, readValue, skipBlanks]
  | .object ((k, j) :: ms), hj, room, hroom => by
    refine .of_succ fun fuel rest hfuel _ => ?_
    obtain ⟨hfirst, hothers⟩ : j.Legible floats ∧ LegibleMembers floats ms := hj
    have hdepth : max j.depth (depthOfMembers ms) + 1 ≤ room := hroom
    obtain ⟨room, rfl⟩ : ∃ k, room = k + 1 := ⟨room - 1, by omega⟩
    have hread : Reads room (S.afterColon ++ S.chars (level + 1) j) j :=
      (reads_chars hfloats (level + 1) j hfirst (by omega)).blanks S.blank_afterColon
    simp only [chars, List.length_cons, List.length_append] at hfuel
    have hmembers := readMembers_members hfloats level ms hothers (by omega) (k := k)
      (S.blank_gap (level + 1)) hread fuel rest (by
        rw [List.length_append]
        omega)
    rw [chars, List.cons_append]
    refine readValue_object ?_
    simpa using hmembers
  | .null, hj, room, _ => reads_scalarChars hfloats hj nofun nofun room
  | .bool _, hj, room, _ => reads_scalarChars hfloats hj nofun nofun room
  | .unsigned _, hj, room, _ => reads_scalarChars hfloats hj nofun nofun room
  | .signed _, hj, room, _ => reads_scalarChars hfloats hj nofun nofun room
  | .float _, hj, room, _ => reads_scalarChars hfloats hj nofun nofun room
  | .string _, hj, room, _ => reads_scalarChars hfloats hj nofun nofun room
termination_by structural j => j

/-- Items are read behind the first one. -/
theorem readItems_items (hfloats : ReadsFloats floats) (level : Nat) :
    ∀ (js : List Json), LegibleItems floats js → ∀ {room : Nat}, depthOfItems js ≤ room →
      ∀ {j : Json} {cs : List Char}, Reads room cs j → ∀ (fuel : Nat) (rest : List Char),
        2 * (cs.length + (S.items level js).length) + 2 ≤ fuel →
          readItems fuel room (cs ++ S.items level js ++ rest) = some (j :: js, rest)
  | [], _, room, _, j, cs, hread, fuel, rest, hfuel => by
    obtain ⟨fuel, rfl⟩ : ∃ k, fuel = k + 1 := ⟨fuel - 1, by omega⟩
    have henough : 2 * cs.length + 1 ≤ fuel := by omega
    have hlast := readItems_last hread (S.blank_gap level) henough rest
    simpa [items] using hlast
  | k :: ks, hks, room, hroom, j, cs, hread, fuel, rest, hfuel => by
    obtain ⟨fuel, rfl⟩ : ∃ k, fuel = k + 1 := ⟨fuel - 1, by omega⟩
    obtain ⟨hk, hothers⟩ : k.Legible floats ∧ LegibleItems floats ks := hks
    have hdepth : max k.depth (depthOfItems ks) ≤ room := hroom
    have hnext : Reads room (S.gap (level + 1) ++ S.chars (level + 1) k) k :=
      (reads_chars hfloats (level + 1) k hk (by omega)).blanks (S.blank_gap (level + 1))
    simp only [items, List.length_cons, List.length_append] at hfuel
    have hmore := readItems_items hfloats level ks hothers (by omega) hnext fuel rest (by
      rw [List.length_append]
      omega)
    have hcons := readItems_cons hread hmore (by omega)
    simpa [items] using hcons
termination_by structural js => js

/-- Members are read behind the first one. -/
theorem readMembers_members (hfloats : ReadsFloats floats) (level : Nat) :
    ∀ (ms : List (String × Json)), LegibleMembers floats ms →
      ∀ {room : Nat}, depthOfMembers ms ≤ room →
      ∀ {k : String} {j : Json} {as cs : List Char}, (∀ c ∈ as, Blank c) → Reads room cs j →
        ∀ (fuel : Nat) (rest : List Char),
          2 * (cs.length + (S.members level ms).length) + 2 ≤ fuel →
            readMembers fuel room (as ++ (quote k ++ ':' :: (cs ++ S.members level ms ++ rest))) =
              some ((k, j) :: ms, rest)
  | [], _, room, _, k, j, as, cs, has, hread, fuel, rest, hfuel => by
    obtain ⟨fuel, rfl⟩ : ∃ k, fuel = k + 1 := ⟨fuel - 1, by omega⟩
    have henough : 2 * cs.length + 1 ≤ fuel := by omega
    have hlast := readMembers_last has hread (S.blank_gap level) henough rest (k := k)
    simpa [members] using hlast
  | (k', j') :: ms, hms, room, hroom, k, j, as, cs, has, hread, fuel, rest, hfuel => by
    obtain ⟨fuel, rfl⟩ : ∃ k, fuel = k + 1 := ⟨fuel - 1, by omega⟩
    obtain ⟨hfirst, hothers⟩ : j'.Legible floats ∧ LegibleMembers floats ms := hms
    have hdepth : max j'.depth (depthOfMembers ms) ≤ room := hroom
    have hnext : Reads room (S.afterColon ++ S.chars (level + 1) j') j' :=
      (reads_chars hfloats (level + 1) j' hfirst (by omega)).blanks S.blank_afterColon
    simp only [members, List.length_cons, List.length_append] at hfuel
    have hmore := readMembers_members hfloats level ms hothers (by omega) (k := k')
      (S.blank_gap (level + 1)) hnext fuel rest (by
        rw [List.length_append]
        omega)
    have hcons := readMembers_cons has hread hmore (k := k) (by omega)
    simpa [members] using hcons
termination_by structural ms => ms

end

/-- A printed document is a whole text that is read as the document, also with blanks behind it. -/
theorem read?_chars (hfloats : ReadsFloats floats) {j : Json} (hj : j.Legible floats)
    (hdepth : j.depth < 128) (level : Nat) {bs : List Char} (hbs : ∀ c ∈ bs, Blank c) :
    read? (String.ofList (S.chars level j ++ bs)) = some j := by
  have hroom : j.depth ≤ maxDepth := Nat.le_of_lt_succ hdepth
  have hends : EndsNumeral (bs ++ []) := .blanks hbs endsNumeral_nil
  have hread := reads_chars S hfloats level j hj hroom (2 * (S.chars level j ++ bs).length + 2)
    (bs ++ []) (by rw [List.length_append]; omega) hends
  rw [List.append_nil] at hread
  have hrest : skipBlanks bs = [] := by
    have hskip := skipBlanks_append hbs []
    rwa [List.append_nil] at hskip
  rw [read?, String.toList_ofList]
  simp only [hread, hrest, List.isEmpty_nil, if_true]

end Read

end Spacing

/-- **A compact document is read again**, whatever its strings are, if it nests fewer than 128
levels. -/
theorem read?_compact {floats : Binary64 → Prop} (hfloats : ReadsFloats floats) {j : Json}
    (hj : j.Legible floats) (hdepth : j.depth < 128) : read? j.compact = some j := by
  have hread := Spacing.tight.read?_chars hfloats hj hdepth 0 (List.forall_mem_nil Blank)
  rwa [List.append_nil, Spacing.chars_tight] at hread

/-- **An indented document is read again**, also with blanks behind it, whatever its strings are, if
it nests fewer than 128 levels. -/
theorem read?_pretty {floats : Binary64 → Prop} (hfloats : ReadsFloats floats) {j : Json}
    (hj : j.Legible floats) (hdepth : j.depth < 128) {bs : List Char} (hbs : ∀ c ∈ bs, Blank c) :
    read? (j.pretty ++ String.ofList bs) = some j := by
  rw [pretty, ← Spacing.chars_lines, ← String.ofList_append]
  exact Spacing.read?_chars _ hfloats hj hdepth 0 hbs

end Json

end Intake
