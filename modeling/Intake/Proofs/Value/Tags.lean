import Intake.Proofs.Result
import Intake.Value.Yaml

set_option autoImplicit false

/-!
# Tags of YAML documents

Tags on nodes make no difference to the value of a document, wherever they stand and however many
there are. A tag on a key makes one: a text under a tag is not taken for a text, and the document is
refused because the key is not the text that it is described as. No other key is refused for its tag
alone, and a refused key is described without its tags.

## Main definitions

* `Yaml.TextKeysBare` — documents that tag no key which is a text.
* `Yaml.KeysDiffer` — documents that repeat no key.
* `ValueError.RefusesText` — refusing a key which is a text.

## Main results

* `Value.sameUnless_untag` — tags make no difference unless a text is refused as a key.
* `Value.failsOnly_ofYaml` — no text is refused as a key if none is tagged.
* `Value.ofYaml_untag_iff` — when a document and the document without its tags come to the same.
* `Value.not_ofYaml_untag` — a document with a tagged key that does not.
-/

namespace Intake

/-! ### Keys -/

namespace Yaml

mutual

/-- No key of a mapping is a text under tags. -/
def TextKeysBare : Yaml → Prop
  | .sequence items => ItemsTextKeysBare items
  | .mapping entries => EntriesTextKeysBare entries
  | .tagged _ node => node.TextKeysBare
  | _ => True
termination_by structural y => y

/-- No key inside the items is a text under tags. -/
def ItemsTextKeysBare : List Yaml → Prop
  | [] => True
  | y :: rest => y.TextKeysBare ∧ ItemsTextKeysBare rest
termination_by structural items => items

/-- No key among the entries or inside their values is a text under tags. -/
def EntriesTextKeysBare : List (Yaml × Yaml) → Prop
  | [] => True
  | (key, y) :: rest =>
    (∀ s, key.untag = .string s → key = .string s) ∧ y.TextKeysBare ∧ EntriesTextKeysBare rest
termination_by structural entries => entries

end

mutual

/-- No mapping inside a document repeats a key. -/
def KeysDiffer : Yaml → Prop
  | .sequence items => ItemsKeysDiffer items
  | .mapping entries =>
    (entries.Pairwise fun e f => e.1.same f.1 = false) ∧ EntriesKeysDiffer entries
  | .tagged _ node => node.KeysDiffer
  | _ => True
termination_by structural y => y

/-- No mapping inside the items repeats a key. -/
def ItemsKeysDiffer : List Yaml → Prop
  | [] => True
  | y :: rest => y.KeysDiffer ∧ ItemsKeysDiffer rest
termination_by structural items => items

/-- No mapping inside the keys and values of entries repeats a key. -/
def EntriesKeysDiffer : List (Yaml × Yaml) → Prop
  | [] => True
  | (key, y) :: rest => key.KeysDiffer ∧ y.KeysDiffer ∧ EntriesKeysDiffer rest
termination_by structural entries => entries

end

/-- A key is described without its tags. -/
theorem describeKey_untag : ∀ key : Yaml, key.untag.describeKey = key.describeKey
  | .null | .bool _ | .unsigned _ | .signed _ | .float _ | .string _ | .sequence _ | .mapping _ =>
    rfl
  | .tagged _ node => describeKey_untag node
termination_by structural key => key

/-- Only a text is described as one. -/
theorem untag_eq_string_of_describeKey {s : String} :
    ∀ key : Yaml, key.describeKey = (string s).describeKey → ∃ t, key.untag = .string t
  | .string t, _ => ⟨t, rfl⟩
  | .tagged _ node, h => untag_eq_string_of_describeKey node h
  | .null, h | .bool _, h | .unsigned _, h | .signed _, h | .float _, h | .sequence _, h
  | .mapping _, h => by
    have hletters := congrArg (fun text : String => text.toList.take 2) h
    simp [describeKey] at hletters
termination_by structural key => key

/-- Dropping the tags again makes no difference to whether a document is a text. -/
theorem untag_untag_eq_string_iff {s : String} :
    ∀ y : Yaml, y.untag.untag = .string s ↔ y.untag = .string s
  | .null | .bool _ | .unsigned _ | .signed _ | .float _ | .string _ => Iff.rfl
  | .sequence _ | .mapping _ => iff_of_false nofun nofun
  | .tagged _ inner => untag_untag_eq_string_iff inner
termination_by structural y => y

mutual

/-- A document without its tags has no tagged text for a key. -/
theorem textKeysBare_untag : ∀ y : Yaml, y.untag.TextKeysBare
  | .null | .bool _ | .unsigned _ | .signed _ | .float _ | .string _ => trivial
  | .sequence items => textKeysBare_untagItems items
  | .mapping entries => textKeysBare_untagEntries entries
  | .tagged _ node => textKeysBare_untag node
termination_by structural y => y

/-- Nor have its items. -/
theorem textKeysBare_untagItems : ∀ items : List Yaml, ItemsTextKeysBare (untagItems items)
  | [] => trivial
  | y :: rest => ⟨textKeysBare_untag y, textKeysBare_untagItems rest⟩
termination_by structural items => items

/-- Nor have its entries. -/
theorem textKeysBare_untagEntries :
    ∀ entries : List (Yaml × Yaml), EntriesTextKeysBare (untagEntries entries)
  | [] => trivial
  | (key, y) :: rest =>
    ⟨fun _ => (untag_untag_eq_string_iff key).mp, textKeysBare_untag y,
      textKeysBare_untagEntries rest⟩
termination_by structural entries => entries

end

end Yaml

/-- A complaint about a key that is a text. -/
def ValueError.RefusesText (e : ValueError) : Prop :=
  ∃ s, e = .nonStringKey (Yaml.string s).describeKey

/-- A refused key is taken for a text exactly when it is one under its tags. -/
lemma ValueError.refusesText_iff {key : Yaml} :
    (ValueError.nonStringKey key.describeKey).RefusesText ↔ ∃ s, key.untag = .string s := by
  constructor
  · rintro ⟨s, hs⟩
    exact key.untag_eq_string_of_describeKey (ValueError.nonStringKey.inj hs)
  · rintro ⟨s, hs⟩
    exact ⟨s, by rw [← hs, key.describeKey_untag]⟩

namespace Value

open Yaml

/-! ### Documents step by step -/

/-- A sequence is read item by item. -/
lemma ofYaml_sequence (items : List Yaml) :
    ofYaml (.sequence items) = (ofYamlItems items).map .list := by
  rw [ofYaml]
  cases ofYamlItems items <;> rfl

/-- A mapping is read entry by entry. -/
lemma ofYaml_mapping (entries : List (Yaml × Yaml)) :
    ofYaml (.mapping entries) = (ofYamlEntries entries []).map .map := by
  rw [ofYaml]
  cases ofYamlEntries entries [] <;> rfl

/-- The first item is read before the others. -/
lemma ofYamlItems_cons (y : Yaml) (rest : List Yaml) :
    ofYamlItems (y :: rest) = (ofYaml y).bind fun v => (ofYamlItems rest).map (v :: ·) := by
  rw [ofYamlItems]
  cases ofYaml y with
  | error e => rfl
  | ok v => cases ofYamlItems rest <;> rfl

/-- A first entry under a text is read before the others. -/
lemma ofYamlEntries_text (s : String) (y : Yaml) (rest : List (Yaml × Yaml)) (done : Dict Value) :
    ofYamlEntries ((.string s, y) :: rest) done =
      (ofYaml y).bind fun v => ofYamlEntries rest (done.insert s v) := by
  rw [ofYamlEntries]
  cases ofYaml y <;> rfl

/-- A first entry under anything else is refused. -/
lemma ofYamlEntries_other {key : Yaml} (hkey : ∀ s, key ≠ .string s) (y : Yaml)
    (rest : List (Yaml × Yaml)) (done : Dict Value) :
    ofYamlEntries ((key, y) :: rest) done = .error (.nonStringKey key.describeKey) := by
  cases key with
  | string s => exact absurd rfl (hkey s)
  | _ => rfl

/-! ### What tags make a difference to -/

mutual

/-- Tags make no difference to the value of a document, nor to its failure, unless the document is
refused for a key that is a text. -/
theorem sameUnless_untag :
    ∀ y : Yaml, SameUnless ValueError.RefusesText (ofYaml y.untag) (ofYaml y)
  | .null | .bool _ | .unsigned _ | .signed _ | .float _ | .string _ => .inl rfl
  | .sequence items => by
    rw [untag, ofYaml_sequence, ofYaml_sequence]
    exact (sameUnless_untagItems items).map Value.list
  | .mapping entries => by
    rw [untag, ofYaml_mapping, ofYaml_mapping]
    exact (sameUnless_untagEntries entries []).map Value.map
  | .tagged _ node => sameUnless_untag node
termination_by structural y => y

/-- Nor to the values of items. -/
theorem sameUnless_untagItems : ∀ items : List Yaml,
    SameUnless ValueError.RefusesText (ofYamlItems (untagItems items)) (ofYamlItems items)
  | [] => .inl rfl
  | y :: rest => by
    rw [untagItems, ofYamlItems_cons, ofYamlItems_cons]
    exact (sameUnless_untag y).bind fun v => (sameUnless_untagItems rest).map (v :: ·)
termination_by structural items => items

/-- Nor to entries, whatever was read before them. -/
theorem sameUnless_untagEntries : ∀ (entries : List (Yaml × Yaml)) (done : Dict Value),
    SameUnless ValueError.RefusesText (ofYamlEntries (untagEntries entries) done)
      (ofYamlEntries entries done)
  | [], _ => .inl rfl
  | (key, y) :: rest, done => by
    rw [untagEntries]
    by_cases htext : ∃ s, key.untag = .string s
    · obtain ⟨s, hs⟩ := htext
      by_cases hbare : key = .string s
      · subst hbare
        rw [hs, ofYamlEntries_text, ofYamlEntries_text]
        exact (sameUnless_untag y).bind fun v => sameUnless_untagEntries rest (done.insert s v)
      · -- The key is a text under tags, which is refused as the text that it is described as.
        have hkey : ∀ t, key ≠ .string t := by
          rintro t rfl
          exact hbare hs
        exact .inr ⟨_, ofYamlEntries_other hkey y rest done, ValueError.refusesText_iff.mpr ⟨s, hs⟩⟩
    · -- The key is no text, with its tags or without them, and is described without them.
      have hkey : ∀ s, key ≠ .string s := by
        rintro s rfl
        exact htext ⟨s, rfl⟩
      rw [ofYamlEntries_other hkey, ofYamlEntries_other fun s hs => htext ⟨s, hs⟩,
        describeKey_untag]
      exact .inl rfl
termination_by structural entries => entries

end

mutual

/-- A document is not refused for a key that is a text if no such key is tagged. -/
theorem failsOnly_ofYaml :
    ∀ y : Yaml, y.TextKeysBare → FailsOnly (fun e => ¬ e.RefusesText) (ofYaml y)
  | .null, _ | .bool _, _ | .unsigned _, _ | .signed _, _ | .float _, _ | .string _, _ =>
    failsOnly_ok _ _
  | .sequence items, h => by
    rw [ofYaml_sequence]
    exact (failsOnly_ofYamlItems items h).map Value.list
  | .mapping entries, h => by
    rw [ofYaml_mapping]
    exact (failsOnly_ofYamlEntries entries h []).map Value.map
  | .tagged _ node, h => failsOnly_ofYaml node h
termination_by structural y => y

/-- Nor are its items. -/
theorem failsOnly_ofYamlItems : ∀ items : List Yaml,
    ItemsTextKeysBare items → FailsOnly (fun e => ¬ e.RefusesText) (ofYamlItems items)
  | [], _ => failsOnly_ok _ _
  | y :: rest, ⟨hy, hrest⟩ => by
    rw [ofYamlItems_cons]
    exact (failsOnly_ofYaml y hy).bind fun v _ => (failsOnly_ofYamlItems rest hrest).map (v :: ·)
termination_by structural items => items

/-- Nor are its entries, whatever was read before them. -/
theorem failsOnly_ofYamlEntries : ∀ entries : List (Yaml × Yaml), EntriesTextKeysBare entries →
    ∀ done : Dict Value, FailsOnly (fun e => ¬ e.RefusesText) (ofYamlEntries entries done)
  | [], _, _ => failsOnly_ok _ _
  | (key, y) :: rest, ⟨hkey, hy, hrest⟩, done => by
    by_cases htext : ∃ s, key = .string s
    · obtain ⟨s, rfl⟩ := htext
      rw [ofYamlEntries_text]
      exact (failsOnly_ofYaml y hy).bind fun v _ =>
        failsOnly_ofYamlEntries rest hrest (done.insert s v)
    · have hother : ∀ s, key ≠ .string s := fun s hs => htext ⟨s, hs⟩
      rw [ofYamlEntries_other hother]
      intro e he hrefused
      cases he
      -- A key taken for a text is one under its tags, and then it carries none.
      obtain ⟨s, hs⟩ := ValueError.refusesText_iff.mp hrefused
      exact hother s (hkey s hs)
termination_by structural entries => entries

end

/-- **When tags make a difference.** A document comes to the same value, or to the same failure, as
the document without its tags, unless it is refused for a key that is a text; and it is never
refused for such a key if every key that is a text stands without a tag.

**Proof sketch.** Nodes drop their tags and keys are described without them, so the two documents
are read alike until a tagged text stands for a key (`sameUnless_untag`), and the tagged document is
refused there. The document without its tags has no such key and is not refused for a text
(`failsOnly_ofYaml`), so the two differ whenever the tagged one is. -/
theorem ofYaml_untag_iff (y : Yaml) :
    (ofYaml y.untag = ofYaml y ↔ FailsOnly (fun e => ¬ e.RefusesText) (ofYaml y)) ∧
      (y.TextKeysBare → ofYaml y.untag = ofYaml y) := by
  have hiff : ofYaml y.untag = ofYaml y ↔ FailsOnly (fun e => ¬ e.RefusesText) (ofYaml y) := by
    constructor
    · intro hsame
      rw [← hsame]
      exact failsOnly_ofYaml y.untag (textKeysBare_untag y)
    · intro hfails
      rcases sameUnless_untag y with hsame | ⟨e, he, htext⟩
      · exact hsame
      · exact absurd htext (hfails e he)
  exact ⟨hiff, fun hbare => hiff.mpr (failsOnly_ofYaml y hbare)⟩

/-- Tags on a mapping, on the values in it and on one another are dropped. -/
theorem ofYaml_untag_nested :
    ofYaml (.mapping [(.string "a", .sequence [.null, .bool true])]) =
      ofYaml (.tagged "!m" (.mapping [(.string "a",
        .tagged "!s" (.tagged "!t" (.sequence [.tagged "!n" .null, .bool true])))])) :=
  (ofYaml_untag_iff (.tagged "!m" (.mapping
    [(.string "a", .tagged "!s" (.tagged "!t" (.sequence [.tagged "!n" .null, .bool true])))]))).2
    ⟨fun _ h => h, ⟨trivial, trivial, trivial⟩, trivial⟩

/-- **A tag that makes a difference.** A mapping with the one key `k` is refused when the key is
tagged, and not without the tag. -/
theorem not_ofYaml_untag : ¬ ∀ y : Yaml, y.untag.KeysDiffer → ofYaml y.untag = ofYaml y := by
  intro h
  have hdiffer : (Yaml.mapping [(.string "k", .string "x")]).KeysDiffer :=
    ⟨List.pairwise_singleton _ _, trivial, trivial, trivial⟩
  have hsame := h (.mapping [(.tagged "!t" (.string "k"), .string "x")]) hdiffer
  exact nomatch hsame

end Value

end Intake
