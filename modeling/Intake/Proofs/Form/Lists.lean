import Intake.Form.Run
import Intake.Proofs.Pairwise
import Intake.Proofs.Result

set_option autoImplicit false

/-!
# Rules on lists

A rule for lists takes each item through the whole chain before it turns to the next item. A rule
for lists of texts takes all texts through the first rule of its chain, then all results through the
second one, and so on. As rules see nothing of the other items, the order of the two loops makes no
difference to a list that passes.

## Main definitions

* `Rule.PassesText` — every rule of a chain, in order, gives a text.

## Main results

* `check_list_eq_ok_iff` — a list passes item by item.
* `Rule.checkAllTexts_eq_ok_iff` — texts pass rule by rule as they pass one by one.
* `Rule.check_textList_itemwise` — lists of texts, by their items.
-/

namespace Intake

/-! ### Lists -/

/-- Items are checked one by one. -/
lemma checkItems_eq_ok_iff {f : Value → Except Rejection Value} {i : Nat} {items ws : List Value} :
    checkItems f i items = .ok ws ↔ List.Forall₂ (fun v w => f v = .ok w) items ws := by
  induction items generalizing i ws with
  | nil => simp [checkItems, eq_comm]
  | cons v rest ih =>
    rw [checkItems, List.forall₂_cons_left_iff]
    cases f v with
    | error r => simp
    | ok w => simp [map_cons_eq_ok_iff, ih]

/-- The texts of a list are all its items. -/
lemma textsOf_eq_ok_iff {items : List Value} {texts : List String} :
    textsOf items = .ok texts ↔ items = texts.map .string := by
  induction items generalizing texts with
  | nil => simp [textsOf, eq_comm]
  | cons v rest ih =>
    cases v with
    | string s =>
      rw [textsOf, map_cons_eq_ok_iff]
      constructor
      · rintro ⟨more, hmore, rfl⟩
        rw [List.map_cons, ih.mp hmore]
      · intro h
        obtain ⟨t, more, rfl, ht, hmore⟩ := List.map_eq_cons_iff.mp h.symm
        obtain rfl : t = s := Value.string.inj ht
        exact ⟨more, ih.mpr hmore.symm, rfl⟩
    | null | bool | int | float | bytes | list | map => cases texts <;> simp [textsOf]

/-- A list with an item that is no text has no texts. -/
lemma textsOf_eq_error {items : List Value} (h : ∃ v ∈ items, ∀ s, v ≠ .string s) :
    textsOf items = .error .notText := by
  obtain ⟨v, hv, htext⟩ := h
  induction items with
  | nil => cases hv
  | cons w rest ih =>
    cases w with
    | string s =>
      rcases List.mem_cons.mp hv with rfl | hmem
      · exact absurd rfl (htext s)
      · rw [textsOf, ih hmem]
        rfl
    | null | bool | int | float | bytes | list | map => rfl

/-- A rule runs on texts one by one. -/
lemma checkTexts_eq_ok_iff {f : Value → Except Rejection Value} {texts results : List String} :
    checkTexts f texts = .ok results ↔
      List.Forall₂ (fun s t => f (.string s) = .ok (.string t)) texts results := by
  induction texts generalizing results with
  | nil => simp [checkTexts, eq_comm]
  | cons s rest ih =>
    rw [checkTexts, List.forall₂_cons_left_iff]
    cases f (.string s) with
    | error r => simp
    | ok w =>
      cases w with
      | string t => simp [map_cons_eq_ok_iff, ih]
      | null | bool | int | float | bytes | list | map => simp

variable {values : Dict Value} {context : Option (Dict Value)} {chain : List Rule}

/-- A single rule inside another rule. -/
lemma checkNested_singleton (r : Rule) (v : Value) :
    Rule.checkNested [r] values context v = r.check values context v := by
  rw [Rule.checkNested]
  cases r.check values context v <;> rfl

/-- A list that passes a rule for its items is a list of items that pass. -/
lemma check_list_eq_ok_iff {v w : Value} :
    (Rule.list chain).check values context v = .ok w ↔
      ∃ items ws, v = .list items ∧ w = .list ws ∧
        List.Forall₂ (fun v w => Rule.checkNested chain values context v = .ok w) items ws := by
  cases v with
  | list items =>
    rw [Rule.check]
    split_ifs with hc
    · obtain rfl : chain = [] := by simpa using hc
      simp only [Rule.checkNested, Except.ok.injEq, Value.list.injEq, exists_and_left,
        exists_eq_left', List.forall₂_eq_eq_eq, exists_eq_right']
      exact eq_comm
    · simp only [map_eq_ok_iff, checkItems_eq_ok_iff]
      constructor
      · rintro ⟨ws, hws, rfl⟩
        exact ⟨items, ws, rfl, rfl, hws⟩
      · rintro ⟨_, ws, hitems, rfl, hws⟩
        cases hitems
        exact ⟨ws, hws, rfl⟩
  | null | bool | int | float | string | bytes | map => simp [Rule.check]

/-! ### Lists of texts -/

namespace Rule

/-- A chain takes a text to a text: every rule in order gives a text, the first one on the text
itself and each other one on what the rule before it gave. -/
inductive PassesText (values : Dict Value) (context : Option (Dict Value)) :
    List Rule → String → String → Prop where
  | nil {s : String} : PassesText values context [] s s
  | cons {r : Rule} {rest : List Rule} {s t u : String}
    (hr : r.check values context (.string s) = .ok (.string t))
    (hrest : PassesText values context rest t u) : PassesText values context (r :: rest) s u

/-- A chain without rules takes a text to itself. -/
lemma passesText_nil_iff {s t : String} : PassesText values context [] s t ↔ s = t := by
  constructor
  · intro h
    cases h
    rfl
  · rintro rfl
    exact .nil

/-- A chain takes a text through its first rule and then through the others. -/
lemma passesText_cons_iff {r : Rule} {rest : List Rule} {s u : String} :
    PassesText values context (r :: rest) s u ↔
      ∃ t, r.check values context (.string s) = .ok (.string t) ∧
        PassesText values context rest t u := by
  constructor
  · intro h
    cases h with
    | cons hr hrest => exact ⟨_, hr, hrest⟩
  · rintro ⟨t, hr, hrest⟩
    exact .cons hr hrest

/-- A text that passes a chain is what the chain gives inside another rule. -/
lemma PassesText.checkNested_eq {s t : String} (h : PassesText values context chain s t) :
    checkNested chain values context (.string s) = .ok (.string t) := by
  induction h with
  | nil => rfl
  | cons hr _ ih =>
    rw [checkNested, hr]
    exact ih

/-- **Texts pass rule by rule as they pass one by one.**

**Proof sketch.** Induction on the chain. The first rule relates the texts to its results one by
one, and by the induction hypothesis the other rules relate these to the final results one by one;
two such walks over a list are one walk in which each text takes both steps. -/
theorem checkAllTexts_eq_ok_iff {texts results : List String} :
    checkAllTexts chain values context texts = .ok results ↔
      List.Forall₂ (PassesText values context chain) texts results := by
  induction chain generalizing texts with
  | nil =>
    have hnil : PassesText values context [] = Eq := by
      funext s t
      exact propext passesText_nil_iff
    rw [checkAllTexts, Except.ok.injEq, hnil, List.forall₂_eq_eq_eq]
  | cons r rest ih =>
    have hcons : PassesText values context (r :: rest) = fun s u =>
        ∃ t, r.check values context (.string s) = .ok (.string t) ∧
          PassesText values context rest t u := by
      funext s u
      exact propext passesText_cons_iff
    rw [hcons, forall₂_comp_iff, checkAllTexts]
    simp only [← checkTexts_eq_ok_iff, ← ih]
    cases checkTexts (r.check values context) texts <;> simp

/-- A list of texts passes when all texts pass the chain. -/
lemma check_textList_eq_ok_iff {texts : List String} {out : Value} :
    (Rule.textList chain).check values context (.list (texts.map .string)) = .ok out ↔
      ∃ results, List.Forall₂ (PassesText values context chain) texts results ∧
        out = .list (results.map .string) := by
  have htexts : textsOf (texts.map .string) = .ok texts := textsOf_eq_ok_iff.mpr rfl
  rw [Rule.check, htexts]
  simp only [map_eq_ok_iff, checkAllTexts_eq_ok_iff, @eq_comm _ out]

/-- **A list of texts is judged item by item.** For every chain, all sibling values and every
context, a rule for lists of texts takes a list of texts exactly when every rule of the chain, run
in order on each text by itself, gives a text; what it gives then is the list of the results, each
in the place of its text, and the rule for lists with the same chain gives the same. A list with an
item that is no text is rejected.

**Proof sketch.** The rule runs its chain over all texts at once, which comes to the same as running
it on each text (`checkAllTexts_eq_ok_iff`). A chain that gives a text in this way gives the same
text as the chain of an item (`PassesText.checkNested_eq`). -/
theorem check_textList_itemwise (chain : List Rule) (values : Dict Value)
    (context : Option (Dict Value)) :
    (∀ texts : List String,
      ((∃ out, (Rule.textList chain).check values context (.list (texts.map .string)) = .ok out) ↔
        ∀ s ∈ texts, ∃ t, PassesText values context chain s t) ∧
      ∀ out, (Rule.textList chain).check values context (.list (texts.map .string)) = .ok out →
        (Rule.list chain).check values context (.list (texts.map .string)) = .ok out ∧
        ∃ results, out = .list (results.map .string) ∧
          List.Forall₂ (PassesText values context chain) texts results) ∧
    ∀ items : List Value, (∃ v ∈ items, ∀ s, v ≠ .string s) →
      (Rule.textList chain).check values context (.list items) = .error .notText := by
  refine ⟨fun texts => ⟨⟨?_, fun hall => ?_⟩, fun out hout => ?_⟩, fun items hother => ?_⟩
  · rintro ⟨out, hout⟩ s hs
    obtain ⟨results, hresults, -⟩ := check_textList_eq_ok_iff.mp hout
    obtain ⟨t, -, ht⟩ := exists_of_mem_forall₂ hresults hs
    exact ⟨t, ht⟩
  · obtain ⟨results, hresults⟩ := exists_forall₂ hall
    exact ⟨_, check_textList_eq_ok_iff.mpr ⟨results, hresults, rfl⟩⟩
  · obtain ⟨results, hresults, rfl⟩ := check_textList_eq_ok_iff.mp hout
    refine ⟨check_list_eq_ok_iff.mpr ⟨_, _, rfl, rfl, ?_⟩, results, rfl, hresults⟩
    rw [List.forall₂_map_left_iff, List.forall₂_map_right_iff]
    exact hresults.imp fun _ _ h => h.checkNested_eq
  · rw [Rule.check, textsOf_eq_error hother]

/-- The rule for lists takes more: its chain may turn texts into other values. -/
example : (Rule.list [.integer ⟨true, none, none⟩]).check [] none (.list [.string "7"]) =
      .ok (.list [.int 7]) ∧
    (Rule.textList [.integer ⟨true, none, none⟩]).check [] none (.list [.string "7"]) =
      .error .textLost := by
  constructor
  · rfl
  · rfl

end Rule

end Intake
