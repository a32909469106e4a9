import Intake.Proofs.Schema.Errors
import Mathlib.Data.List.Perm.Basic
import Mathlib.Logic.Relation

set_option autoImplicit false

/-!
# Loading keeps the whole description

A form that was loaded mirrors its description: there is a rule for every description of a rule, in
the same place and of the described type, in the chains of fields and, at any depth, in the chains
and forms that rules hold. So a description that names an unknown type anywhere does not load.

## Main definitions

* `Value.under`, `Value.param` — what a description says under a key, and of a parameter.
* `Rule.Mirrors`, `Form.Mirrors` — rules and forms that mirror what is written.
* `Value.FormHolds`, `Value.RuleHolds`, `Value.DescribesRule` — where descriptions of rules stand in
  the description of a form.
* `Reading.Mirrored` — a reading that keeps what is built of it in step with what is written.

## Main results

* `Definition.mirrors_of_mem` — what a built-in type makes mirrors its description.
* `Registry.resolve_mirrors` — the rule that a description means mirrors it.
* `Registry.load_mirrors` — a form that was loaded mirrors its description, and a description with
  an unknown type at any depth does not load.

## Design

Descriptions are compared as they are written, before any form, shape or codec has read them.
-/

namespace Intake

/-! ### Descriptions as they are written -/

namespace Value

/-- What stands under a key of a map; null if nothing does. -/
def under (v : Value) (key : String) : Value := (v.get? key).getD .null

/-- A parameter in the description of a rule. -/
def param (v : Value) (name : String) : Value := (v.under "params").under name

/-- The items of a list; other values have none. -/
def items (v : Value) : List Value := v.toList?.getD []

/-- The entries of a map; other values have none. -/
def entries (v : Value) : Dict Value := v.toMap?.getD []

/-- A description of a rule stands in the chain of a field that is described with a form. -/
def FormHolds (form rule : Value) : Prop :=
  ∃ field ∈ (form.under "fields").items, rule ∈ (field.under "validators").items

/-- A description of a rule stands in a chain within the parameters of another one. -/
inductive RuleHolds : Value → Value → Prop
  | validators {v w : Value}
    (hlist : v.under "type" = .string "IsList" ∨ v.under "type" = .string "IsStringList")
    (hw : w ∈ (v.param "validators").items) : RuleHolds v w
  | options {v chain w : Value} (hor : v.under "type" = .string "Or")
    (hchain : chain ∈ (v.param "options").items) (hw : w ∈ chain.items) : RuleHolds v w
  | cases {v w : Value} {e : String × Value} (hswitch : v.under "type" = .string "Switch")
    (he : e ∈ (v.param "cases").entries) (hw : w ∈ e.2.items) : RuleHolds v w
  | fallback {v w : Value} (hswitch : v.under "type" = .string "Switch")
    (hw : w ∈ (v.param "default").items) : RuleHolds v w
  | form {v w : Value} (hmap : v.under "type" = .string "IsStringMap")
    (hw : (v.param "form").FormHolds w) : RuleHolds v w

/-- A description of a rule stands in a chain of a described form, at any depth. -/
def DescribesRule (form rule : Value) : Prop :=
  ∃ outer, form.FormHolds outer ∧ Relation.ReflTransGen RuleHolds outer rule

end Value

/-! ### Mirroring -/

mutual

/-- A rule is of the type that is described, and the chains and the form that it holds mirror those
that are described in its parameters. Code mirrors nothing. -/
def Rule.Mirrors : Rule → Value → Prop
  | .list chain, v =>
    v.under "type" = .string "IsList" ∧
      Rule.ChainMirrors chain ((v.param "validators").orIfMissing (.list []))
  | .textList chain, v =>
    v.under "type" = .string "IsStringList" ∧
      Rule.ChainMirrors chain ((v.param "validators").orIfMissing (.list []))
  | .map form _, v =>
    v.under "type" = .string "IsStringMap" ∧ Rule.InnerMirrors form (v.param "form")
  | .or options, v =>
    v.under "type" = .string "Or" ∧
      Rule.OptionsMirror options ((v.param "options").orIfMissing (.list []))
  | .switch _ cases fallback _, v =>
    v.under "type" = .string "Switch" ∧
      (∃ entries sorted : Dict Value, (v.param "cases").orIfMissing (.map []) = .map entries ∧
        sorted.Perm entries ∧ sorted.Ascending ∧ Rule.CasesMirror cases sorted) ∧
      Rule.FallbackMirrors fallback (v.param "default")
  | .custom _, _ => False
  | r, v => v.under "type" = .string r.typeName
termination_by structural r => r

/-- The rules of a chain mirror the items of a list, one by one. -/
def Rule.ChainMirrors : List Rule → Value → Prop
  | [], v => v = .list []
  | r :: rest, v => ∃ w ws, v = .list (w :: ws) ∧ r.Mirrors w ∧ Rule.ChainMirrors rest (.list ws)
termination_by structural chain => chain

/-- The form of a rule for maps mirrors the one described; it has none if none is. -/
def Rule.InnerMirrors : Option Form → Value → Prop
  | none, v => OptionalRule.isMissing v = true
  | some form, v => form.Mirrors v
termination_by structural form => form

/-- Options mirror the items of a list, one by one. -/
def Rule.OptionsMirror : List (List Rule) → Value → Prop
  | [], v => v = .list []
  | chain :: rest, v =>
    ∃ w ws, v = .list (w :: ws) ∧ Rule.ChainMirrors chain w ∧ Rule.OptionsMirror rest (.list ws)
termination_by structural options => options

/-- Cases mirror the entries of a map under the same names, one by one. -/
def Rule.CasesMirror : List (String × List Rule) → Dict Value → Prop
  | [], entries => entries = []
  | (name, chain) :: rest, entries =>
    ∃ w ws, entries = (name, w) :: ws ∧ Rule.ChainMirrors chain w ∧ Rule.CasesMirror rest ws
termination_by structural cases => cases

/-- The fallback of a switch mirrors the one described; there is none if none is. -/
def Rule.FallbackMirrors : Option (List Rule) → Value → Prop
  | none, v => OptionalRule.isMissing v = true
  | some chain, v => Rule.ChainMirrors chain v
termination_by structural fallback => fallback

/-- Fields mirror the items of a list, one by one: each has the name and the chain described. -/
def Field.AllMirror : List Field → Value → Prop
  | [], v => v = .list []
  | ⟨name, chain, _⟩ :: rest, v =>
    ∃ w ws, v = .list (w :: ws) ∧ w.under "name" = .string name ∧
      Rule.ChainMirrors chain ((w.under "validators").orIfMissing (.list [])) ∧
        Field.AllMirror rest (.list ws)
termination_by structural fields => fields

/-- A form mirrors a description if its fields mirror those described. -/
def Form.Mirrors : Form → Value → Prop
  | ⟨fields, _, _, _, _, _, _, _⟩, v => Field.AllMirror fields (v.under "fields")
termination_by structural form => form

end

/-- What mirrors the items of a list one by one. -/
lemma eachMirrors_iff {α : Type} {each : List α → Value → Prop} {one : α → Value → Prop}
    (hnil : ∀ v, each [] v ↔ v = .list [])
    (hcons : ∀ a rest v, each (a :: rest) v ↔
      ∃ w ws, v = .list (w :: ws) ∧ one a w ∧ each rest (.list ws)) {as : List α} {v : Value} :
    each as v ↔ ∃ items, v = .list items ∧ List.Forall₂ (fun w a => one a w) items as := by
  induction as generalizing v with
  | nil => simp [hnil]
  | cons a rest ih =>
    simp only [hcons, ih, List.forall₂_cons_right_iff]
    constructor
    · rintro ⟨w, ws, rfl, hw, _, hws, hrest⟩
      cases hws
      exact ⟨w :: ws, rfl, w, ws, hw, hrest, rfl⟩
    · rintro ⟨_, rfl, w, ws, hw, hrest, rfl⟩
      exact ⟨w, ws, rfl, hw, ws, rfl, hrest⟩

/-- A chain mirrors a list when its rules mirror the items. -/
lemma Rule.chainMirrors_iff {chain : List Rule} {v : Value} :
    Rule.ChainMirrors chain v ↔
      ∃ items, v = .list items ∧ List.Forall₂ (fun w (r : Rule) => r.Mirrors w) items chain :=
  eachMirrors_iff (fun _ => Iff.rfl) fun _ _ _ => Iff.rfl

/-- Options mirror a list when their chains mirror the items. -/
lemma Rule.optionsMirror_iff {options : List (List Rule)} {v : Value} :
    Rule.OptionsMirror options v ↔
      ∃ items, v = .list items ∧ List.Forall₂ (fun w chain => Rule.ChainMirrors chain w) items
        options :=
  eachMirrors_iff (fun _ => Iff.rfl) fun _ _ _ => Iff.rfl

/-- Cases mirror entries under the same names. -/
lemma Rule.casesMirror_iff {cases : List (String × List Rule)} {entries : Dict Value} :
    Rule.CasesMirror cases entries ↔
      List.Forall₂ (fun e c => c.1 = e.1 ∧ Rule.ChainMirrors c.2 e.2) entries cases := by
  induction cases generalizing entries with
  | nil => simp [Rule.CasesMirror]
  | cons c rest ih =>
    obtain ⟨name, chain⟩ := c
    simp only [Rule.CasesMirror, ih, List.forall₂_cons_right_iff]
    constructor
    · rintro ⟨w, ws, rfl, hw, hrest⟩
      exact ⟨(name, w), ws, ⟨rfl, hw⟩, hrest, rfl⟩
    · rintro ⟨⟨_, w⟩, ws, ⟨rfl, hw⟩, hrest, rfl⟩
      exact ⟨w, ws, rfl, hw, hrest⟩

/-- A field has the name and the chain that are described. -/
def Field.Mirrors (f : Field) (v : Value) : Prop :=
  v.under "name" = .string f.name ∧
    Rule.ChainMirrors f.chain ((v.under "validators").orIfMissing (.list []))

/-- A form mirrors a description when its fields mirror those described. -/
lemma Form.mirrors_iff {form : Form} {v : Value} :
    form.Mirrors v ↔ ∃ items, v.under "fields" = .list items ∧
      List.Forall₂ (fun w (f : Field) => f.Mirrors w) items form.fields := by
  have hall : ∀ (fields : List Field) (v : Value), Field.AllMirror fields v ↔
      ∃ items, v = .list items ∧
        List.Forall₂ (fun w (f : Field) => f.Mirrors w) items fields := by
    refine fun fields v => eachMirrors_iff (fun _ => Iff.rfl) fun f rest v => ?_
    obtain ⟨name, chain, examples⟩ := f
    simp only [Field.AllMirror, Field.Mirrors, and_assoc]
  obtain ⟨fields, strict, sanitizeKeys, errorMsg, name, examples, transforms, hook⟩ := form
  exact hall fields _

/-! ### Where descriptions stand -/

namespace Value

/-- A missing value is null or a text. -/
lemma null_or_string_of_missing {v : Value} (h : OptionalRule.isMissing v = true) :
    v = .null ∨ ∃ s, v = .string s := by
  cases v with
  | null => exact Or.inl rfl
  | string s => exact Or.inr ⟨s, rfl⟩
  | bool | int | float | bytes | list | map => cases h

/-- A missing value has no items. -/
lemma items_of_missing {v : Value} (h : OptionalRule.isMissing v = true) : v.items = [] := by
  obtain rfl | ⟨s, rfl⟩ := null_or_string_of_missing h <;> rfl

/-- A missing value has no entries. -/
lemma entries_of_missing {v : Value} (h : OptionalRule.isMissing v = true) : v.entries = [] := by
  obtain rfl | ⟨s, rfl⟩ := null_or_string_of_missing h <;> rfl

/-- Nothing stands under the keys of a missing value. -/
lemma under_of_missing {v : Value} (h : OptionalRule.isMissing v = true) (key : String) :
    v.under key = .null := by
  obtain rfl | ⟨s, rfl⟩ := null_or_string_of_missing h <;> rfl

/-- The empty list in place of a missing value has the same items. -/
@[simp] lemma items_orIfMissing (v : Value) : (v.orIfMissing (.list [])).items = v.items := by
  rw [orIfMissing]
  split_ifs with hmissing
  · exact (items_of_missing hmissing).symm
  · rfl

/-- The empty map in place of a missing value has the same entries. -/
@[simp] lemma entries_orIfMissing (v : Value) : (v.orIfMissing (.map [])).entries = v.entries := by
  rw [orIfMissing]
  split_ifs with hmissing
  · exact (entries_of_missing hmissing).symm
  · rfl

/-- The empty map in place of a missing value has the same under each key. -/
@[simp] lemma under_orIfMissing (v : Value) (key : String) :
    (v.orIfMissing (.map [])).under key = v.under key := by
  rw [orIfMissing]
  split_ifs with hmissing
  · exact (under_of_missing hmissing key).symm
  · rfl

end Value

namespace Rule

variable {r : Rule} {v w : Value}

/-- A rule that mirrors a description is of the type described. -/
lemma Mirrors.type_eq (h : r.Mirrors v) : v.under "type" = .string r.typeName := by
  cases r with
  | custom => exact h.elim
  | list | textList | map | or | switch => exact h.1
  | _ => exact h

/-- A rule that mirrors a description is of a built-in type. -/
lemma Mirrors.contains_typeName [PatternEngine] (h : r.Mirrors v) :
    Registry.builtin.contains r.typeName = true := by
  cases r with
  | custom => exact h.elim
  | _ => rfl

/-- Every item that a chain mirrors is mirrored by a rule. -/
lemma ChainMirrors.exists_mirrors {chain : List Rule} (h : ChainMirrors chain v)
    (hw : w ∈ v.items) : ∃ s : Rule, s.Mirrors w := by
  obtain ⟨items, rfl, hitems⟩ := chainMirrors_iff.mp h
  obtain ⟨s, -, hs⟩ := exists_of_mem_forall₂ hitems hw
  exact ⟨s, hs⟩

/-- Every item of an option that is mirrored is mirrored by a rule. -/
lemma OptionsMirror.exists_mirrors {options : List (List Rule)} (h : OptionsMirror options v)
    {item : Value} (hitem : item ∈ v.items) (hw : w ∈ item.items) : ∃ s : Rule, s.Mirrors w := by
  obtain ⟨items, rfl, hitems⟩ := optionsMirror_iff.mp h
  obtain ⟨chain, -, hchain⟩ := exists_of_mem_forall₂ hitems hitem
  exact hchain.exists_mirrors hw

/-- Every item of a case that is mirrored is mirrored by a rule. -/
lemma CasesMirror.exists_mirrors {cases : List (String × List Rule)} {entries : Dict Value}
    (h : CasesMirror cases entries) {e : String × Value} (he : e ∈ entries)
    (hw : w ∈ e.2.items) : ∃ s : Rule, s.Mirrors w := by
  obtain ⟨c, -, -, hchain⟩ := exists_of_mem_forall₂ (casesMirror_iff.mp h) he
  exact hchain.exists_mirrors hw

/-- Every item of a fallback that is mirrored is mirrored by a rule. -/
lemma FallbackMirrors.exists_mirrors {fallback : Option (List Rule)}
    (h : FallbackMirrors fallback v) (hw : w ∈ v.items) : ∃ s : Rule, s.Mirrors w := by
  cases fallback with
  | none =>
    rw [Value.items_of_missing h] at hw
    exact absurd hw List.not_mem_nil
  | some chain => exact ChainMirrors.exists_mirrors h hw

end Rule

/-- Every description of a rule in a form that is mirrored is mirrored by a rule. -/
lemma Form.Mirrors.exists_mirrors {form : Form} {v w : Value} (h : form.Mirrors v)
    (hw : v.FormHolds w) : ∃ s : Rule, s.Mirrors w := by
  obtain ⟨items, hitems, hfields⟩ := Form.mirrors_iff.mp h
  obtain ⟨field, hfield, hw⟩ := hw
  rw [hitems] at hfield
  obtain ⟨f, -, -, hchain⟩ := exists_of_mem_forall₂ hfields hfield
  exact hchain.exists_mirrors (by rwa [Value.items_orIfMissing])

/-- Every description of a rule in the form of a rule for maps is mirrored by a rule. -/
lemma Rule.InnerMirrors.exists_mirrors {form : Option Form} {v w : Value}
    (h : Rule.InnerMirrors form v) (hw : v.FormHolds w) : ∃ s : Rule, s.Mirrors w := by
  cases form with
  | none =>
    obtain ⟨field, hfield, -⟩ := hw
    rw [Value.under_of_missing h] at hfield
    exact absurd hfield List.not_mem_nil
  | some form => exact Form.Mirrors.exists_mirrors h hw

/-- Every description within the parameters of one that is mirrored is mirrored by a rule.

**Proof sketch.** The rule is of the type described, so it holds the chains or the form in which the
description stands. -/
lemma Rule.Mirrors.exists_mirrors {r : Rule} {v w : Value} (h : r.Mirrors v)
    (hw : v.RuleHolds w) : ∃ s : Rule, s.Mirrors w := by
  have htype := h.type_eq
  cases hw with
  | validators hlist hw =>
    cases r with
    | list chain | textList chain =>
      exact Rule.ChainMirrors.exists_mirrors h.2 (by rwa [Value.items_orIfMissing])
    | custom => exact h.elim
    | _ => simp [htype, Rule.typeName] at hlist
  | options hor hitem hw =>
    cases r with
    | or options =>
      exact Rule.OptionsMirror.exists_mirrors h.2 (by rwa [Value.items_orIfMissing]) hw
    | custom => exact h.elim
    | _ => simp [htype, Rule.typeName] at hor
  | cases hswitch he hw =>
    cases r with
    | switch key cases fallback exhaustive =>
      obtain ⟨-, ⟨entries, sorted, hentries, hperm, -, hcases⟩, -⟩ := h
      rw [← Value.entries_orIfMissing, hentries] at he
      exact Rule.CasesMirror.exists_mirrors hcases (hperm.mem_iff.mpr he) hw
    | custom => exact h.elim
    | _ => simp [htype, Rule.typeName] at hswitch
  | fallback hswitch hw =>
    cases r with
    | switch key cases fallback exhaustive => exact Rule.FallbackMirrors.exists_mirrors h.2.2 hw
    | custom => exact h.elim
    | _ => simp [htype, Rule.typeName] at hswitch
  | form hmap hw =>
    cases r with
    | map form shape => exact Rule.InnerMirrors.exists_mirrors h.2 hw
    | custom => exact h.elim
    | _ => simp [htype, Rule.typeName] at hmap

/-- Every description of a rule in a form that is mirrored, at any depth, is mirrored by a rule. -/
theorem Form.Mirrors.exists_mirrors_of_describes {form : Form} {v w : Value} (h : form.Mirrors v)
    (hw : v.DescribesRule w) : ∃ s : Rule, s.Mirrors w := by
  obtain ⟨outer, houter, hpath⟩ := hw
  induction hpath with
  | refl => exact h.exists_mirrors houter
  | tail _ hstep ih =>
    obtain ⟨s, hs⟩ := ih
    exact hs.exists_mirrors hstep

/-! ### What is built mirrors what is written -/

/-- What a map says under a key is as well formed as the map. -/
lemma Value.WellFormed.under {v : Value} (h : v.WellFormed) (key : String) :
    (v.under key).WellFormed := by
  cases v with
  | map entries =>
    have hunder : (Value.map entries).under key = (Dict.find? entries key).getD .null := rfl
    rw [hunder]
    cases hv : Dict.find? entries key with
    | none => trivial
    | some w => exact (Value.wellFormed_map_iff.mp h).2 _ (Dict.mem_of_find? hv)
  | null | bool | int | float | string | bytes | list => trivial

/-- What takes the place of a missing value is well formed if both are. -/
lemma Value.WellFormed.orIfMissing {v d : Value} (hv : v.WellFormed) (hd : d.WellFormed) :
    (v.orIfMissing d).WellFormed := by
  rw [Value.orIfMissing]
  split_ifs
  · exact hd
  · exact hv

namespace Reading

variable {α β : Type} [DataCodec β]

/-- What is built of an element mirrors the value that the element was read from. -/
def Mirrored (R : Reading β) (build : β → Except SchemaError α) (M : α → Value → Prop) : Prop :=
  ∀ v b a, v.WellFormed → R.accept? v = some b → build b = .ok a → M a v

/-- Lists are mirrored item by item. -/
lemma Mirrored.list {R : Reading β} {build : β → Except SchemaError α} {M : α → Value → Prop}
    (h : R.Mirrored build M) (hconvert : R.convert = false)
    {each : List β → Except SchemaError (List α)} (heach : IsTraversal each build) :
    (R.list hconvert).Mirrored each fun as v =>
      ∃ items, v = .list items ∧ List.Forall₂ (fun w a => M a w) items as := by
  intro v bs as hv hbs has
  obtain ⟨items, rfl, hitems⟩ := acceptAs?_list_eq_some_iff.mp hbs
  have hwf := Value.wellFormed_list_iff.mp hv
  have hbuilt := forall₂_comp_iff.mpr
    ⟨bs, (List.forall₂_and_left _ _).mpr ⟨hwf, hitems⟩, heach.eq_ok_iff.mp has⟩
  refine ⟨items, rfl, hbuilt.imp ?_⟩
  rintro w a ⟨b, ⟨hw, hb⟩, hab⟩
  rw [← hconvert] at hb
  exact h w b a hw hb hab

/-- A fallback that is read from a value is read from it in the place of a missing one. -/
lemma accept?_orIfMissing {R : Reading β} {d : Value} {b : β} (hd : R.accept? d = some b)
    (v : Value) :
    R.accept? (v.orIfMissing d) =
      if OptionalRule.isMissing v then some b else R.accept? v := by
  rw [Value.orIfMissing]
  split_ifs
  · exact hd
  · rfl

/-- Something that may be missing is mirrored if it is there. -/
lemma Mirrored.option {R : Reading β} {T : Translation α β} {resolve : Resolver}
    {M : α → Value → Prop} (h : R.Mirrored (T.build resolve) M) {v : Value} (hv : v.WellFormed)
    {b? : Option β} {a? : Option α}
    (hread : (if OptionalRule.isMissing v then some none else (R.accept? v).map some) = some b?)
    (hbuild : T.option.build resolve b? = .ok a?) :
    (OptionalRule.isMissing v = true ∧ a? = none) ∨ ∃ a, a? = some a ∧ M a v := by
  split_ifs at hread with hmissing
  · obtain rfl := Option.some.inj hread
    cases hbuild
    exact Or.inl ⟨hmissing, rfl⟩
  · obtain ⟨b, hb, rfl⟩ := Option.map_eq_some_iff.mp hread
    obtain ⟨a, ha, rfl⟩ := map_eq_ok_iff.mp hbuild
    exact Or.inr ⟨a, rfl, h v b a hv hb ha⟩

section Rules

variable {resolve : Resolver} (h : Reading.rule.Mirrored resolve Rule.Mirrors)

include h

/-- Chains are mirrored when rules are. -/
lemma Mirrored.chain : chainOfRules.Mirrored (resolveEach resolve) Rule.ChainMirrors :=
  fun v ds rs hv hds hrs => Rule.chainMirrors_iff.mpr
    (h.list rfl (Translation.isTraversal_resolveEach resolve) v ds rs hv hds hrs)

/-- Options are mirrored when rules are. -/
lemma Mirrored.options :
    (Reading.list chainOfRules rfl).Mirrored (Builtin.resolveOptions resolve) Rule.OptionsMirror :=
  fun v dss rss hv hdss hrss => Rule.optionsMirror_iff.mpr
    (h.chain.list rfl (Translation.isTraversal_resolveOptions resolve) v dss rss hv hdss hrss)

/-- Cases are mirrored, in the order of their names, when rules are. -/
lemma Mirrored.cases {v : Value} (hv : v.WellFormed) {described : Dict (List RuleDescription)}
    {cases : Dict (List Rule)}
    (hdescribed : (Reading.dictionary chainOfRules MetaForm.chain rfl rfl
      check_chain_ne_null).accept? v = some described)
    (hcases : Builtin.resolveCases resolve described.sorted = .ok cases) :
    ∃ entries sorted : Dict Value, v = .map entries ∧ sorted.Perm entries ∧ sorted.Ascending ∧
      Rule.CasesMirror cases sorted := by
  have hclosed : MetaForm.chain.Closed := chainOfRules.closed _ (List.mem_singleton_self _)
  obtain ⟨entries, rfl, hentries⟩ :=
    (acceptAs?_dictionary_eq_some_iff hclosed check_chain_ne_null hv).mp hdescribed
  have hkeyed : List.Forall₂ (fun (b : String × List RuleDescription) (e : String × Value) =>
      e.2.WellFormed ∧ b.1 = e.1 ∧ chainOfRules.accept? e.2 = some b.2) described entries :=
    ((List.forall₂_and_left _ _).mpr ⟨(Value.wellFormed_map_iff.mp hv).2, hentries⟩).flip
  obtain ⟨sorted, hsorted, hperm⟩ := List.perm_comp_forall₂ described.sorted_perm hkeyed
  refine ⟨entries, sorted, rfl, hperm, ?_, Rule.casesMirror_iff.mpr ?_⟩
  · have hkeys : Dict.keys sorted = described.sorted.keys :=
      Dict.keys_eq_of_forall₂ (fun _ _ hb => hb.2.1.symm) hsorted
    rw [Dict.Ascending, hkeys]
    exact described.ascending_sorted
  · have hbuilt := (Translation.isTraversal_resolveCases resolve).eq_ok_iff.mp hcases
    refine (forall₂_comp_iff.mpr ⟨described.sorted, hsorted.flip, hbuilt⟩).imp ?_
    rintro e c ⟨b, ⟨hwf, hkey, hb⟩, hc⟩
    obtain ⟨rs, hrs, rfl⟩ := map_eq_ok_iff.mp hc
    exact ⟨hkey, h.chain e.2 b.2 rs hwf hb hrs⟩

/-- Fields are mirrored when rules are. -/
lemma Mirrored.field [PatternEngine] : (Reading.ofSchema FieldDescription.schema).Mirrored
    (Translation.field.build resolve) Field.Mirrors := by
  intro v d f hv hd hf
  obtain ⟨entries, rfl, hread⟩ := FieldDescription.schema.acceptAs?_eq_some_iff.mp hd
  obtain ⟨hname, hchain, -⟩ := FieldDescription.schema.forall_read? hread
  obtain ⟨rs, hrs, rfl⟩ := map_eq_ok_iff.mp hf
  have hname : Reading.text.accept? ((Value.map entries).under "name") = some d.name :=
    (Parameter.read?_require _).symm.trans hname
  have hchain : chainOfRules.accept?
      (((Value.map entries).under "validators").orIfMissing (.list [])) = some d.chain :=
    (Parameter.read?_orDefault _).symm.trans hchain
  exact ⟨acceptAs?_text_eq_some_iff.mp hname,
    h.chain _ d.chain rs ((hv.under _).orIfMissing trivial) hchain hrs⟩

/-- Forms are mirrored when rules are. -/
lemma Mirrored.form [PatternEngine] : (Reading.ofSchema FormDescription.schema).Mirrored
    (Translation.form.build resolve) Form.Mirrors := by
  intro v d f hv hd hf
  obtain ⟨entries, rfl, hread⟩ := FormDescription.schema.acceptAs?_eq_some_iff.mp hd
  obtain ⟨-, -, -, -, -, hfields, -⟩ := FormDescription.schema.forall_read? hread
  obtain ⟨fs, hfs, rfl⟩ := map_eq_ok_iff.mp hf
  have hfields : (Reading.list (.ofSchema FieldDescription.schema) rfl).accept?
      ((Value.map entries).under "fields") = some d.fields :=
    (Parameter.read?_require _).symm.trans hfields
  exact Form.mirrors_iff.mpr (h.field.list rfl (Translation.isTraversal_buildFields resolve) _
    d.fields fs (hv.under _) hfields hfs)

end Rules

end Reading

/-! ### Types of rules -/

/-- What a type makes of the parameters that a description gives mirrors the description, provided
that the resolver gives rules that mirror theirs. -/
def Definition.Mirrors (typeName : String) (definition : Definition) : Prop :=
  ∀ (v : Value) (given : Dict Value) (resolve : Resolver) (r : Rule), v.WellFormed →
    v.under "type" = .string typeName → (∀ name, v.param name = (given.find? name).getD .null) →
      Reading.rule.Mirrored resolve Rule.Mirrors → definition.make given resolve = .ok r →
        r.Mirrors v

namespace Definition

/-- What a type makes is built of the parameters that a schema reads. -/
lemma exists_read?_of_make {α : Type} [Record α] (S : Schema α) {typeName : String}
    {given : Dict Value} {build : α → Except SchemaError Rule} {r : Rule}
    (h : (readParameters typeName S.form given).bind build = .ok r) :
    ∃ p, S.read? given = some p ∧ build p = .ok r := by
  obtain ⟨p, hp, hr⟩ := bind_eq_ok_iff.mp h
  exact ⟨p, (S.readParameters_eq_ok_iff typeName).mp hp, hr⟩

/-- A type whose parameters are its rule makes rules of this type. -/
lemma mirrors_plain {α : Type} [Record α] {typeName : String} {params : Form} {toRule : α → Rule}
    (htype : ∀ a v, v.under "type" = .string typeName → (toRule a).Mirrors v) :
    Mirrors typeName (Builtin.plainDefinition typeName params toRule) := by
  intro v given resolve r _ hv _ _ hr
  obtain ⟨a, -, rfl⟩ := map_eq_ok_iff.mp hr
  exact htype a v hv

/-- A type without parameters makes a rule of this type. -/
lemma mirrors_constant {typeName : String} {r : Rule}
    (htype : ∀ v, v.under "type" = .string typeName → r.Mirrors v) :
    Mirrors typeName (Builtin.constantDefinition r) := by
  intro v given resolve _ _ hv _ _ hr
  cases hr
  exact htype v hv

/-- Rules with a pattern are of their type. -/
lemma mirrors_pattern [PatternEngine] :
    Mirrors "MatchesRegex" ⟨Builtin.patternParams, Builtin.makePattern⟩ := by
  intro v given resolve r _ hv _ _ hr
  have hr : Builtin.makePattern given resolve = .ok r := hr
  rw [Translation.makePattern_eq] at hr
  obtain ⟨p, -, hp⟩ := bind_eq_ok_iff.mp hr
  obtain ⟨pattern, -, rfl⟩ := Translation.buildPattern_eq_ok_iff.mp hp
  exact hv

/-- Rules for lists mirror the chains that are given. -/
lemma mirrors_list {typeName : String} {toRule : List Rule → Rule}
    (htype : ∀ chain v, v.under "type" = .string typeName →
      Rule.ChainMirrors chain ((v.param "validators").orIfMissing (.list [])) →
        (toRule chain).Mirrors v) :
    Mirrors typeName ⟨Builtin.listParams, Builtin.makeList typeName toRule⟩ := by
  intro v given resolve r hwf hv hparam hresolve hr
  have hr : Builtin.makeList typeName toRule given resolve = .ok r := hr
  rw [Translation.makeList_eq] at hr
  obtain ⟨p, hp, hr⟩ := exists_read?_of_make ListParameters.schema hr
  obtain ⟨hchain, -⟩ := ListParameters.schema.forall_read? hp
  obtain ⟨rs, hrs, rfl⟩ := map_eq_ok_iff.mp hr
  have hempty : Reading.chainOfRules.accept? (.list []) = some [] :=
    acceptAs?_list_eq_some_iff.mpr ⟨[], rfl, .nil⟩
  have hchain := (Reading.accept?_orIfMissing hempty _).trans
    ((Parameter.read?_orElse _).symm.trans hchain)
  rw [← hparam] at hchain
  exact htype rs v hv
    (hresolve.chain _ p.chain rs (((hwf.under _).under _).orIfMissing trivial) hchain hrs)

/-- Rules for maps mirror the form that is given. -/
lemma mirrors_map : Mirrors "IsStringMap" ⟨Builtin.mapParams, Builtin.makeMap⟩ := by
  intro v given resolve r hwf hv hparam hresolve hr
  have hr : Builtin.makeMap given resolve = .ok r := hr
  rw [Translation.makeMap_eq] at hr
  obtain ⟨p, hp, hr⟩ := exists_read?_of_make MapParameters.schema hr
  obtain ⟨hform, -⟩ := MapParameters.schema.forall_read? hp
  obtain ⟨f?, hf, rfl⟩ := map_eq_ok_iff.mp hr
  have hform := (Parameter.read?_option _).symm.trans hform
  rw [← hparam] at hform
  refine ⟨hv, ?_⟩
  obtain ⟨hmissing, rfl⟩ | ⟨f, rfl, hmirrors⟩ :=
    hresolve.form.option ((hwf.under _).under _) hform hf
  · exact hmissing
  · exact hmirrors

/-- Rules with options mirror the options that are given. -/
lemma mirrors_or : Mirrors "Or" ⟨Builtin.orParams, Builtin.makeOr⟩ := by
  intro v given resolve r hwf hv hparam hresolve hr
  have hr : Builtin.makeOr given resolve = .ok r := hr
  rw [Translation.makeOr_eq] at hr
  obtain ⟨p, hp, hr⟩ := exists_read?_of_make OrParameters.schema hr
  obtain ⟨hoptions, -⟩ := OrParameters.schema.forall_read? hp
  obtain ⟨rss, hrss, rfl⟩ := map_eq_ok_iff.mp hr
  have hoptions := (Parameter.read?_orDefault _).symm.trans hoptions
  rw [← hparam] at hoptions
  exact ⟨hv, hresolve.options _ p.options rss (((hwf.under _).under _).orIfMissing trivial)
    hoptions hrss⟩

/-- The cases of a switch are read like a dictionary of chains. -/
lemma read?_cases (v : Value) : Parameter.cases.toColumn.read? v =
    (Reading.dictionary .chainOfRules MetaForm.chain rfl rfl check_chain_ne_null).accept?
      (v.orIfMissing (.map [])) := by
  rw [Parameter.cases]
  exact Parameter.read?_orDefault v

/-- Rules with cases mirror the cases and the fallback that are given. -/
lemma mirrors_switch : Mirrors "Switch" ⟨Builtin.switchParams, Builtin.makeSwitch⟩ := by
  intro v given resolve r hwf hv hparam hresolve hr
  have hr : Builtin.makeSwitch given resolve = .ok r := hr
  rw [Translation.makeSwitch_eq] at hr
  obtain ⟨p, hp, hr⟩ := exists_read?_of_make SwitchParameters.schema hr
  obtain ⟨-, hcases, hfallback, -⟩ := SwitchParameters.schema.forall_read? hp
  obtain ⟨cases, hrcs, hr⟩ := bind_eq_ok_iff.mp hr
  obtain ⟨rs?, hrs, rfl⟩ := map_eq_ok_iff.mp hr
  have hcases := (read?_cases _).symm.trans hcases
  have hfallback := (Parameter.read?_option _).symm.trans hfallback
  rw [← hparam] at hcases hfallback
  have hparams : ∀ name, (v.param name).WellFormed := fun name => (hwf.under _).under name
  refine ⟨hv, hresolve.cases ((hparams _).orIfMissing Value.wellFormed_empty) hcases hrcs, ?_⟩
  obtain ⟨hmissing, rfl⟩ | ⟨rs, rfl, hmirrors⟩ := hresolve.chain.option (hparams _) hfallback hrs
  · exact hmissing
  · exact hmirrors

/-- **What a built-in type makes mirrors the description.** -/
theorem mirrors_of_mem [PatternEngine] : ∀ e ∈ Builtin.definitions, e.2.Mirrors e.1 := by
  simp only [Builtin.definitions, List.forall_mem_cons]
  exact ⟨mirrors_plain fun _ _ h => h, mirrors_plain fun _ _ h => h, mirrors_plain fun _ _ h => h,
    mirrors_plain fun _ _ h => h, mirrors_plain fun _ _ h => h, mirrors_plain fun _ _ h => h,
    mirrors_plain fun _ _ h => h, mirrors_plain fun _ _ h => h, mirrors_pattern,
    mirrors_plain fun _ _ h => h, mirrors_plain fun _ _ h => h, mirrors_constant fun _ h => h,
    mirrors_plain fun _ _ h => h, mirrors_plain fun _ _ h => h, mirrors_constant fun _ h => h,
    mirrors_list fun _ _ => And.intro, mirrors_list fun _ _ => And.intro, mirrors_map, mirrors_or,
    mirrors_switch, List.forall_mem_nil _⟩

end Definition

/-! ### Loading -/

namespace Registry

/-- A description is read from what it says of the type and of each parameter. -/
lemma read?_rule {v : Value} (hv : v.WellFormed) {d : RuleDescription}
    (h : Reading.rule.accept? v = some d) :
    v.under "type" = .string d.typeName ∧
      ∀ name, v.param name = (d.params.find? name).getD .null := by
  obtain ⟨entries, rfl, hread⟩ := RuleDescription.schema.acceptAs?_eq_some_iff.mp h
  obtain ⟨htype, hparams, -⟩ := RuleDescription.schema.forall_read? hread
  have htype : Reading.text.accept? ((Value.map entries).under "type") = some d.typeName :=
    (Parameter.read?_require _).symm.trans htype
  have hparams : Reading.anyMap.accept?
      (((Value.map entries).under "params").orIfMissing (.map [])) = some d.params :=
    (Parameter.read?_orDefault _).symm.trans hparams
  refine ⟨acceptAs?_text_eq_some_iff.mp htype, fun name => ?_⟩
  have hwf := (hv.under "params").orIfMissing Value.wellFormed_empty
  rw [Value.param, ← Value.under_orIfMissing]
  generalize ((Value.map entries).under "params").orIfMissing (.map []) = w at hparams hwf ⊢
  obtain ⟨x, hx, -⟩ := acceptAs?_eq_some_iff.mp hparams
  have hx : Rule.checkNested [MetaForm.anyMap] [] none w = .ok x := hx
  rw [checkNested_singleton] at hx
  obtain ⟨-, given, rfl⟩ := check_anyMap_eq_ok hx
  have hgiven : Reading.anyMap.accept? (.map given) = some given :=
    acceptAs?_anyMap (Value.wellFormed_map_iff.mp hwf).2
  obtain rfl : given = d.params := Option.some.inj (hgiven.symm.trans hparams)
  rfl

/-- **The rule that a description means mirrors it.**

**Proof sketch.** By induction on the depth up to which descriptions are resolved: the type makes a
rule that mirrors the description (`Definition.mirrors_of_mem`), as the descriptions in its
parameters are resolved up to a smaller depth. -/
theorem resolve_mirrors [PatternEngine] (n : Nat) :
    Reading.rule.Mirrored (Translation.below n) Rule.Mirrors := by
  induction n using Nat.strong_induction_on with
  | _ n ih =>
    intro v d r hv hd hr
    rw [Translation.below] at hr
    split_ifs at hr with hdepth
    obtain ⟨htype, hparam⟩ := read?_rule hv hd
    cases hfind : Registry.builtin.find? d.typeName with
    | none =>
      rw [Registry.resolve, hfind] at hr
      cases hr
    | some definition =>
      rw [Translation.resolve_eq hfind] at hr
      exact Definition.mirrors_of_mem _ (Dict.mem_of_find? hfind) v d.params _ r hv htype hparam
        (ih d.depth hdepth) hr

/-- **Loading keeps the whole description.** The form that a well-formed map loads as mirrors the
map: its fields are those described, in order and under the same names, and in the chain of each
field, in the chains, options, cases and fallbacks within the parameters of a rule and in the fields
of the form of a rule for maps, at any depth, there is a rule of the described type for every
description of a rule, in order; cases stand under the same names, sorted. So a map in which a
description of a rule, at any depth, names an unknown type does not load.

**Proof sketch.** The description of the form is read from the map and its rules mirror their
descriptions (`Registry.resolve_mirrors`), so the form does (`Reading.Mirrored.form`). Every
description of a rule in a form that is mirrored is mirrored by a rule
(`Form.Mirrors.exists_mirrors_of_describes`), which is of a built-in type. -/
theorem load_mirrors [PatternEngine] {description : Dict Value}
    (hdescription : (Value.map description).WellFormed) :
    (∀ f, Registry.builtin.load description = .ok f → f.Mirrors (.map description)) ∧
    ∀ v typeName, (Value.map description).DescribesRule v → v.under "type" = .string typeName →
      Registry.builtin.contains typeName = false →
        ∃ e, Registry.builtin.load description = .error e := by
  have hrules : Reading.rule.Mirrored Registry.builtin.resolve Rule.Mirrors := by
    intro v d r hv hd hr
    refine resolve_mirrors (d.depth + 1) v d r hv hd ?_
    rw [Translation.below, if_pos (Nat.lt_succ_self _)]
    exact hr
  have hmirrors : ∀ f, Registry.builtin.load description = .ok f →
      f.Mirrors (.map description) := by
    intro f hf
    obtain ⟨d, hd, hbuild⟩ := Registry.load_eq_ok_iff.mp hf
    exact hrules.form _ d f hdescription
      (FormDescription.schema.acceptAs?_eq_some_iff.mpr ⟨description, rfl, hd⟩) hbuild
  refine ⟨hmirrors, fun v typeName hv htype hunknown => ?_⟩
  cases hload : Registry.builtin.load description with
  | error e => exact ⟨e, rfl⟩
  | ok f =>
    obtain ⟨r, hr⟩ := (hmirrors f hload).exists_mirrors_of_describes hv
    obtain rfl : typeName = r.typeName := Value.string.inj (htype.symm.trans hr.type_eq)
    rw [hr.contains_typeName] at hunknown
    cases hunknown

/-- The form for lists of texts mirrors its description, and the description of lists of items of a
type that is not known does not load. -/
theorem tags_load_mirrors :
    Registry.builtin.load tagsDescription = .ok tagsForm ∧
      tagsForm.Mirrors (.map tagsDescription) ∧
        ∃ e, Registry.builtin.load untypedDescription = .error e := by
  have hinside : (Value.map untypedDescription).DescribesRule (.map [("type", .string "IsTag")]) :=
    ⟨.map [("type", .string "IsList"), ("params", .map [("validators", .list
        [.map [("type", .string "IsTag")]])])],
      ⟨_, List.mem_singleton_self _, List.mem_singleton_self _⟩,
      .single (.validators (Or.inl rfl) (List.mem_singleton_self _))⟩
  exact ⟨load_tags, (load_mirrors tagsDescription_wellFormed).1 tagsForm load_tags,
    (load_mirrors untypedDescription_wellFormed).2 _ "IsTag" hinside rfl rfl⟩

end Registry

end Intake
