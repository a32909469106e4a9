import Intake.Proofs.Form.Alike
import Intake.Proofs.Form.Parts
import Intake.Proofs.Schema.Passage
import Intake.Proofs.Schema.Types

set_option autoImplicit false

/-!
# Rules that are built from what comes through

A rule that is described is rebuilt if what comes through of its description means a rule that does
the same. What is made of rules is rebuilt in the same way: chains by chains, cases by cases, forms
by forms.

## Main definitions

* `Rule.Rebuilt` — rules that are rebuilt.
* `Translation.Rebuilds` — what is described, carried and built as something that is the same.

## Main results

* `Translation.Rebuilds.list` — lists are rebuilt item by item.
* `Translation.rebuilds_form` — a form is rebuilt when the rules in it are.
* `Rule.Rebuilt.of_schema` — a rule whose parameters a schema carries.
-/

namespace Intake

/-- A rule that is described has well-formed parameters, and what comes through of them means a rule
that does the same. -/
def Rule.Rebuilt [PatternEngine] (P : Passage) (r : Rule) : Prop :=
  ∀ d, r.describe .builtin = .ok d → (Value.map d.params).WellFormed ∧
    ∃ s, Registry.builtin.resolve ⟨d.typeName, P.entries d.params⟩ = .ok s ∧ s.Alike r

namespace Translation

variable {P : Passage}

/-! ### What is carried -/

/-- A description is carried to what comes through of its parameters. -/
lemma carries_rule {d : RuleDescription} (hwf : (Value.map d.params).WellFormed) :
    Reading.rule.Carries P d ⟨d.typeName, P.entries d.params⟩ := by
  have hcarries : RuleDescription.schema.Carries P d ⟨d.typeName, P.entries d.params⟩ :=
    ⟨rfl, (Reading.carries_text d.typeName).require, Parameter.carries_params hwf, trivial⟩
  exact hcarries.reading

/-- A case is carried under its name. -/
def CaseCarried (P : Passage) (c c' : String × List RuleDescription) : Prop :=
  c'.1 = c.1 ∧ Reading.chainOfRules.Carries P c.2 c'.2

/-- An example of a field is carried to what comes through of its value. -/
lemma carries_fieldExample {e : FieldExample} (hwf : e.value.WellFormed) :
    (Reading.ofSchema FieldExample.schema).Carries P e ⟨P.through e.value, e.invalid⟩ := by
  have hcarries : FieldExample.schema.Carries P e ⟨P.through e.value, e.invalid⟩ :=
    ⟨rfl, Parameter.carries_raw hwf, Parameter.carries_flag e.invalid, trivial⟩
  exact hcarries.reading

/-- An example of a form is carried to what comes through of its input. -/
lemma carries_formExample {e : FormExample} (hwf : (Value.map e.value).WellFormed) :
    (Reading.ofSchema FormExample.schema).Carries P e ⟨P.entries e.value, e.invalid⟩ := by
  have hcarries : FormExample.schema.Carries P e ⟨P.entries e.value, e.invalid⟩ :=
    ⟨rfl, (Reading.carries_anyMap hwf).require, Parameter.carries_flag e.invalid, trivial⟩
  exact hcarries.reading

/-- Examples are carried one by one. -/
lemma carries_examples {ε : Type} [Record ε] {S : Schema ε} {f : ε → ε} {es : List ε}
    (h : ∀ e ∈ es, (Reading.ofSchema S).Carries P e (f e)) :
    (Parameter.examples S).Carries P es (es.map f) := by
  refine Parameter.carries_listOrElse ?_
  rw [List.forall₂_map_right_iff, List.forall₂_same]
  exact h

/-! ### What is rebuilt -/

variable [PatternEngine] {α β : Type}

/-- Whatever something is described as is carried to a description from which something is built
that is the same. -/
def Rebuilds (T : Translation α β) (carried : β → β → Prop) (same : α → α → Prop) (a : α) : Prop :=
  ∀ b, T.describe a = .ok b → ∃ b', carried b b' ∧
    ∀ n resolve, Resolver.Agrees resolve n → T.Sound n b' →
      ∃ a', T.build resolve b' = .ok a' ∧ same a' a

section Parts

variable {T : Translation α β} {carried : β → β → Prop} {same : α → α → Prop}

/-- What is carried one way may be carried another way. -/
lemma Rebuilds.imp {carried' : β → β → Prop} {a : α} (h : T.Rebuilds carried same a)
    (hcarried : ∀ b b', carried b b' → carried' b b') : T.Rebuilds carried' same a := by
  intro b hb
  obtain ⟨b', hb', hbuilt⟩ := h b hb
  exact ⟨b', hcarried b b' hb', hbuilt⟩

/-- **Lists are rebuilt item by item.** -/
theorem Rebuilds.list {describe : List α → Except SchemaError (List β)}
    {build : Resolver → List β → Except SchemaError (List α)}
    (hdescribe : IsTraversal describe T.describe)
    (hbuild : ∀ resolve, IsTraversal (build resolve) (T.build resolve)) {as : List α}
    (h : ∀ a ∈ as, T.Rebuilds carried same a) :
    (T.list describe build).Rebuilds (List.Forall₂ carried) (List.Forall₂ same) as := by
  intro bs hbs
  have hitems : List.Forall₂ (fun a b => T.describe a = .ok b) as bs := hdescribe.eq_ok_iff.mp hbs
  clear hbs
  induction hitems with
  | nil => exact ⟨[], .nil, fun _ resolve _ _ => ⟨[], (hbuild resolve).nil, .nil⟩⟩
  | cons hb _ ih =>
    obtain ⟨ha, hrest⟩ := List.forall_mem_cons.mp h
    obtain ⟨b', hb', hfirst⟩ := ha _ hb
    obtain ⟨bs', hbs', hothers⟩ := ih hrest
    refine ⟨b' :: bs', .cons hb' hbs', fun n resolve hagrees hsound => ?_⟩
    obtain ⟨hsound, hsounds⟩ := List.forall_mem_cons.mp hsound
    obtain ⟨a', ha', hsame⟩ := hfirst n resolve hagrees hsound
    obtain ⟨as', has', hsames⟩ := hothers n resolve hagrees hsounds
    have hrest' := (hbuild resolve).eq_ok_iff.mp has'
    exact ⟨a' :: as', (hbuild resolve).eq_ok_iff.mpr (.cons ha' hrest'), .cons hsame hsames⟩

/-- What may be missing is rebuilt if it is when it is there. -/
theorem Rebuilds.option {a? : Option α} (h : ∀ a ∈ a?, T.Rebuilds carried same a) :
    T.option.Rebuilds (Option.Rel carried) (Option.Rel same) a? := by
  intro b? hdescribe
  cases a? with
  | none =>
    cases hdescribe
    exact ⟨none, .none, fun _ _ _ _ => ⟨none, rfl, .none⟩⟩
  | some a =>
    obtain ⟨b, hb, rfl⟩ := map_eq_ok_iff.mp hdescribe
    obtain ⟨b', hb', hbuilt⟩ := h a rfl b hb
    refine ⟨some b', .some hb', fun n resolve hagrees hsound => ?_⟩
    obtain ⟨a', ha', hsame⟩ := hbuilt n resolve hagrees (hsound b' rfl)
    exact ⟨some a', map_eq_ok_iff.mpr ⟨a', ha', rfl⟩, .some hsame⟩

end Parts

/-! ### Rules and chains -/

/-- A rule that is rebuilt is rebuilt by its description. -/
lemma rebuilds_rule {r : Rule} (h : r.Rebuilt P) :
    rule.Rebuilds (Reading.rule.Carries P) Rule.Alike r := by
  intro d hd
  obtain ⟨hwf, s, hs, halike⟩ := h d hd
  refine ⟨⟨d.typeName, P.entries d.params⟩, carries_rule hwf,
    fun n resolve hagrees hsound => ⟨s, ?_, halike⟩⟩
  exact (hagrees _ (rule_sound_iff.mp hsound).2).trans hs

/-- A chain is rebuilt when its rules are. -/
theorem rebuilds_chain {rs : List Rule} (h : ∀ r ∈ rs, r.Rebuilt P) :
    chain.Rebuilds (List.Forall₂ (Reading.rule.Carries P)) (List.Forall₂ Rule.Alike) rs :=
  Rebuilds.list isTraversal_describeChain isTraversal_resolveEach
    fun r hr => rebuilds_rule (h r hr)

/-- A chain inside other parameters is rebuilt when its rules are. -/
lemma rebuilds_chainOfRules {rs : List Rule} (h : ∀ r ∈ rs, r.Rebuilt P) :
    chain.Rebuilds (Reading.chainOfRules.Carries P) (List.Forall₂ Rule.Alike) rs :=
  (rebuilds_chain h).imp fun _ _ => Reading.carries_list

/-- Options are rebuilt when their rules are. -/
theorem rebuilds_options {rss : List (List Rule)} (h : ∀ rs ∈ rss, ∀ r ∈ rs, r.Rebuilt P) :
    options.Rebuilds (List.Forall₂ (Reading.chainOfRules.Carries P))
      (List.Forall₂ (List.Forall₂ Rule.Alike)) rss :=
  Rebuilds.list isTraversal_describeOptions isTraversal_resolveOptions
    fun rs hrs => rebuilds_chainOfRules (h rs hrs)

/-- Cases are rebuilt when their rules are. -/
theorem rebuilds_cases {rcs : List (String × List Rule)} (h : ∀ c ∈ rcs, ∀ r ∈ c.2, r.Rebuilt P) :
    cases.Rebuilds (List.Forall₂ (CaseCarried P)) (List.Forall₂ CaseAlike) rcs := by
  refine Rebuilds.list isTraversal_describeCases isTraversal_resolveCases fun c hc b hb => ?_
  obtain ⟨ds, hds, rfl⟩ := map_eq_ok_iff.mp hb
  obtain ⟨ds', hds', hbuilt⟩ := rebuilds_chainOfRules (h c hc) ds hds
  refine ⟨(c.1, ds'), ⟨rfl, hds'⟩, fun n resolve hagrees hsound => ?_⟩
  obtain ⟨rs', hrs', halike⟩ := hbuilt n resolve hagrees hsound
  exact ⟨(c.1, rs'), map_eq_ok_iff.mpr ⟨rs', hrs', rfl⟩, rfl, halike⟩

/-! ### Fields and forms -/

/-- A field is rebuilt when its rules are. -/
theorem rebuilds_field {f : Field} (hexamples : ∀ e ∈ f.examples, e.value.WellFormed)
    (h : ∀ r ∈ f.chain, r.Rebuilt P) :
    field.Rebuilds ((Reading.ofSchema FieldDescription.schema).Carries P) Field.Alike f := by
  intro d hd
  obtain ⟨ds, hds, rfl⟩ := map_eq_ok_iff.mp hd
  obtain ⟨ds', hds', hbuilt⟩ := rebuilds_chain h ds hds
  have hcarries : FieldDescription.schema.Carries P ⟨f.name, ds, f.examples⟩
      ⟨f.name, ds', f.examples.map fun e => ⟨P.through e.value, e.invalid⟩⟩ :=
    ⟨rfl, (Reading.carries_text f.name).require, Parameter.carries_listOrDefault hds',
      carries_examples fun e he => carries_fieldExample (hexamples e he), trivial⟩
  refine ⟨_, hcarries.reading, ?_⟩
  rintro n resolve hagrees ⟨k, hk, hsound⟩
  obtain ⟨-, ⟨hchain, -⟩, -⟩ := hsound.params
  obtain ⟨rs', hrs', halike⟩ :=
    hbuilt n resolve hagrees (Translation.chain.mono hchain (Nat.le_of_lt hk))
  exact ⟨_, map_eq_ok_iff.mpr ⟨rs', hrs', rfl⟩, rfl, halike⟩

/-- A form that is described holds no code. -/
lemma describe_form_eq_ok_iff {f : Form} {d : FormDescription} :
    f.describe .builtin = .ok d ↔ f.transforms = [] ∧ f.hook = none ∧
      ∃ ds, Field.describeAll .builtin f.fields = .ok ds ∧
        ⟨f.strict, f.sanitizeKeys, f.name, f.errorMsg, f.examples, ds⟩ = d := by
  obtain ⟨fields, strict, sanitizeKeys, errorMsg, name, examples, transforms, hook⟩ := f
  rw [Form.describe]
  split_ifs with hcode
  · simp only [Bool.or_eq_true, Bool.not_eq_true', List.isEmpty_eq_false_iff,
      Option.isSome_iff_ne_none] at hcode
    constructor
    · intro h
      cases h
    · rintro ⟨htransforms, hhook, -⟩
      rcases hcode with h | h
      · exact absurd htransforms h
      · exact absurd hhook h
  · have hcode : transforms = [] ∧ hook = none := by simpa using hcode
    rw [map_eq_ok_iff]
    exact ⟨fun h => ⟨hcode.1, hcode.2, h⟩, fun h => h.2.2⟩

/-- **A form is rebuilt when the rules in it are**, whatever becomes of its name and examples. The
empty message would come back as no message. -/
theorem rebuilds_form {f : Form} (hmsg : f.errorMsg ≠ some "")
    (hexamples : ∀ e ∈ f.examples, (Value.map e.value).WellFormed)
    (hfields : ∀ field ∈ f.fields, ∀ e ∈ field.examples, e.value.WellFormed)
    (h : ∀ r ∈ f.rules, r.Rebuilt P) :
    form.Rebuilds (FormDescription.schema.Carries P) Form.Alike f := by
  intro d hd
  obtain ⟨htransforms, hhook, ds, hds, rfl⟩ := describe_form_eq_ok_iff.mp hd
  have hall : ∀ field' ∈ f.fields, field.Rebuilds
      ((Reading.ofSchema FieldDescription.schema).Carries P) Field.Alike field' := fun field' hf =>
    rebuilds_field (hfields field' hf) fun r hr => h r (List.mem_flatMap_of_mem hf hr)
  obtain ⟨ds', hds', hbuilt⟩ :=
    Rebuilds.list isTraversal_describeAll isTraversal_buildFields hall ds hds
  obtain ⟨name', hname, -⟩ := Parameter.exists_carries_label f.name
  obtain ⟨msg', hmsg', hsame⟩ := Parameter.exists_carries_label f.errorMsg
  obtain rfl : msg' = f.errorMsg := hsame hmsg
  have hlist : (Reading.list (.ofSchema FieldDescription.schema) rfl).Carries P ds ds' :=
    Reading.carries_list hds'
  have hcarries : FormDescription.schema.Carries P
      ⟨f.strict, f.sanitizeKeys, f.name, f.errorMsg, f.examples, ds⟩
      ⟨f.strict, f.sanitizeKeys, name', f.errorMsg,
        f.examples.map fun e => ⟨P.entries e.value, e.invalid⟩, ds'⟩ :=
    ⟨rfl, Parameter.carries_flag f.strict, Parameter.carries_flag f.sanitizeKeys, hname, hmsg',
      carries_examples fun e he => carries_formExample (hexamples e he),
      hlist.require, trivial⟩
  refine ⟨_, hcarries, ?_⟩
  rintro n resolve hagrees ⟨k, hk, hsound⟩
  obtain ⟨-, -, -, -, -, hfields, -⟩ := hsound.params
  obtain ⟨fs', hfs', halike⟩ :=
    hbuilt n resolve hagrees (Translation.fields.mono hfields (Nat.le_of_lt hk))
  exact ⟨_, map_eq_ok_iff.mpr ⟨fs', hfs', rfl⟩,
    Form.alike_of_fields halike rfl rfl rfl htransforms.symm hhook.symm⟩

end Translation

/-! ### Rules by their parameters -/

namespace Rule

open Translation

variable [PatternEngine] {P : Passage} {α : Type} [Record α]

/-- **A rule is rebuilt if the parameters that it is described by are carried to parameters that
make a rule that does the same.**

**Proof sketch.** The parameters are written into a well-formed map, and from what comes through the
schema reads the others. These nest less deep than the map, so the definition gets to resolve all
that lies in them. -/
theorem Rebuilt.of_schema (S : Schema α) {typeName : String} {definition : Definition}
    {build : Resolver → α → Except SchemaError Rule} {r : Rule}
    (hfind : Registry.builtin.find? typeName = some definition)
    (hmake : ∀ given resolve, definition.make given resolve =
      (readParameters typeName S.form given).bind (build resolve))
    (hdescribe : ∀ d, r.describe .builtin = .ok d → ∃ a a', S.Carries P a a' ∧
      (writeParameters a).map (RuleDescription.mk typeName) = .ok d ∧
        ∀ n resolve, Resolver.Agrees resolve n → S.Sound n a' →
          ∃ s, build resolve a' = .ok s ∧ s.Alike r) : r.Rebuilt P := by
  intro d hd
  obtain ⟨a, a', hcarries, hwritten, hbuilt⟩ := hdescribe d hd
  obtain ⟨params, hparams, hwf, hread⟩ := hcarries.exists_writeParameters
  rw [hparams] at hwritten
  obtain rfl : ⟨typeName, params⟩ = d := Except.ok.inj hwritten
  have hthrough : (Value.map (P.entries params)).WellFormed := P.map params ▸ P.wellFormed hwf
  have hsound := S.sound_of_read? hthrough (Nat.le_refl _) hread
  obtain ⟨s, hs, halike⟩ := hbuilt _ _ (agrees_below _) hsound
  have hresolve : Registry.builtin.resolve ⟨typeName, P.entries params⟩ = .ok s :=
    (resolve_eq_ok_iff S hfind hmake).mpr ⟨a', hread, hs⟩
  exact ⟨hwf, s, hresolve, halike⟩

/-- A rule is rebuilt if it is its own parameters and these are carried to those of a rule that does
the same. -/
theorem Rebuilt.plain (S : Schema α) {typeName : String} {toRule : α → Rule} {r : Rule} {a a' : α}
    (hfind : Registry.builtin.find? typeName =
      some (Builtin.plainDefinition typeName S.form toRule))
    (hdescribe : r.describe .builtin = (writeParameters a).map (RuleDescription.mk typeName))
    (h : S.Carries P a a') (halike : (toRule a').Alike r) : r.Rebuilt P := by
  refine .of_schema S hfind (plainDefinition_make_eq typeName S.form toRule) fun d hd => ?_
  exact ⟨a, a', h, hdescribe ▸ hd, fun _ _ _ _ => ⟨toRule a', rfl, halike⟩⟩

/-- A rule without parameters is rebuilt. -/
theorem Rebuilt.constant {typeName : String} {r : Rule}
    (hfind : Registry.builtin.find? typeName = some (Builtin.constantDefinition r))
    (hdescribe : r.describe .builtin = .ok ⟨typeName, []⟩) : r.Rebuilt P := by
  intro d hd
  obtain rfl : ⟨typeName, []⟩ = d := Except.ok.inj (hdescribe.symm.trans hd)
  exact ⟨⟨List.nodup_nil, trivial⟩, r, resolve_eq (d := ⟨typeName, []⟩) hfind, .refl r⟩

end Rule

end Intake
