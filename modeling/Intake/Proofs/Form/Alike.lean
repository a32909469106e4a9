import Intake.Proofs.Value.Dict
import Intake.Form.Run

set_option autoImplicit false

/-!
# Rules and forms that do the same

A rule sees the rules that it holds only through what these do. So rules and forms do the same as
others if the rules that they hold do, one by one, whatever else differs in what they are made of.

## Main definitions

* `Rule.Alike`, `Field.Alike`, `Form.Alike` — rules, fields and forms that do the same.

## Main results

* `Rule.Alike.list`, `Rule.Alike.map`, `Rule.Alike.or`, … — rules that hold alike rules.
* `Rule.Alike.switch_perm` — the order of the cases of a switch says nothing.
* `Form.alike_of_fields` — forms of alike fields.
-/

namespace Intake

/-- Two rules give the same for every value, beside any values and in any context. -/
def Rule.Alike (r s : Rule) : Prop := r.check = s.check

/-- Two fields have one name, and their rules do the same one by one. -/
def Field.Alike (f g : Field) : Prop := f.name = g.name ∧ List.Forall₂ Rule.Alike f.chain g.chain

/-- Two forms give the same for every input, in both modes and in any context. -/
def Form.Alike (f g : Form) : Prop := f.run = g.run

/-- Cases under one name whose rules do the same one by one. -/
def CaseAlike (c d : String × List Rule) : Prop :=
  c.1 = d.1 ∧ List.Forall₂ Rule.Alike c.2 d.2

namespace Rule

/-- Every rule does what it does. -/
lemma Alike.refl (r : Rule) : r.Alike r := Eq.refl _

/-- Rules that do what a third one does. -/
lemma Alike.trans {r s t : Rule} (h : r.Alike s) (h' : s.Alike t) : r.Alike t := Eq.trans h h'

section Chains

variable {chain other : List Rule} (h : List.Forall₂ Rule.Alike chain other)

include h

/-- Chains of alike rules are empty alike. -/
lemma isEmpty_of_alike : chain.isEmpty = other.isEmpty := by
  cases h <;> rfl

/-- Chains of alike rules do the same inside another rule. -/
lemma checkNested_of_alike : Rule.checkNested chain = Rule.checkNested other := by
  induction h with
  | nil => rfl
  | cons hr _ ih =>
    funext values context v
    simp only [Rule.checkNested, ih]
    rw [hr]

/-- Chains of alike rules do the same on texts. -/
lemma checkAllTexts_of_alike : Rule.checkAllTexts chain = Rule.checkAllTexts other := by
  induction h with
  | nil => rfl
  | cons hr _ ih =>
    funext values context texts
    simp only [Rule.checkAllTexts, ih]
    rw [hr]

/-- Chains of alike rules do the same in a field. -/
lemma runSteps_of_alike : Rule.runSteps chain = Rule.runSteps other := by
  induction h with
  | nil => rfl
  | cons hr _ ih =>
    funext mode key context p v
    simp only [Rule.runSteps, ih]
    rw [hr]

end Chains

/-- Options of alike rules do the same. -/
lemma firstOption_of_alike {options others : List (List Rule)}
    (h : List.Forall₂ (List.Forall₂ Rule.Alike) options others) :
    Rule.firstOption options = Rule.firstOption others := by
  induction h with
  | nil => rfl
  | cons hchain _ ih =>
    funext values context v
    simp only [Rule.firstOption, checkNested_of_alike hchain, ih]

/-- Cases of alike rules do the same. -/
lemma checkCase_of_alike {cases others : List (String × List Rule)}
    (h : List.Forall₂ CaseAlike cases others) : Rule.checkCase cases = Rule.checkCase others := by
  induction h with
  | nil => rfl
  | @cons c d _ _ hcase _ ih =>
    obtain ⟨name, chain⟩ := c
    obtain ⟨rfl, hchain⟩ := hcase
    funext selected values context v
    simp only [Rule.checkCase, checkNested_of_alike hchain, ih]

/-- The case selected is the one under its name. -/
lemma checkCase_eq (cases : Dict (List Rule)) (selected : Option String) (values : Dict Value)
    (context : Option (Dict Value)) (v : Value) :
    Rule.checkCase cases selected values context v =
      (selected.bind cases.find?).map fun chain => Rule.checkNested chain values context v := by
  induction cases with
  | nil => cases selected <;> rfl
  | cons c rest ih =>
    obtain ⟨name, chain⟩ := c
    rw [Rule.checkCase, ih]
    cases selected with
    | none => rfl
    | some s =>
      by_cases hs : s = name
      · simp [Dict.find?, hs]
      · simp [Dict.find?, hs, Ne.symm hs]

/-- Cases under distinct names do the same in any order. -/
lemma checkCase_of_perm {cases others : Dict (List Rule)} (hcases : cases.Distinct)
    (h : cases.Perm others) : Rule.checkCase cases = Rule.checkCase others := by
  have hfind : cases.find? = others.find? := by
    funext key
    have hothers : others.Distinct := (h.map Prod.fst).nodup_iff.mp hcases
    cases hkey : cases.find? key with
    | none =>
      have hkeys : key ∉ others.keys := fun hmem =>
        Dict.find?_eq_none_iff.mp hkey ((h.map Prod.fst).mem_iff.mpr hmem)
      exact (Dict.find?_eq_none_iff.mpr hkeys).symm
    | some chain =>
      exact (Dict.find?_of_mem hothers (h.mem_iff.mp (Dict.mem_of_find? hkey))).symm
  funext selected values context v
  rw [checkCase_eq, checkCase_eq, hfind]

/-- Fallbacks of alike rules do the same. -/
lemma checkFallback_of_alike {fallback other : Option (List Rule)}
    (h : Option.Rel (List.Forall₂ Rule.Alike) fallback other) :
    Rule.checkFallback fallback = Rule.checkFallback other := by
  cases h with
  | none => rfl
  | some hchain =>
    funext values context v
    simp only [Rule.checkFallback, checkNested_of_alike hchain]

/-! ### Rules that hold rules -/

namespace Alike

/-- Rules for lists whose items pass alike chains. -/
lemma list {chain other : List Rule} (h : List.Forall₂ Rule.Alike chain other) :
    (Rule.list chain).Alike (.list other) := by
  funext values context v
  simp only [Rule.check, checkNested_of_alike h, isEmpty_of_alike h]

/-- Rules for lists of texts that pass alike chains. -/
lemma textList {chain other : List Rule} (h : List.Forall₂ Rule.Alike chain other) :
    (Rule.textList chain).Alike (.textList other) := by
  funext values context v
  simp only [Rule.check, checkAllTexts_of_alike h]

/-- Rules for maps that pass alike forms. -/
lemma map {form other : Option Form} (h : Option.Rel Form.Alike form other)
    (shape : Option Shape) : (Rule.map form shape).Alike (.map other shape) := by
  have hinner : Rule.runInner form = Rule.runInner other := by
    cases h with
    | none => rfl
    | some hform =>
      funext context entries
      simp only [Rule.runInner]
      rw [hform]
  funext values context v
  simp only [Rule.check, hinner]

/-- Rules with options that are alike. -/
lemma or {options others : List (List Rule)}
    (h : List.Forall₂ (List.Forall₂ Rule.Alike) options others) :
    (Rule.or options).Alike (.or others) := by
  funext values context v
  simp only [Rule.check, firstOption_of_alike h]

section Switch

variable {cases others : List (String × List Rule)}

/-- Rules with cases and a fallback that are alike. -/
lemma switch (key : String) (exhaustive : Bool) (hcases : List.Forall₂ CaseAlike cases others)
    {fallback other : Option (List Rule)}
    (hfallback : Option.Rel (List.Forall₂ Rule.Alike) fallback other) :
    (Rule.switch key cases fallback exhaustive).Alike (.switch key others other exhaustive) := by
  funext values context v
  simp only [Rule.check, checkCase_of_alike hcases, checkFallback_of_alike hfallback]

/-- **The order of the cases of a switch says nothing**, as no two of them have one name. -/
theorem switch_perm (key : String) (exhaustive : Bool) (hothers : Dict.Distinct others)
    {ordered : List (String × List Rule)} (hperm : ordered.Perm cases)
    (hcases : List.Forall₂ CaseAlike cases others) {fallback other : Option (List Rule)}
    (hfallback : Option.Rel (List.Forall₂ Rule.Alike) fallback other) :
    (Rule.switch key ordered fallback exhaustive).Alike (.switch key others other exhaustive) := by
  have hkeys : Dict.keys cases = Dict.keys others :=
    (Dict.keys_eq_of_forall₂ (fun _ _ hc => hc.1.symm) hcases).symm
  have hnames : Dict.Distinct cases := by
    rw [Dict.Distinct, hkeys]
    exact hothers
  have hdistinct : Dict.Distinct ordered := (hperm.map Prod.fst).nodup_iff.mpr hnames
  have hordered : (Rule.switch key ordered fallback exhaustive).Alike
      (.switch key cases fallback exhaustive) := by
    funext values context v
    simp only [Rule.check, checkCase_of_perm hdistinct hperm]
  exact hordered.trans (switch key exhaustive hcases hfallback)

end Switch

end Alike

end Rule

/-! ### Forms -/

/-- Fields that are alike do the same. -/
lemma Field.runAll_of_alike {fields others : List Field}
    (h : List.Forall₂ Field.Alike fields others) : Field.runAll fields = Field.runAll others := by
  induction h with
  | nil => rfl
  | @cons f g _ _ hfield _ ih =>
    obtain ⟨name, chain, examples⟩ := f
    obtain ⟨other, otherChain, otherExamples⟩ := g
    obtain ⟨hname, hchain⟩ := hfield
    obtain rfl : name = other := hname
    have hchain : List.Forall₂ Rule.Alike chain otherChain := hchain
    funext mode context input p
    simp only [Field.runAll, ih, Rule.isEmpty_of_alike hchain, Rule.runSteps_of_alike hchain]

/-- Fields that are alike have the same names. -/
lemma Field.map_name_of_alike {fields others : List Field}
    (h : List.Forall₂ Field.Alike fields others) :
    fields.map Field.name = others.map Field.name := by
  induction h with
  | nil => rfl
  | cons hfield _ ih => rw [List.map_cons, List.map_cons, hfield.1, ih]

/-- **Forms of alike fields do the same**, with the same flags, message and code. Their names and
examples say nothing. -/
theorem Form.alike_of_fields {f g : Form} (hfields : List.Forall₂ Field.Alike f.fields g.fields)
    (hstrict : f.strict = g.strict) (hsanitize : f.sanitizeKeys = g.sanitizeKeys)
    (hmsg : f.errorMsg = g.errorMsg) (htransforms : f.transforms = g.transforms)
    (hhook : f.hook = g.hook) : f.Alike g := by
  obtain ⟨fields, strict, sanitizeKeys, errorMsg, name, examples, transforms, hook⟩ := f
  obtain ⟨others, _, _, _, name', examples', _, _⟩ := g
  subst hstrict hsanitize hmsg htransforms hhook
  have hnames : fields.map Field.name = others.map Field.name := Field.map_name_of_alike hfields
  have hrun : Field.runAll fields = Field.runAll others := Field.runAll_of_alike hfields
  funext mode input context
  simp only [Form.run, hrun, hnames]

end Intake
