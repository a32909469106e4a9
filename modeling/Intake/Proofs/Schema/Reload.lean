import Intake.Pattern.Standard
import Intake.Proofs.Schema.Types
import Intake.Schema.Example

set_option autoImplicit false

/-!
# Loading, describing and loading again

A form that was loaded is described, its description is written as a map, and the map loads as the
same form, whatever engine compiles the patterns in it.

## Main results

* `Translation.lawful_rule` — a rule that a well-formed description means is described, and its
  description means the rule.
* `FormDescription.parse_toValue_of_parse` — a description that was parsed is written as a map that
  parses as the same description.
* `Registry.load_describe` — a form that was loaded is described, and its description loads as the
  same form.
* `Registry.load_describe_load` — what loads again behaves the same.

## Design

The descriptions that lie in the parameters of a description nest less deep, and so do those that
the rule is described with. The induction is on that depth (`Translation.gives_rule`): a type whose
parameters a schema reads builds its rule from descriptions up to the depth of the parameters, for
which the registry is lawful already.
-/

namespace Intake

namespace Translation

variable [PatternEngine]

/-! ### The registry -/

/-- Every built-in type is lawful. -/
lemma lawfulType_of_mem : ∀ e ∈ Builtin.definitions, LawfulType e.1 := by
  simp only [Builtin.definitions, List.forall_mem_cons]
  exact ⟨lawful_text, lawful_integer, lawful_float, lawful_boolean, lawful_bytes, lawful_hex,
    lawful_uuid, lawful_time, lawful_pattern, lawful_oneOf, lawful_noneOf, lawful_required,
    lawful_optional, lawful_nil, lawful_anything, .list rfl fun _ => rfl, .list rfl fun _ => rfl,
    lawful_map, lawful_or, lawful_switch, List.forall_mem_nil _⟩

/-- **A rule that a well-formed description means is described, and its description means the
rule.**

**Proof sketch.** Each built-in type is lawful once the registry is lawful for what nests less
deep. -/
theorem lawful_rule (n : Nat) : rule.Lawful n := gives_rule lawfulType_of_mem n

end Translation

/-! ### Forms -/

/-- A map describes a form when the schema of forms reads it. -/
lemma FormDescription.parse_eq_ok_iff {description : Dict Value} {d : FormDescription} :
    FormDescription.parse description = .ok d ↔
      FormDescription.schema.read? description = some d := by
  rw [FormDescription.schema.read?_eq_some_iff, FormDescription.parse]
  have hform : FormDescription.schema.form = MetaForm.form := rfl
  rw [hform]
  cases MetaForm.form.validate description with
  | error e => simp
  | ok checked =>
    simp [mapError_eq_ok_iff]

/-- A sound description is written as a well-formed map, which is read as the same description. -/
lemma FormDescription.exists_toValue {n : Nat} {d : FormDescription}
    (hsound : FormDescription.schema.Sound n d) :
    ∃ m, d.toValue = .ok (.map m) ∧ (Value.map m).WellFormed ∧
      FormDescription.schema.read? m = some d := by
  obtain ⟨record, m, hvalue, hrestore, hwf, hread⟩ :=
    FormDescription.schema.exists_restored hsound
  refine ⟨m, ?_, hwf, hread⟩
  rw [FormDescription.toValue, Record.restore, Record.toValue, hvalue]
  exact congrArg Except.ok hrestore

/-- **Parsing is a fixpoint of writing.** A description that was parsed from a well-formed map is
written as a well-formed map, and that map parses as the same description: the same fields in the
same order, with the same rules, parameters, examples, flags, name and error message.

**Proof sketch.** What the schema of forms reads is sound, and what is sound is written so that the
schema reads it again, whatever became of members that were missing, blank or left at their
defaults. -/
theorem FormDescription.parse_toValue_of_parse {description : Dict Value}
    (hdescription : (Value.map description).WellFormed) {d : FormDescription}
    (h : FormDescription.parse description = .ok d) :
    ∃ m, d.toValue = .ok (.map m) ∧ (Value.map m).WellFormed ∧
      FormDescription.parse m = .ok d := by
  have hread := FormDescription.parse_eq_ok_iff.mp h
  have hsound := FormDescription.schema.sound_of_read? hdescription (Nat.le_refl _) hread
  obtain ⟨m, hvalue, hwf, hagain⟩ := FormDescription.exists_toValue hsound
  exact ⟨m, hvalue, hwf, FormDescription.parse_eq_ok_iff.mpr hagain⟩

/-- A map loads as a form when the schema of forms reads it and the form is built. -/
lemma Registry.load_eq_ok_iff [PatternEngine] {description : Dict Value} {f : Form} :
    Registry.builtin.load description = .ok f ↔
      ∃ d, FormDescription.schema.read? description = some d ∧
        d.build Registry.builtin.resolve = .ok f := by
  simp only [← FormDescription.parse_eq_ok_iff]
  rw [Registry.load]
  cases FormDescription.parse description <;> simp

/-- **A form that was loaded is described, its description is written as a well-formed map, and the
map loads as the same form.** -/
theorem Registry.load_describe [PatternEngine] {description : Dict Value}
    (hdescription : (Value.map description).WellFormed) {f : Form}
    (h : Registry.builtin.load description = .ok f) :
    ∃ d m, f.describe .builtin = .ok d ∧ d.toValue = .ok (.map m) ∧
      (Value.map m).WellFormed ∧ Registry.builtin.load m = .ok f := by
  obtain ⟨d, hd, hf⟩ := Registry.load_eq_ok_iff.mp h
  have hsound := FormDescription.schema.sound_of_read? hdescription (Nat.le_refl _) hd
  have hlawful := (Translation.lawful_rule (Value.depthOfEntries description + 1)).form
  obtain ⟨d', hd', ⟨n, k, -, hk⟩, hagain⟩ := hlawful Registry.builtin.resolve d f
    (fun _ _ => rfl) ⟨_, Nat.lt_succ_self _, hsound⟩ hf
  obtain ⟨m, hvalue, hwf, hread⟩ := FormDescription.exists_toValue hk
  refine ⟨d', m, hd', hvalue, hwf, Registry.load_eq_ok_iff.mpr ⟨d', hread, ?_⟩⟩
  exact hagain (k + 1) _ (fun _ _ => rfl) ⟨k, Nat.lt_succ_self k, hk⟩

/-- **Loading, describing and loading again keeps the behaviour of every form.** A form that loads
from a well-formed map has a description, the description is a map that loads too, and the form that
it loads as gives the same result for every input, in both modes and in every context, and reports
the same failures of examples.

**Proof sketch.** What loads again is the form itself, by `Registry.load_describe`. -/
theorem Registry.load_describe_load [PatternEngine] {description : Dict Value}
    (hdescription : (Value.map description).WellFormed) {f : Form}
    (h : Registry.builtin.load description = .ok f) :
    ∃ d m g, f.describe .builtin = .ok d ∧ d.toValue = .ok (.map m) ∧
      Registry.builtin.load m = .ok g ∧
        (∀ mode input context, g.run mode input context = f.run mode input context) ∧
          g.checkExamples = f.checkExamples := by
  obtain ⟨d, m, hd, hm, -, hf⟩ := Registry.load_describe hdescription h
  exact ⟨d, m, f, hd, hm, hf, fun _ _ _ => rfl, rfl⟩

section Tags

/-- Parameters of a rule for lists of texts that are not empty. -/
def textsParams : Dict Value :=
  [("validators", .list [.map [("type", .string "IsString"),
    ("params", .map [("minLength", .int 1)])]])]

/-- A description of a form for required lists of texts. -/
def tagsDescription : Dict Value :=
  [("fields", .list [.map [("name", .string "tags"), ("validators", .list
    [.map [("type", .string "IsRequired")],
      .map [("type", .string "IsStringList"), ("params", .map textsParams)]])]])]

/-- The description as a record. -/
def tagsParsed : FormDescription :=
  ⟨false, false, none, none, [],
    [⟨"tags", [⟨"IsRequired", []⟩, ⟨"IsStringList", textsParams⟩], []⟩]⟩

/-- The form that it describes. -/
def tagsForm : Form := .new [.new "tags" [.required, .textList [.text ⟨some 1, none⟩]]]

/-- The description repeats no key. -/
lemma tagsDescription_wellFormed : (Value.map tagsDescription).WellFormed := by decide

/-- The rule for lists of texts is resolved through the rule for text. -/
lemma resolve_texts [PatternEngine] : Registry.builtin.resolve ⟨"IsStringList", textsParams⟩ =
    .ok (.textList [.text ⟨some 1, none⟩]) := by
  have htext : Registry.builtin.resolve ⟨"IsString", [("minLength", .int 1)]⟩ =
      .ok (.text ⟨some 1, none⟩) :=
    Translation.resolve_eq (d := ⟨"IsString", [("minLength", .int 1)]⟩) rfl
  have hmake : ∀ resolve, Builtin.makeList "IsStringList" Rule.textList textsParams resolve =
      (resolveEach resolve [⟨"IsString", [("minLength", .int 1)]⟩]).map Rule.textList :=
    fun _ => rfl
  rw [Translation.resolve_eq (d := ⟨"IsStringList", textsParams⟩) rfl]
  refine (hmake _).trans ?_
  rw [resolveEach, Translation.below, if_pos (by decide), htext]
  rfl

/-- The description parses as the record. -/
lemma parse_tags : FormDescription.parse tagsDescription = .ok tagsParsed := rfl

/-- A description of a rule inside another rule is written as a map that parses as the same
description. -/
theorem FormDescription.tags_parse_toValue_of_parse :
    FormDescription.parse tagsDescription = .ok tagsParsed ∧
      ∃ m, tagsParsed.toValue = .ok (.map m) ∧ (Value.map m).WellFormed ∧
        FormDescription.parse m = .ok tagsParsed :=
  ⟨parse_tags, FormDescription.parse_toValue_of_parse tagsDescription_wellFormed parse_tags⟩

/-- The description loads as the form. -/
lemma load_tags [PatternEngine] : Registry.builtin.load tagsDescription = .ok tagsForm := by
  have hrequired : Registry.builtin.resolve ⟨"IsRequired", []⟩ = .ok .required :=
    Translation.resolve_eq (d := ⟨"IsRequired", []⟩) rfl
  rw [Registry.load, parse_tags]
  simp only [tagsParsed, FormDescription.build, buildFields, resolveEach, hrequired, resolve_texts]
  rfl

/-- A form with a rule inside another rule loads, is described and loads again. -/
theorem Registry.tags_load_describe_load :
    ∃ f, Registry.builtin.load tagsDescription = .ok f ∧
      ∃ d m g, f.describe .builtin = .ok d ∧ d.toValue = .ok (.map m) ∧
        Registry.builtin.load m = .ok g ∧
          (∀ mode input context, g.run mode input context = f.run mode input context) ∧
            g.checkExamples = f.checkExamples :=
  ⟨tagsForm, load_tags, Registry.load_describe_load tagsDescription_wellFormed load_tags⟩

end Tags

end Intake
