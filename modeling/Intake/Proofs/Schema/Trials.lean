import Intake.Proofs.Enumeration
import Intake.Proofs.Form.Parts
import Intake.Schema.Example

set_option autoImplicit false

/-!
# The examples of a form

An example lies at a spot: it belongs to the form itself, to one of its fields, or to a form inside
a rule, which is reached through the rules that hold others. Checking examples goes through all
spots, each once, and reports those whose examples turn out other than declared.

## Main definitions

* `Rule.form?` — the form at the end of a path through the rules inside a rule.
* `Form.Spot` — where an example lies in a form.
* `Trial` — an example that has been run; `Form.trial?` — what becomes of the example at a spot.

## Main results

* `Form.checkExamples_reports_surprises` — the failures of a form, spot by spot.

## Design

Spots are told apart by the numbers of fields, rules, options and cases on the way, since the places
that failures name do not tell them apart: all forms inside one field share the place of the field.
-/

namespace Intake

/-! ### Spots -/

/-- The way from a rule to one that it holds. -/
inductive Rule.Branch where
  /-- A rule for the items of a list. -/
  | item (rule : ℕ)
  | option (option rule : ℕ)
  | case (case rule : ℕ)
  | fallback (rule : ℕ)
  deriving DecidableEq, Repr

/-- The rule that a rule holds at a branch. -/
def Rule.branch? : Rule → Rule.Branch → Option Rule
  | .list chain, .item i => chain[i]?
  | .textList chain, .item i => chain[i]?
  | .or options, .option i j => options[i]?.bind fun chain => chain[j]?
  | .switch _ cases _ _, .case i j => cases[i]?.bind fun c => c.2[j]?
  | .switch _ _ fallback _, .fallback j => fallback.bind fun chain => chain[j]?
  | _, _ => none

/-- The form at the end of a path through the rules inside a rule. -/
def Rule.form? : Rule → List Rule.Branch → Option Form
  | .map form _, [] => form
  | _, [] => none
  | r, b :: path => (r.branch? b).bind fun s => s.form? path

/-- Where an example lies in a form. -/
inductive Form.Spot where
  /-- Among the examples of the form itself. -/
  | own (i : ℕ)
  /-- Among the examples of a field. -/
  | ofField (field i : ℕ)
  /-- In the form at the end of a path from a rule of a field. -/
  | inner (field rule : ℕ) (path : List Rule.Branch) (spot : Form.Spot)
  deriving DecidableEq, Repr

/-- An example that has been run: where it stands, whether it was declared invalid, and the text of
its failure if it has failed. -/
structure Trial where
  location : String
  invalid : Bool
  failure : Option String
  deriving DecidableEq, Repr

/-- An example of a form at a place is validated by the form. -/
def FormExample.trial (e : FormExample) (form : Form) (location : String) (i : ℕ) : Trial :=
  ⟨exampleLocation location i, e.invalid, failureText? FormError.display (form.validate e.value)⟩

/-- An example of a field at a place runs through the chain of the field while no values are
stored. -/
def FieldExample.trial (e : FieldExample) (chain : List Rule) (location : String) (i : ℕ) : Trial :=
  ⟨exampleLocation location i, e.invalid,
    failureText? Rejection.display (runChain chain [] none e.value)⟩

/-- The place of a field of a form at a place, which is also that of the forms inside the field. -/
def Field.place (f : Field) (location : String) : String := location ++ ".fields." ++ f.name

/-- What becomes of the example at a spot of a form at a place, if there is one. -/
def Form.trial? (form : Form) (location : String) : Form.Spot → Option Trial
  | .own i => form.examples[i]?.map fun e => e.trial form location i
  | .ofField j i => form.fields[j]?.bind fun f =>
    f.examples[i]?.map fun e => e.trial f.chain (f.place location) i
  | .inner j k path spot => form.fields[j]?.bind fun f => f.chain[k]?.bind fun r =>
    (r.form? path).bind fun inner => inner.trial? (f.place location) spot

namespace Trial

/-- An example turned out other than declared. -/
def IsSurprise (t : Trial) : Prop := t.failure.isSome ≠ t.invalid

/-- The report of an example that turned out other than declared. -/
def report? (t : Trial) : Option ExampleFailure :=
  match t.invalid, t.failure with
  | false, some error => some ⟨t.location, true, some error⟩
  | true, none => some ⟨t.location, false, none⟩
  | _, _ => none

/-- Examples are judged by what is reported of them. -/
lemma judge_eq (t : Trial) : judge t.location t.invalid t.failure = t.report?.toList := by
  obtain ⟨location, invalid, failure⟩ := t
  cases invalid <;> cases failure <;> rfl

/-- Surprises are reported, and nothing else is. -/
lemma isSome_report?_iff (t : Trial) : t.report?.isSome ↔ t.IsSurprise := by
  obtain ⟨location, invalid, failure⟩ := t
  cases invalid <;> cases failure <;> simp [report?, IsSurprise]

/-- What the report of an example says. -/
lemma report?_eq_some {t : Trial} {entry : ExampleFailure} (h : t.report? = some entry) :
    entry.location = t.location ∧ entry.expectedValid = !t.invalid ∧
      entry.error = (if t.invalid then none else t.failure) ∧
      (entry.error.isSome ↔ t.invalid = false) := by
  obtain ⟨location, invalid, failure⟩ := t
  cases invalid <;> cases failure <;> simp_all [report?] <;> simp [← h]

end Trial

/-! ### Reports -/

/-- What is reported of the example at a spot of a form. -/
def Form.report? (form : Form) (location : String) (spot : Form.Spot) : Option ExampleFailure :=
  (form.trial? location spot).bind Trial.report?

/-- What is reported of the example at a spot of a form inside a rule. -/
def Rule.report? (r : Rule) (location : String) (spot : List Rule.Branch × Form.Spot) :
    Option ExampleFailure :=
  (r.form? spot.1).bind fun form => form.report? location spot.2

/-- What is reported of the example at a spot of a form inside a chain. -/
def Rule.chainReport? (chain : List Rule) (location : String)
    (spot : ℕ × List Rule.Branch × Form.Spot) : Option ExampleFailure :=
  chain[spot.1]?.bind fun r => r.report? location spot.2

/-- The failures of a rule are what is reported of the examples inside it. -/
def Rule.ReportsAll (r : Rule) : Prop :=
  ∀ location, Enumerates (r.report? location) (r.exampleFailures location)

/-- The examples of a form are judged one after another. -/
lemma judgeFormExamples_eq (location : String) (form : Form) (n : ℕ) (examples : List FormExample) :
    judgeFormExamples location form n examples =
      (examples.zipIdx n).flatMap fun p => (p.1.trial form location p.2).report?.toList := by
  induction examples generalizing n with
  | nil => rfl
  | cons e rest ih =>
    rw [judgeFormExamples, ih, List.zipIdx_cons, List.flatMap_cons, ← Trial.judge_eq]
    rfl

/-- The examples of a field are judged one after another. -/
lemma judgeFieldExamples_eq (location : String) (chain : List Rule) (n : ℕ)
    (examples : List FieldExample) :
    judgeFieldExamples location chain n examples =
      (examples.zipIdx n).flatMap fun p => (p.1.trial chain location p.2).report?.toList := by
  induction examples generalizing n with
  | nil => rfl
  | cons e rest ih =>
    rw [judgeFieldExamples, ih, List.zipIdx_cons, List.flatMap_cons, ← Trial.judge_eq]
    rfl

/-- The failures of a chain are those of its rules. -/
lemma Rule.chainFailures_eq (location : String) (chain : List Rule) :
    Rule.chainFailures location chain = chain.flatMap fun r => r.exampleFailures location := by
  induction chain with
  | nil => rfl
  | cons r rest ih => rw [Rule.chainFailures, ih, List.flatMap_cons]

/-- The failures of options are those of their chains. -/
lemma Rule.optionFailures_eq (location : String) (options : List (List Rule)) :
    Rule.optionFailures location options = options.flatMap (Rule.chainFailures location) := by
  induction options with
  | nil => rfl
  | cons chain rest ih => rw [Rule.optionFailures, ih, List.flatMap_cons]

/-- The failures of cases are those of their chains. -/
lemma Rule.caseFailures_eq (location : String) (cases : List (String × List Rule)) :
    Rule.caseFailures location cases =
      cases.flatMap fun c => Rule.chainFailures location c.2 := by
  induction cases with
  | nil => rfl
  | cons c rest ih => rw [Rule.caseFailures, ih, List.flatMap_cons]

/-- The failures of fields are those of each. -/
lemma Field.exampleFailures_eq (location : String) (fields : List Field) :
    Field.exampleFailures location fields = fields.flatMap fun f =>
      judgeFieldExamples (f.place location) f.chain 0 f.examples ++
        Rule.chainFailures (f.place location) f.chain := by
  induction fields with
  | nil => rfl
  | cons f rest ih =>
    obtain ⟨name, chain, examples⟩ := f
    rw [Field.exampleFailures, ih, List.flatMap_cons]
    rfl

/-- The failures of a form are those of its own examples and of its fields. -/
lemma Form.exampleFailures_eq (form : Form) (location : String) :
    form.exampleFailures location = judgeFormExamples location form 0 form.examples ++
      Field.exampleFailures location form.fields := by
  cases form
  rfl

/-- Chains report what their rules do. -/
lemma Rule.enumerates_chainFailures {chain : List Rule} (h : ∀ r ∈ chain, r.ReportsAll)
    (location : String) :
    Enumerates (Rule.chainReport? chain location) (Rule.chainFailures location chain) := by
  rw [Rule.chainFailures_eq]
  exact Enumerates.flatMap chain fun r hr => h r hr location

/-- Fallbacks report what their rules do. -/
lemma Rule.enumerates_fallbackFailures {fallback : Option (List Rule)}
    (h : ∀ r ∈ fallback.getD [], r.ReportsAll) (location : String) :
    Enumerates (Rule.chainReport? (fallback.getD []) location)
      (Rule.fallbackFailures location fallback) := by
  cases fallback with
  | none => exact Enumerates.nil fun _ => rfl
  | some chain => exact Rule.enumerates_chainFailures h location

/-- Forms report what the rules of their chains do, and what becomes of the examples of the form and
of its fields. -/
lemma Form.enumerates_exampleFailures (form : Form) (h : ∀ r ∈ form.rules, r.ReportsAll)
    (location : String) : Enumerates (form.report? location) (form.exampleFailures location) := by
  have hown := Enumerates.counted (fun i (e : FormExample) => (e.trial form location i).report?)
    form.examples
  have hchain (f : Field) (hf : f ∈ form.fields) := Rule.enumerates_chainFailures
    (fun r hr => h r (List.mem_flatMap_of_mem hf hr)) (f.place location)
  have hfields := Enumerates.flatMap form.fields fun f hf =>
    (Enumerates.counted (fun i (e : FieldExample) => (e.trial f.chain (f.place location) i).report?)
      f.examples).append (hchain f hf)
  rw [Form.exampleFailures_eq, judgeFormExamples_eq, Field.exampleFailures_eq]
  simp only [judgeFieldExamples_eq]
  refine (hown.append hfields).relabel (Sum.elim Form.Spot.own fun p =>
    Sum.elim (Form.Spot.ofField p.1) (fun q => Form.Spot.inner p.1 q.1 q.2.1 q.2.2) p.2) ?_ ?_ ?_
  · rintro (i | ⟨j, i | ⟨k, path, spot⟩⟩) (i' | ⟨j', i' | ⟨k', path', spot'⟩⟩) heq <;>
      simp_all
  · rintro (i | ⟨j, i | ⟨k, path, spot⟩⟩)
    · simp [Form.report?, Form.trial?, Option.bind_map]
    · simp [Form.report?, Form.trial?, Option.bind_map, Option.bind_assoc]
    · simp [Form.report?, Form.trial?, Rule.chainReport?, Rule.report?, Option.bind_assoc]
  · rintro (i | ⟨j, i⟩ | ⟨j, k, path, spot⟩) -
    · exact ⟨.inl i, rfl⟩
    · exact ⟨.inr (j, .inl i), rfl⟩
    · exact ⟨.inr (j, .inr (k, path, spot)), rfl⟩

/-! ### Rules -/

namespace Rule.ReportsAll

/-- Rules without forms inside report nothing. -/
lemma of_no_form {r : Rule} (hform : ∀ path, r.form? path = none)
    (hnone : ∀ location, r.exampleFailures location = []) : r.ReportsAll := by
  intro location
  rw [hnone]
  exact Enumerates.nil fun spot => by rw [Rule.report?, hform, Option.bind_none]

/-- Rules for maps report what their forms do. -/
lemma map {form : Option Form} (shape : Option Shape)
    (h : ∀ r ∈ (Rule.map form shape).held, r.ReportsAll) : (Rule.map form shape).ReportsAll := by
  cases form with
  | none =>
    refine of_no_form (fun path => ?_) fun _ => rfl
    cases path <;> rfl
  | some form =>
    intro location
    refine (form.enumerates_exampleFailures h location).relabel (fun spot => ([], spot)) ?_ ?_ ?_
    · intro spot spot' heq
      simpa using heq
    · intro spot
      rfl
    · rintro ⟨_ | ⟨b, path⟩, spot⟩ hsome
      · exact ⟨spot, rfl⟩
      · simp [Rule.report?, Rule.form?, Rule.branch?] at hsome

/-- Rules with options report what those do. -/
lemma or {options : List (List Rule)} (h : ∀ r ∈ (Rule.or options).held, r.ReportsAll) :
    (Rule.or options).ReportsAll := by
  intro location
  have hchains := Enumerates.flatMap options fun chain hchain =>
    Rule.enumerates_chainFailures (fun s hs => h s (List.mem_flatten_of_mem hchain hs)) location
  rw [Rule.exampleFailures, Rule.optionFailures_eq]
  refine hchains.relabel (fun p => (.option p.1 p.2.1 :: p.2.2.1, p.2.2.2)) ?_ ?_ ?_
  · rintro ⟨i, k, path, spot⟩ ⟨j, l, path', spot'⟩ heq
    simpa [and_assoc] using heq
  · rintro ⟨i, k, path, spot⟩
    simp [Rule.report?, Rule.chainReport?, Rule.form?, Rule.branch?, Option.bind_assoc]
  · rintro ⟨_ | ⟨_ | _ | _ | _, path⟩, spot⟩ hsome
    case option i k => exact ⟨(i, k, path, spot), rfl⟩
    all_goals simp [Rule.report?, Rule.form?, Rule.branch?] at hsome

/-- Switches report what their cases and their fallback do. -/
lemma switch {key : String} {cases : List (String × List Rule)} {fallback : Option (List Rule)}
    {exhaustive : Bool}
    (h : ∀ r ∈ (Rule.switch key cases fallback exhaustive).held, r.ReportsAll) :
    (Rule.switch key cases fallback exhaustive).ReportsAll := by
  intro location
  have hcases := Enumerates.flatMap cases fun c hc =>
    Rule.enumerates_chainFailures (fun s hs => h s <|
      List.mem_append_left _ (List.mem_flatMap_of_mem hc hs)) location
  have hfallback : Enumerates (Rule.chainReport? (fallback.getD []) location)
      (Rule.fallbackFailures location fallback) :=
    Rule.enumerates_fallbackFailures (fun s hs => h s (List.mem_append_right _ hs)) location
  rw [Rule.exampleFailures, Rule.caseFailures_eq]
  refine (hcases.append hfallback).relabel (Sum.elim
    (fun p => (.case p.1 p.2.1 :: p.2.2.1, p.2.2.2)) fun p => (.fallback p.1 :: p.2.1, p.2.2))
    ?_ ?_ ?_
  · rintro (⟨i, k, path, spot⟩ | ⟨k, path, spot⟩) (⟨j, l, path', spot'⟩ | ⟨l, path', spot'⟩) heq <;>
      simp_all
  · rintro (⟨i, k, path, spot⟩ | ⟨k, path, spot⟩)
    · simp [Rule.report?, Rule.chainReport?, Rule.form?, Rule.branch?, Option.bind_assoc]
    · cases fallback with
      | none => rfl
      | some chain =>
        simp [Rule.report?, Rule.chainReport?, Rule.form?, Rule.branch?, Option.bind_assoc]
  · rintro ⟨_ | ⟨_ | _ | _ | _, path⟩, spot⟩ hsome
    case case i k => exact ⟨.inl (i, k, path, spot), rfl⟩
    case fallback k => exact ⟨.inr (k, path, spot), rfl⟩
    all_goals simp [Rule.report?, Rule.form?, Rule.branch?] at hsome

/-- Rules for lists report what the rules for their items do. -/
lemma items {chain : List Rule} (h : ∀ r ∈ chain, r.ReportsAll) :
    (Rule.list chain).ReportsAll ∧ (Rule.textList chain).ReportsAll := by
  refine ⟨fun location => ?_, fun location => ?_⟩
  all_goals
    refine (Rule.enumerates_chainFailures h location).relabel
      (fun p => (.item p.1 :: p.2.1, p.2.2)) ?_ ?_ ?_
    · rintro ⟨i, path, spot⟩ ⟨j, path', spot'⟩ heq
      simpa [and_assoc] using heq
    · rintro ⟨i, path, spot⟩
      simp [Rule.report?, Rule.chainReport?, Rule.form?, Rule.branch?, Option.bind_assoc]
    · rintro ⟨_ | ⟨_ | _ | _ | _, path⟩, spot⟩ hsome
      case item i => exact ⟨(i, path, spot), rfl⟩
      all_goals simp [Rule.report?, Rule.form?, Rule.branch?] at hsome

/-- A rule reports what becomes of the examples inside it once the rules that it holds do. -/
lemma of_held {r : Rule} (h : ∀ s ∈ r.held, s.ReportsAll) : r.ReportsAll := by
  cases r with
  | list chain => exact (items h).1
  | textList chain => exact (items h).2
  | map form shape => exact map shape h
  | or options => exact or h
  | switch key cases fallback exhaustive => exact switch h
  | text | integer | float | boolean | bytes | hex | uuid | time | pattern | oneOf | noneOf
  | required | optional | nil | anything | custom =>
    refine of_no_form (fun path => ?_) fun _ => rfl
    cases path <;> rfl

end Rule.ReportsAll

/-- Every rule reports what becomes of the examples inside it.

**Proof sketch.** Induction over the rules inside: what a rule reports is put together from what the
rules that it holds do, and a spot in one of these is a spot in the rule behind one more branch. -/
theorem Rule.reportsAll (r : Rule) : r.ReportsAll := by
  have hstep : ∀ r : Rule, True → (∀ s ∈ r.held, s.ReportsAll) → r.ReportsAll :=
    fun _ _ hheld => .of_held hheld
  exact Rule.of_parts hstep r fun _ _ => trivial

/-! ### Forms -/

/-- **Checking examples misses nothing and invents nothing.** The failures of a form are paired with
the spots, in the form and in all forms inside it at any depth, whose examples turn out other than
declared: each of these spots has one failure, and there are no others. A failure names the place of
the example and what was declared, and carries the text of what went wrong exactly when the example
was declared valid.

**Proof sketch.** All rules report what becomes of the examples inside them (`Rule.reportsAll`), and
so does the form. What is reported at a spot is a failure when the example there is a surprise
(`Trial.isSome_report?_iff`), and says so (`Trial.report?_eq_some`). -/
theorem Form.checkExamples_reports_surprises (form : Form) :
    ∃ spots : List Form.Spot, spots.Nodup ∧
      (∀ s, s ∈ spots ↔ ∃ t, form.trial? (form.name.getD "form") s = some t ∧ t.IsSurprise) ∧
      List.Forall₂ (fun s entry => ∃ t, form.trial? (form.name.getD "form") s = some t ∧
        entry.location = t.location ∧ entry.expectedValid = !t.invalid ∧
        entry.error = (if t.invalid then none else t.failure) ∧
        (entry.error.isSome ↔ t.invalid = false)) spots form.checkExamples := by
  obtain ⟨spots, hnodup, hspots, hentries⟩ :=
    form.enumerates_exampleFailures (fun r _ => r.reportsAll) (form.name.getD "form")
  refine ⟨spots, hnodup, fun s => ?_, hentries.imp fun s entry hentry => ?_⟩
  · rw [hspots, Form.report?]
    cases htrial : form.trial? (form.name.getD "form") s with
    | none => simp
    | some t => simpa using t.isSome_report?_iff
  · obtain ⟨t, htrial, hreport⟩ := Option.bind_eq_some_iff.mp hentry
    exact ⟨t, htrial, Trial.report?_eq_some hreport⟩

/-- The example of a field of a form inside a list. -/
example : (Form.new [.new "address" [.list [.map (some (Form.new
      [⟨"street", [.anyText], [⟨.int 1, false⟩]⟩])) none]]]).trial? "form"
        (.inner 0 0 [.item 0] (.ofField 0 0)) =
    some ⟨"form.fields.address.fields.street.examples.0", false, some "expected a string"⟩ := by
  rfl

end Intake
