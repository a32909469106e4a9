import Intake.Proofs.Form.Failures

set_option autoImplicit false

/-!
# Transforms and the hook

When no field of a form has failed, its transforms run one after another on the values stored, and
when none of them has failed, the hook runs on what they have left. A transform works on its own
copy of one value: it either has an effect as a whole, on the key of its field alone, or has none
and is reported.

## Main definitions

* `Transform.Computes` — what the functions of a transform make of a value.
* `Transform.Step`, `Transform.Run` — what one transform does to the values, and what some do.
* `Form.afterFields` — the values and the errors behind the fields of a form.
* `Form.conclude` — how a form ends, given what its hook has reported.

## Main results

* `runTransforms_eq` — the transforms of a form run in their order.
* `Form.run_transforms_atomic` — forms whose fields pass, by what their transforms do.

## Design

`Transform.Step` says what a transform leaves behind without saying how this is done: which value
stands under its own key, that the other keys keep their values, and in which order all keys stand.
-/

namespace Intake

namespace Transform

/-- Functions make a result of a value while some values are stored: each of them is given what the
one before it gave, with these values, and the first failure is the result. -/
inductive Computes (values : Dict Value) :
    List (Value → Dict Value → Except Rejection Value) → Value → Except Rejection Value → Prop where
  | done {v : Value} : Computes values [] v (.ok v)
  | pass {f : Value → Dict Value → Except Rejection Value}
    {rest : List (Value → Dict Value → Except Rejection Value)} {v w : Value}
    {result : Except Rejection Value} (hf : f v values = .ok w)
    (hrest : Computes values rest w result) : Computes values (f :: rest) v result
  | fail {f : Value → Dict Value → Except Rejection Value}
    {rest : List (Value → Dict Value → Except Rejection Value)} {v : Value} {r : Rejection}
    (hf : f v values = .error r) : Computes values (f :: rest) v (.error r)

/-- What a transform makes of the values stored: its functions start from the value of its field, or
from null if there is none. -/
def Makes (t : Transform) (values : Dict Value) (result : Except Rejection Value) : Prop :=
  Computes values t.functions ((values.find? t.field).getD .null) result

/-- What a transform does to the values stored, and why it failed if it did. -/
inductive Step (t : Transform) (before : Dict Value) : Dict Value → Option Rejection → Prop where
  /-- A function failed: all values stay. -/
  | failed {r : Rejection} (h : t.Makes before (.error r)) : Step t before before (some r)
  /-- The result is null: the key of the field goes, and all other entries stay in their order. -/
  | removed (h : t.Makes before (.ok .null)) :
    Step t before (before.filter fun e => e.1 != t.field) none
  /-- Any other result stands under the key of the field, in its place or else at the end, and all
  other keys keep their values and their order. -/
  | stored {v : Value} {after : Dict Value} (h : t.Makes before (.ok v)) (hv : v ≠ .null)
    (hown : after.find? t.field = some v)
    (hothers : ∀ key, key ≠ t.field → after.find? key = before.find? key)
    (hkeys : after.keys =
      if t.field ∈ before.keys then before.keys else before.keys ++ [t.field]) :
    Step t before after none

/-- What some transforms do to the values stored, one after another, each on what those before it
have left, and the failures among them in order. -/
inductive Run : List Transform → Dict Value → Dict Value → List (String × Rejection) → Prop where
  | done {values : Dict Value} : Run [] values values []
  | step {t : Transform} {rest : List Transform} {before mid after : Dict Value}
    {failure : Option Rejection} {failures : List (String × Rejection)}
    (hstep : t.Step before mid failure) (hrest : Run rest mid after failures) :
    Run (t :: rest) before after ((failure.map fun r => (t.field, r)).toList ++ failures)

/-- A failure of a transform as a report under its field. -/
def failureReport (failure : String × Rejection) : String × FieldError :=
  (failure.1, failure.2.toFieldError)

end Transform

namespace Form

/-- The values and the errors behind the fields of a form. -/
def afterFields (form : Form) (mode : RunMode) (input : Dict Value)
    (context : Option (Dict Value)) : Progress :=
  Field.runAll form.fields mode context (form.sanitized input) .start

/-- How a form ends with some values, given what its hook has reported on them: it fails with the
message of the hook, or else with its own, if there is such a message, an error or an unexpected
key, and gives the values otherwise. -/
def conclude (form : Form) (input values : Dict Value) (report : HookReport) :
    Except FormError (Dict Value) :=
  let errors := reportAll report.errors (form.unexpectedReports input)
  if errors.isEmpty && report.message.isNone then .ok values
  else .error ⟨report.message.getD form.errorMessage, errors⟩

end Form

/-! ### Single transforms -/

/-- The functions of a transform compute its value. -/
lemma computes_transformValue (values : Dict Value)
    (fs : List (Value → Dict Value → Except Rejection Value)) (v : Value) :
    Transform.Computes values fs v (transformValue values fs v) := by
  induction fs generalizing v with
  | nil => exact .done
  | cons f rest ih =>
    rw [transformValue]
    cases hf : f v values with
    | error r => exact .fail hf
    | ok w => exact .pass hf (ih w)

/-- A transform takes a step and reports its failure if it has failed.

**Proof sketch.** By cases of what its functions compute. Erasing a key is leaving out its entry, as
no key is there twice, and a value is stored by insertion. -/
lemma exists_step_runTransform (t : Transform) {p : Progress} (hp : p.values.Distinct) :
    ∃ after failure, t.Step p.values after failure ∧ after.Distinct ∧
      runTransform p t = ⟨after, reportEnd p.errors t.field failure⟩ := by
  have hmakes : t.Makes p.values
      (transformValue p.values t.functions ((p.values.find? t.field).getD .null)) :=
    computes_transformValue _ _ _
  rw [runTransform]
  cases hresult : transformValue p.values t.functions ((p.values.find? t.field).getD .null) with
  | error r =>
    rw [hresult] at hmakes
    exact ⟨p.values, some r, .failed hmakes, hp, rfl⟩
  | ok v =>
    rw [hresult] at hmakes
    by_cases hv : v = .null
    · subst hv
      refine ⟨_, none, .removed hmakes, hp.filter _, ?_⟩
      simp [hp.erase_eq, reportEnd]
    · have hstored : t.Step p.values (p.values.insert t.field v) none :=
        .stored hmakes hv (Dict.find?_insert_self _ _ _)
          (fun key hkey => Dict.find?_insert_of_ne _ _ hkey) (Dict.keys_insert _ _ _)
      refine ⟨_, none, hstored, hp.insert _ _, ?_⟩
      cases v with
      | null => exact absurd rfl hv
      | bool | int | float | string | bytes | list | map => rfl

/-! ### Several transforms -/

/-- **Transforms run in their order**, each on what those before it have left, and each failure is
reported once.

**Proof sketch.** Induction on the transforms: the first one takes a step and the others run on what
it leaves behind, whether it has failed or not. -/
theorem runTransforms_eq (ts : List Transform) {p : Progress} (hp : p.values.Distinct) :
    ∃ after failures, Transform.Run ts p.values after failures ∧
      runTransforms p ts = ⟨after, reportAll p.errors (failures.map Transform.failureReport)⟩ := by
  induction ts generalizing p with
  | nil => exact ⟨p.values, [], .done, rfl⟩
  | cons t rest ih =>
    obtain ⟨mid, failure, hstep, hmid, hrun⟩ := exists_step_runTransform t hp
    obtain ⟨after, failures, hrest, hrunRest⟩ := ih (p := runTransform p t) (by rwa [hrun])
    rw [hrun] at hrest hrunRest
    refine ⟨after, _, .step hstep hrest, ?_⟩
    show runTransforms (runTransform p t) rest = _
    rw [hrun, hrunRest]
    cases failure <;> rfl

/-! ### Forms -/

/-- A form finishes from where its fields have left off. -/
lemma Form.run_eq_finish_afterFields (form : Form) (mode : RunMode) (input : Dict Value)
    (context : Option (Dict Value)) :
    form.run mode input context =
      finish form.errorMessage form.transforms form.hook (form.unexpected input)
        (form.afterFields mode input context) := by
  rw [← Form.unexpectedKeys_eq]
  cases form
  rfl

/-- The fields of a form store no key twice. -/
lemma Form.distinct_afterFields (form : Form) (mode : RunMode) (input : Dict Value)
    (context : Option (Dict Value)) : (form.afterFields mode input context).values.Distinct := by
  rw [Form.afterFields, Field.runAll_eq_foldl, foldl_run_eq]
  exact distinct_replay Dict.distinct_nil _

/-- Failures of transforms are reported with the unknown keys, whatever the hook is. -/
lemma finish_of_failed_transforms (message : String) {transforms : List Transform}
    (hook : Option Hook) (unexpected : List String) {p : Progress} (hp : p.errors = [])
    (h : (runTransforms p transforms).errors ≠ []) :
    finish message transforms hook unexpected p =
      .error ⟨message, reportAll (runTransforms p transforms).errors
        (unexpected.map unexpectedReport)⟩ := by
  have hfailed : (runTransforms p transforms).errors.isEmpty = false := by simpa using h
  have hall : reportAll (runTransforms p transforms).errors
      (unexpected.map unexpectedReport) ≠ [] :=
    FieldErrors.reportAll_ne_nil (Or.inl h)
  simp [finish, hp, hfailed, reportUnexpected_eq, hall]

/-- Behind transforms that have passed, the hook runs on what they have left. -/
lemma Form.finish_of_passed_transforms (form : Form) (input : Dict Value) {p : Progress}
    (hp : p.errors = []) (hook : Option Hook)
    (h : (runTransforms p form.transforms).errors = []) :
    finish form.errorMessage form.transforms hook (form.unexpected input) p =
      form.conclude input (runTransforms p form.transforms).values
        (runHook hook (runTransforms p form.transforms).values) := by
  simp [finish, conclude, hp, h, reportUnexpected_eq, unexpectedReports]

/-- **Transforms are atomic and independent of one another.** In every run of a form whose fields
have no errors, the transforms run in their order on the values that the fields have left, each on
what those before it have left: a transform that fails changes nothing and is reported once under
its field, and any other changes its own key only. If none has failed, the hook runs on what they
have left, and what it reports decides with the unexpected keys; if one has failed, the form fails
with their reports and those of the unexpected keys, whatever the hook is.

**Proof sketch.** The transforms take one step each (`runTransforms_eq`), and report nothing exactly
when none of them has failed, which is when the hook runs (`Form.finish_of_passed_transforms`,
`finish_of_failed_transforms`). -/
theorem Form.run_transforms_atomic (form : Form) (mode : RunMode) (input : Dict Value)
    (context : Option (Dict Value)) (hfields : (form.afterFields mode input context).errors = []) :
    ∃ values failures,
      Transform.Run form.transforms (form.afterFields mode input context).values values failures ∧
      (failures = [] →
        (∀ hook : Hook, ({ form with hook := some hook } : Form).run mode input context =
          form.conclude input values (hook values)) ∧
        ({ form with hook := none } : Form).run mode input context =
          form.conclude input values ⟨[], none⟩) ∧
      (failures ≠ [] → ∃ errors : FieldErrors,
        errors.Lists (failures.map Transform.failureReport ++ form.unexpectedReports input) ∧
        ∀ hook : Option Hook, ({ form with hook := hook } : Form).run mode input context =
          .error ⟨form.errorMessage, errors⟩) := by
  obtain ⟨values, failures, hrun, heq⟩ :=
    runTransforms_eq form.transforms (form.distinct_afterFields mode input context)
  rw [hfields] at heq
  have hfinish : ∀ hook : Option Hook, ({ form with hook := hook } : Form).run mode input context =
      finish form.errorMessage form.transforms hook (form.unexpected input)
        (form.afterFields mode input context) :=
    fun hook => Form.run_eq_finish_afterFields { form with hook := hook } mode input context
  refine ⟨values, failures, hrun, fun hpass => ?_, fun hfail => ?_⟩
  · subst hpass
    have hpassed := form.finish_of_passed_transforms input hfields
    rw [heq] at hpassed
    refine ⟨fun hook => ?_, ?_⟩
    · rw [hfinish, hpassed (some hook) rfl]
      rfl
    · rw [hfinish, hpassed none rfl]
      rfl
  · refine ⟨reportAll [] (failures.map Transform.failureReport ++ form.unexpectedReports input),
      ?_, fun hook => ?_⟩
    · simpa using FieldErrors.lists_reportAll FieldErrors.lists_nil
        (failures.map Transform.failureReport ++ form.unexpectedReports input)
    · have herrors : (runTransforms (form.afterFields mode input context) form.transforms).errors ≠
          [] := by
        rw [heq]
        exact FieldErrors.reportAll_ne_nil (Or.inr (by simpa using hfail))
      rw [hfinish, finish_of_failed_transforms _ _ _ hfields herrors, heq, reportAll_append]
      rfl

/-- A form that drops a note and then fails midway through the functions for a name. -/
def refusingForm : Form :=
  { Form.new [.new "name" [.anyText], .new "note" [.anyText]] with
    transforms := [⟨"note", [fun _ _ => .ok .null]⟩,
      ⟨"name", [fun v _ => .ok v, fun _ _ => .error .textLost]⟩] }

/-- The form fails whatever its hook is, since the hook does not run. -/
theorem refusing_run_transforms_atomic :
    (refusingForm.afterFields .full
      [("name", .string "ada"), ("note", .string "new")] none).errors = [] ∧
    ∃ errors, ∀ hook : Option Hook, ({ refusingForm with hook := hook } : Form).run .full
      [("name", .string "ada"), ("note", .string "new")] none =
        .error ⟨refusingForm.errorMessage, errors⟩ := by
  have hfields : (refusingForm.afterFields .full
      [("name", .string "ada"), ("note", .string "new")] none).errors = [] := by rfl
  obtain ⟨values, failures, hrun, hpass, hfail⟩ := refusingForm.run_transforms_atomic _ _ _ hfields
  have hfailures : failures ≠ [] := by
    intro hnil
    have hok : ({ refusingForm with hook := none } : Form).run .full
        [("name", .string "ada"), ("note", .string "new")] none = .ok values := (hpass hnil).2
    have herror : ∃ e, ({ refusingForm with hook := none } : Form).run .full
        [("name", .string "ada"), ("note", .string "new")] none = .error e := ⟨_, by rfl⟩
    obtain ⟨e, he⟩ := herror
    rw [he] at hok
    cases hok
  obtain ⟨errors, -, hhook⟩ := hfail hfailures
  exact ⟨hfields, errors, hhook⟩

end Intake
