import Intake.Proofs.Form.Trace

set_option autoImplicit false

/-!
# Every failure is reported once

The errors of a form are a list of reports, filed under their keys: one report for each visit whose
chain ended in a rejection, and behind them one for each key that a strict form does not expect.

## Main definitions

* `FieldErrors.Lists` — errors that file some reports under their keys.
* `Form.failureReports`, `Form.unexpectedReports` — what a form has to report.

## Main results

* `FieldErrors.lists_reportAll` — reporting one after another files all reports.
* `Form.run_reports_each_failure_once` — a form reports its failed visits and its unexpected keys,
  and nothing else.
-/

namespace Intake

/-- Errors file some reports: under each key they hold the reports made there in order, and their
keys stand in the order of the first report under each. -/
structure FieldErrors.Lists (errors : FieldErrors) (reports : List (String × FieldError)) :
    Prop where
  keys_eq : Dict.keys errors = (reports.map Prod.fst).eraseDups
  getD_find? (key : String) :
    (Dict.find? errors key).getD [] = (reports.filter fun r => r.1 == key).map Prod.snd

namespace FieldErrors

/-- No errors file no reports. -/
lemma lists_nil : Lists [] [] := ⟨rfl, fun _ => rfl⟩

/-- One more report is filed behind the others under its key. -/
lemma Lists.add {errors : FieldErrors} {reports : List (String × FieldError)}
    (h : errors.Lists reports) (key : String) (e : FieldError) :
    (FieldErrors.add errors key e).Lists (reports ++ [(key, e)]) := by
  refine ⟨?_, fun other => ?_⟩
  · have hmem : key ∈ Dict.keys errors ↔ key ∈ reports.map Prod.fst := by
      rw [h.keys_eq, List.mem_eraseDups]
    rw [FieldErrors.add, Dict.keys_insert, List.map_append, List.eraseDups_append, h.keys_eq]
    rw [h.keys_eq] at hmem
    by_cases hk : key ∈ reports.map Prod.fst
    · rw [if_pos (hmem.mpr hk)]
      simp [List.removeAll, hk]
    · rw [if_neg fun hin => hk (hmem.mp hin)]
      simp [List.removeAll, hk, List.eraseDups_cons]
  · rw [FieldErrors.add, Dict.find?_insert, List.filter_append, List.map_append]
    by_cases ho : other = key
    · subst ho
      simp [h.getD_find? other]
    · simp [ho, Ne.symm ho, h.getD_find? other]

/-- Reporting one after another files all reports. -/
theorem lists_reportAll {errors : FieldErrors} {before : List (String × FieldError)}
    (h : errors.Lists before) (reports : List (String × FieldError)) :
    (reportAll errors reports).Lists (before ++ reports) := by
  induction reports generalizing errors before with
  | nil => simpa [reportAll] using h
  | cons r rest ih => simpa [reportAll] using ih (h.add r.1 r.2)

/-- Reported errors are not empty. -/
lemma add_ne_nil (errors : FieldErrors) (key : String) (e : FieldError) :
    FieldErrors.add errors key e ≠ [] := by
  cases errors with
  | nil => exact List.cons_ne_nil _ _
  | cons x rest =>
    simp only [FieldErrors.add, Dict.insert]
    split_ifs <;> exact List.cons_ne_nil _ _

/-- Errors stay, and reporting adds some. -/
lemma reportAll_ne_nil {errors : FieldErrors} {reports : List (String × FieldError)}
    (h : errors ≠ [] ∨ reports ≠ []) : reportAll errors reports ≠ [] := by
  induction reports generalizing errors with
  | nil => simpa [reportAll] using h
  | cons r rest ih => exact ih (Or.inl (add_ne_nil errors r.1 r.2))

end FieldErrors

/-- The report of a key that a form does not expect. -/
def unexpectedReport (key : String) : String × FieldError := (key, .message "unexpected field")

/-- The reports of unknown keys, made one after another. -/
lemma reportUnexpected_eq (errors : FieldErrors) (keys : List String) :
    reportUnexpected errors keys = reportAll errors (keys.map unexpectedReport) := by
  simp only [reportUnexpected, reportAll, List.foldl_map, unexpectedReport]

namespace Form

/-- One report for each failed visit of a form, under the key of the visit, in order. -/
def failureReports (form : Form) (mode : RunMode) (input : Dict Value)
    (context : Option (Dict Value)) : List (String × FieldError) :=
  (form.failures mode input context).map failureReport

/-- One report for each key that a form does not expect, in the order of the input. -/
def unexpectedReports (form : Form) (input : Dict Value) : List (String × FieldError) :=
  (form.unexpected input).map unexpectedReport

/-- A form with failed visits passes over its transforms and its hook. -/
lemma finish_of_errors (message : String) (transforms : List Transform) (hook : Option Hook)
    (unexpected : List String) {p : Progress} (h : p.errors ≠ []) :
    finish message transforms hook unexpected p =
      .error ⟨message, reportAll p.errors (unexpected.map unexpectedReport)⟩ := by
  have hp : p.errors.isEmpty = false := by simpa using h
  have hall : reportAll p.errors (unexpected.map unexpectedReport) ≠ [] :=
    FieldErrors.reportAll_ne_nil (Or.inl h)
  simp [finish, hp, reportUnexpected_eq, hall]

/-- A form without failed visits, transforms and hook has only unknown keys to report. -/
lemma finish_of_no_errors (message : String) (unexpected : List String) (values : Dict Value) :
    finish message [] none unexpected ⟨values, []⟩ =
      if unexpected = [] then .ok values
      else .error ⟨message, reportAll [] (unexpected.map unexpectedReport)⟩ := by
  split_ifs with h
  · simp [finish, runTransforms, runHook, reportUnexpected, h]
  · have hall : reportAll [] (unexpected.map unexpectedReport) ≠ [] :=
      FieldErrors.reportAll_ne_nil (Or.inr (by simpa using h))
    simp [finish, runTransforms, runHook, reportUnexpected_eq, hall]

/-- **A form reports each failure once and nothing else.** If the chain of some visit ends in a
rejection, the form fails with its own message, and its errors file one report for each failed visit
and then one for each unexpected key; transforms and the hook have no say. If no visit fails and the
form has neither transforms nor a hook, it passes exactly when there is no unexpected key, and else
its errors file one report for each.

**Proof sketch.** The run finishes with the reports of the failed visits (`Form.run_eq_finish`). If
there are any, the errors are not empty and only unexpected keys are added; if there are none, they
are all that is left to report. -/
theorem run_reports_each_failure_once (form : Form) (mode : RunMode) (input : Dict Value)
    (context : Option (Dict Value)) :
    (form.failures mode input context ≠ [] →
      ∃ errors : FieldErrors,
        form.run mode input context = .error ⟨form.errorMessage, errors⟩ ∧
        errors.Lists (form.failureReports mode input context ++ form.unexpectedReports input)) ∧
    (form.failures mode input context = [] → form.transforms = [] → form.hook = none →
      ((∃ values, form.run mode input context = .ok values) ↔ form.unexpected input = []) ∧
      (form.unexpected input ≠ [] →
        ∃ errors : FieldErrors,
          form.run mode input context = .error ⟨form.errorMessage, errors⟩ ∧
          errors.Lists (form.unexpectedReports input))) := by
  have hfiled : (reportAll [] (form.failureReports mode input context)).Lists
      (form.failureReports mode input context) := by
    simpa using FieldErrors.lists_reportAll FieldErrors.lists_nil _
  refine ⟨fun hfail => ?_, fun hpass htransforms hhook => ?_⟩
  · have hne : reportAll [] (form.failureReports mode input context) ≠ [] :=
      FieldErrors.reportAll_ne_nil (Or.inr (by simpa [failureReports] using hfail))
    refine ⟨_, ?_, FieldErrors.lists_reportAll hfiled _⟩
    rw [form.run_eq_finish]
    exact finish_of_errors _ _ _ _ hne
  · have hrun : form.run mode input context =
        if form.unexpected input = [] then .ok (replay [] (form.events mode input context))
        else .error ⟨form.errorMessage, reportAll [] (form.unexpectedReports input)⟩ := by
      rw [form.run_eq_finish, hpass, htransforms, hhook]
      exact finish_of_no_errors _ _ _
    refine ⟨⟨fun ⟨values, hok⟩ => ?_, fun hnone => ?_⟩, fun hsome => ?_⟩
    · by_contra hsome
      rw [hrun, if_neg hsome] at hok
      cases hok
    · exact ⟨_, by rw [hrun, if_pos hnone]⟩
    · refine ⟨_, by rw [hrun, if_neg hsome], ?_⟩
      simpa using FieldErrors.lists_reportAll FieldErrors.lists_nil (form.unexpectedReports input)

end Form

end Intake
