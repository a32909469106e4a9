import Intake.Proofs.Form.Trace

set_option autoImplicit false

/-!
# Updates

An update skips a rule that would run on null. The value from which a chain starts decides this for
all of its rules (`chainEvents_update`): a visit that runs rules on an absent or null value leaves
behind what it found, and all other visits find the same values and run the same rules as in a full
run. So an update is the full run of the form without the fields that are not given.

## Main definitions

* `Visit.isGiven` — whether an update takes part in a visit.
* `Form.onlyGiven` — a form without the fields that an input does not give.

## Main results

* `Visit.run_update` — a single visit of an update.
* `foldl_run_update` — an update runs the given visits in full.
* `Form.run_update_eq_run_onlyGiven` — the same for forms without a wildcard.
-/

namespace Intake

/-- Whether an update takes part in a visit: there are no rules to run, or there is a value that is
not null to run them on. -/
def Visit.isGiven (input : Dict Value) (visit : Visit) : Bool :=
  visit.chain.isEmpty || !((input.find? visit.key).getD .null).isNull

/-- A form without the fields whose rules have no value in an input, or only null. -/
def Form.onlyGiven (form : Form) (input : Dict Value) : Form :=
  { form with fields :=
      form.fields.filter fun f => Visit.isGiven (form.sanitized input) ⟨f.name, f.chain⟩ }

/-! ### Visits -/

/-- In an update, a given visit runs in full, and any other leaves behind what it finds: the test
before each of its rules finds null again. -/
lemma Visit.run_update (visit : Visit) (context : Option (Dict Value)) (input : Dict Value)
    (p : Progress) :
    visit.run .update context input p =
      if visit.isGiven input then visit.run .full context input p else p := by
  by_cases hchain : visit.chain.isEmpty
  · simp [run, events, isGiven, hchain]
  · by_cases hnull : ((input.find? visit.key).getD .null).isNull
    · simp [run, events, chainEvents_update, isGiven, hchain, hnull, reportEnd]
    · simp [run, events, chainEvents_update, isGiven, hchain, hnull]

/-- An update runs the given visits in full, one after another.

**Proof sketch.** Induction on the visits. A visit that is not given leaves behind what it finds, so
that the visits behind it see the same values with it and without it. -/
theorem foldl_run_update (context : Option (Dict Value)) (input : Dict Value)
    (visits : List Visit) (p : Progress) :
    visits.foldl (fun p visit => visit.run .update context input p) p =
      (visits.filter (Visit.isGiven input)).foldl
        (fun p visit => visit.run .full context input p) p := by
  induction visits generalizing p with
  | nil => rfl
  | cons visit rest ih =>
    rw [List.foldl_cons, Visit.run_update]
    by_cases hgiven : visit.isGiven input
    · rw [if_pos hgiven, List.filter_cons_of_pos hgiven, List.foldl_cons, ih]
    · rw [if_neg hgiven, List.filter_cons_of_neg hgiven, ih]

/-! ### Fields and forms -/

/-- Without a wildcard, the visits of the given fields are the given visits. -/
lemma flatMap_visits_filter {fields : List Field} (h : ∀ f ∈ fields, f.isWildcard = false)
    (input : Dict Value) :
    (fields.filter fun f => Visit.isGiven input ⟨f.name, f.chain⟩).flatMap
        (fun f => f.visits input) =
      (fields.flatMap fun f => f.visits input).filter (Visit.isGiven input) := by
  induction fields with
  | nil => rfl
  | cons f rest ih =>
    obtain ⟨hf, hrest⟩ := List.forall_mem_cons.mp h
    have hvisits : f.visits input = [⟨f.name, f.chain⟩] := by simp [Field.visits, hf]
    rw [List.flatMap_cons, List.filter_append, hvisits, ← ih hrest]
    by_cases hgiven : Visit.isGiven input ⟨f.name, f.chain⟩
    · simp [hgiven, hvisits]
    · simp [hgiven]

/-- Without a wildcard, fields run in an update as the given ones run in full. -/
lemma Field.runAll_update {fields : List Field} (h : ∀ f ∈ fields, f.isWildcard = false)
    (context : Option (Dict Value)) (input : Dict Value) (p : Progress) :
    Field.runAll fields .update context input p =
      Field.runAll (fields.filter fun f => Visit.isGiven input ⟨f.name, f.chain⟩) .full context
        input p := by
  rw [Field.runAll_eq_foldl, Field.runAll_eq_foldl, foldl_run_update, flatMap_visits_filter h]

/-- **An update is a full run without the absent fields.** On every input and in every context, a
form that has no wildcard and passes over unknown keys gives in an update what is given, values or
errors, by a full run of the form without the fields that have rules and whose value in the
sanitized input is absent or null.

**Proof sketch.** Both runs pass through the same visits with the same values and errors before each
of them, and so the transforms and the hook find the same behind the last one. -/
theorem Form.run_update_eq_run_onlyGiven (form : Form) (hstrict : form.strict = false)
    (hwildcard : form.hasWildcard = false) (input : Dict Value) (context : Option (Dict Value)) :
    form.run .update input context = (form.onlyGiven input).run .full input context := by
  obtain ⟨fields, strict, sanitizeKeys, errorMsg, name, examples, transforms, hook⟩ := form
  obtain rfl : strict = false := hstrict
  have hfields : ∀ f ∈ fields, f.isWildcard = false := by
    simpa [Form.hasWildcard] using hwildcard
  simp only [Form.run, Form.onlyGiven, Form.sanitized, Field.runAll_update hfields]
  rfl

/-- A form with a default, a raw field and a rule that sees an earlier value, whose transform and
hook see which fields were given. -/
def draftForm : Form :=
  { fields :=
      [.new "title" [.required, .anyText], .new "limit" [.orDefault (.int 10)], .new "raw" [],
        .new "short" [.custom (.ofValues "Flag" fun v values =>
          if (values.find? "limit").isNone then .ok v else .error .missing)]]
    strict := false
    sanitizeKeys := true
    errorMsg := none
    name := none
    examples := []
    transforms := [⟨"count", [fun _ values => .ok (.int (Int64.ofNat values.length))]⟩]
    hook := some fun values =>
      ⟨[], if (values.find? "title").isSome then some "title given" else none⟩ }

/-- An update of a draft without its title and with a null in the place of its limit. -/
theorem draft_run_update :
    draftForm.strict = false ∧ draftForm.hasWildcard = false ∧
      draftForm.run .update [("Limit", .null), ("RAW", .null), ("short", .bool true)] none =
        .ok [("raw", .null), ("short", .bool true), ("count", .int 2)] :=
  ⟨rfl, by decide, (draftForm.run_update_eq_run_onlyGiven rfl (by decide) _ none).trans (by rfl)⟩

end Intake
