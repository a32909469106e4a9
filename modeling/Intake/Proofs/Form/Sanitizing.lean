import Intake.Proofs.Form.Provenance

set_option autoImplicit false

/-!
# Forms that sanitize keys

A form may read the keys of its input in lower case. The names of its fields stay as they are
declared, so a field is found under its name exactly if the name is in lower case itself: then the
value under a key that no other one equals up to letter case is where the field looks for it, and
otherwise no spelling of the name leads there.

## Main definitions

* `Dict.OnlySpelling` — a key that no other key of an input equals up to letter case.
* `Form.Starts` — the chain of a field starts from a value in every run on an input.
* `Form.verbatim` — the form that reads keys as they are.

## Main results

* `find?_sanitize` — where a value stands when the keys are sanitized.
* `Form.sanitizing_keeps_iff` — sanitizing hides a field exactly if its name is not in lower case.
* `Form.not_sanitizing_keeps` — a hidden field.
-/

namespace Intake

/-- No other key of an input equals a key up to letter case. -/
def Dict.OnlySpelling (input : Dict Value) (key : String) : Prop :=
  ∀ other ∈ input.keys, lowerText other = lowerText key → other = key

/-- What happens in a visit that starts from a value: without rules it is copied, and else the chain
runs on it. -/
def Visit.eventsFrom (visit : Visit) (context : Option (Dict Value)) (values : Dict Value)
    (v : Value) : List Event :=
  if visit.chain.isEmpty then [.copied visit.key v]
  else chainEvents visit.key .full context visit.chain values v

namespace Form

/-- In every run on an input a form visits a field at its name, and what happens there starts from a
value. -/
def Starts (form : Form) (input : Dict Value) (f : Field) (v : Value) : Prop :=
  ⟨f.name, f.chain⟩ ∈ form.visits input ∧
    ∀ mode context, ∀ t ∈ form.traces mode input context, t.1 = ⟨f.name, f.chain⟩ →
      ∃ seen, t.2 = t.1.eventsFrom context seen v

/-- The form that reads the keys of the input as they are. -/
def verbatim (form : Form) : Form := { form with sanitizeKeys := false }

end Form

/-! ### Sanitized keys -/

/-- When keys are sanitized, the value under a key that no other one equals up to letter case stands
under the lower-case form of the key. -/
theorem find?_sanitize {input : Dict Value} (hinput : input.Distinct) {key : String}
    (honly : input.OnlySpelling key) {v : Value} (h : input.find? key = some v) :
    (sanitize true input).find? (lowerText key) = some v := by
  have hmem : (key, v) ∈ input := Dict.mem_of_find? h
  rw [sanitize, if_pos rfl]
  apply Dict.find?_ofEntries
  · exact List.mem_map.mpr ⟨(key, v), hmem, rfl⟩
  · intro w hw
    obtain ⟨⟨other, x⟩, hother, heq⟩ := List.mem_map.mp hw
    obtain ⟨hlower, rfl⟩ := Prod.mk.inj heq
    obtain rfl : other = key := honly other (List.mem_map.mpr ⟨_, hother, rfl⟩) hlower
    rw [Dict.find?_of_mem hinput hother] at h
    exact Option.some.inj h

/-! ### Where a chain starts -/

/-- A visit starts from the value under its key, unless that is null. -/
lemma Visit.events_of_find? {visit : Visit} {input : Dict Value} {v : Value}
    (h : input.find? visit.key = some v) (hv : v.isNull = false) (mode : RunMode)
    (context : Option (Dict Value)) (values : Dict Value) :
    visit.events mode context input values = visit.eventsFrom context values v := by
  rw [events_eq, eventsFrom, h]
  by_cases hchain : visit.chain.isEmpty
  · simp [hchain]
  · simp [hchain, hv]

/-- A visit at a key that is not there starts from no value but null. -/
lemma Visit.events_ne_eventsFrom {visit : Visit} {input : Dict Value} {v : Value}
    (h : input.find? visit.key = none) (hv : v.isNull = false) (context : Option (Dict Value))
    (values seen : Dict Value) :
    visit.events .full context input values ≠ visit.eventsFrom context seen v := by
  obtain ⟨key, chain⟩ := visit
  have h : input.find? key = none := h
  cases chain with
  | nil => simp [events, eventsFrom, h]
  | cons r rest =>
    intro heq
    simp only [events, eventsFrom, h, chainEvents_full_cons, List.isEmpty_cons] at heq
    obtain ⟨hfirst, -⟩ := List.cons.inj heq
    obtain ⟨-, -, -, hnull, -⟩ := Event.ran.inj hfirst
    rw [← hnull] at hv
    cases hv

/-- Every visit leaves a trace. -/
lemma exists_mem_visitTraces (mode : RunMode) (context : Option (Dict Value)) (input : Dict Value)
    {visits : List Visit} (values : Dict Value) {visit : Visit} (h : visit ∈ visits) :
    ∃ events, (visit, events) ∈ visitTraces mode context input visits values := by
  induction visits generalizing values with
  | nil => cases h
  | cons first rest ih =>
    rcases List.mem_cons.mp h with rfl | hrest
    · exact ⟨_, List.mem_cons_self⟩
    · obtain ⟨events, hevents⟩ := ih _ hrest
      exact ⟨events, List.mem_cons_of_mem _ hevents⟩

namespace Form

variable {form : Form} {f : Field}

/-- A field is visited at its name. -/
lemma mem_visits (hf : f ∈ form.fields) (hname : f.isWildcard = false) (input : Dict Value) :
    ⟨f.name, f.chain⟩ ∈ form.visits input := by
  refine List.mem_flatMap.mpr ⟨f, hf, ?_⟩
  simp [Field.visits, hname]

/-- The chain of a field starts from the value under its name in the sanitized input, unless that is
null. -/
lemma starts_of_find? (hf : f ∈ form.fields) (hname : f.isWildcard = false) {input : Dict Value}
    {v : Value} (h : (form.sanitized input).find? f.name = some v) (hv : v.isNull = false) :
    form.Starts input f v := by
  refine ⟨mem_visits hf hname input, ?_⟩
  intro mode context t ht hvisit
  obtain ⟨-, seen, hseen⟩ := exists_of_mem_visitTraces ht
  refine ⟨seen, hseen.trans (Visit.events_of_find? ?_ hv mode context seen)⟩
  rw [hvisit]
  exact h

/-- The chain of a field starts from no value but null if its name is no key of the sanitized
input. -/
lemma not_starts_of_find?_eq_none (hf : f ∈ form.fields) (hname : f.isWildcard = false)
    {input : Dict Value} {v : Value} (h : (form.sanitized input).find? f.name = none)
    (hv : v.isNull = false) : ¬ form.Starts input f v := by
  rintro ⟨-, hstarts⟩
  obtain ⟨events, htrace⟩ :=
    exists_mem_visitTraces .full none (form.sanitized input) [] (mem_visits hf hname input)
  obtain ⟨seen, hseen⟩ := hstarts .full none _ htrace rfl
  obtain ⟨-, values, hvalues⟩ := exists_of_mem_visitTraces htrace
  exact Visit.events_ne_eventsFrom h hv none values seen (hvalues.symm.trans hseen)

/-- **Sanitizing hides a field exactly if its name is not in lower case.** In a form that sanitizes
keys, the name of a field is its own lower-case form if and only if on every input that holds a
value other than null under the name, and no other key that equals it up to letter case, the chain
of the field starts from this value, as it does if keys are read as they are, and the key is none
that a strict form reports as unexpected.

**Proof sketch.** The value stands under the lower-case form of the name (`find?_sanitize`), and the
field looks for it under the name. If the two differ, the input that holds nothing but a value under
the name has no such key any more. -/
theorem sanitizing_keeps_iff (form : Form) (hsanitize : form.sanitizeKeys = true) (f : Field)
    (hf : f ∈ form.fields) (hname : f.isWildcard = false) :
    lowerText f.name = f.name ↔
      ∀ (input : Dict Value) (v : Value), input.Distinct → input.OnlySpelling f.name →
        input.find? f.name = some v → v.isNull = false →
          form.Starts input f v ∧ form.verbatim.Starts input f v ∧
            lowerText f.name ∉ form.unexpected input := by
  constructor
  · intro hlower input v hinput honly hfind hv
    have hsanitized : (form.sanitized input).find? f.name = some v := by
      have hstands := find?_sanitize hinput honly hfind
      rwa [hlower, ← hsanitize] at hstands
    have hverbatim : f ∈ form.verbatim.fields := hf
    refine ⟨starts_of_find? hf hname hsanitized hv, starts_of_find? hverbatim hname hfind hv, ?_⟩
    intro hmem
    have hdeclared : form.declares f.name = true := List.any_eq_true.mpr ⟨f, hf, by simp⟩
    rw [hlower, unexpected] at hmem
    split_ifs at hmem
    · simp [hdeclared] at hmem
    · cases hmem
  · intro h
    by_contra hlower
    -- an input with a value under the name and nothing else has one key, in lower case
    have hfind : Dict.find? [(f.name, Value.bool true)] f.name = some (.bool true) := by
      simp [Dict.find?]
    have hdistinct : Dict.Distinct [(f.name, Value.bool true)] := List.nodup_singleton f.name
    have honly : Dict.OnlySpelling [(f.name, .bool true)] f.name := by
      intro other hother _
      simpa using hother
    have hsanitized : (form.sanitized [(f.name, .bool true)]).find? f.name = none := by
      simp [sanitized, sanitize, hsanitize, Dict.ofEntries, Dict.insert, Dict.find?, hlower]
    have hstarts := (h _ _ hdistinct honly hfind rfl).1
    exact not_starts_of_find?_eq_none hf hname hsanitized rfl hstarts

/-- A strict form for a required text under a name, which sanitizes keys. -/
def labelForm (name : String) : Form :=
  { (new [.new name [.required, .anyText]]).strictly with sanitizeKeys := true }

/-- A name in lower case is found beside a key with a capital letter. -/
theorem label_sanitizing_keeps :
    let f := Field.new "name" [.required, .anyText]
    let input : Dict Value := [("Extra", .null), ("name", .string "x")]
    input.Distinct ∧ input.OnlySpelling "name" ∧ (labelForm "name").Starts input f (.string "x") ∧
      (labelForm "name").verbatim.Starts input f (.string "x") ∧
        lowerText "name" ∉ (labelForm "name").unexpected input := by
  intro f input
  have hdistinct : input.Distinct := by
    unfold Dict.Distinct
    decide
  have honly : input.OnlySpelling "name" := by
    unfold Dict.OnlySpelling
    decide
  exact ⟨hdistinct, honly,
    (sanitizing_keeps_iff (labelForm "name") rfl f List.mem_cons_self rfl).mp (by decide) input
      (.string "x") hdistinct honly rfl rfl⟩

/-- A name with a capital letter is not found: the key is read in lower case, and a strict form
reports it as unexpected. -/
theorem not_sanitizing_keeps :
    ¬ ∀ (form : Form) (f : Field) (input : Dict Value) (v : Value), form.sanitizeKeys = true →
      f ∈ form.fields → f.isWildcard = false → input.Distinct → input.OnlySpelling f.name →
        input.find? f.name = some v → v.isNull = false →
          form.Starts input f v ∧ form.verbatim.Starts input f v ∧
            lowerText f.name ∉ form.unexpected input := by
  intro h
  have hdistinct : Dict.Distinct [("Name", Value.string "x")] := List.nodup_singleton "Name"
  have honly : Dict.OnlySpelling [("Name", .string "x")] "Name" := by
    unfold Dict.OnlySpelling
    decide
  obtain ⟨-, -, hunexpected⟩ := h (labelForm "Name") (.new "Name" [.required, .anyText])
    [("Name", .string "x")] (.string "x") rfl List.mem_cons_self rfl hdistinct honly rfl rfl
  have hreported : (labelForm "Name").unexpected [("Name", .string "x")] = ["name"] := by rfl
  apply hunexpected
  rw [hreported]
  decide

end Form

end Intake
