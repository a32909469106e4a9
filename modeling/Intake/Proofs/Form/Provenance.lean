import Intake.Proofs.Form.Trace

set_option autoImplicit false

/-!
# Where validated values come from

Every value in the output of a form was stored by a rule that ran at its key or copied there from
the input, and it is the last one stored there. So the keys of the output are visited keys, null is
in the output only as a copy, and a form without a wildcard never looks at undeclared input.

## Main definitions

* `Event.Genuine` — an event that happened in a visit of a form, with the result that its rule
  gives.

## Main results

* `Form.genuine_of_mem_events` — every event of a form is genuine.
* `Form.eq_replay_of_run_eq_ok` — the output of a form without transforms is what its trace stores.
* `Form.events_congr` — without a wildcard, the trace depends on declared input only.
* `Form.values_provenance` — the origin of every value in the output.
-/

namespace Intake

/-- An event that happened in a visit of a form: a rule of the chain of the visit gave the result,
or the raw value was copied because there was no rule. -/
def Event.Genuine (form : Form) (input : Dict Value) (context : Option (Dict Value)) :
    Event → Prop
  | .ran key r values v result =>
    result = r.check values context v ∧
      ∃ visit ∈ form.visits input, visit.key = key ∧ r ∈ visit.chain
  | .copied key v =>
    (form.sanitized input).find? key = some v ∧
      ∃ visit ∈ form.visits input, visit.key = key ∧ visit.chain = []

/-! ### Events are genuine -/

/-- The events of a full run of a chain come from its rules. -/
lemma exists_of_mem_chainEvents {key : String} {context : Option (Dict Value)} {chain : List Rule}
    {values : Dict Value} {v : Value} {e : Event}
    (h : e ∈ chainEvents key .full context chain values v) :
    ∃ r ∈ chain, ∃ seen w, e = .ran key r seen w (r.check seen context w) := by
  induction chain generalizing values v with
  | nil => cases h
  | cons r rest ih =>
    rw [chainEvents_full_cons] at h
    rcases List.mem_cons.mp h with rfl | hmem
    · exact ⟨r, by simp, values, v, rfl⟩
    · cases hr : r.check values context v with
      | error x => simp [hr] at hmem
      | ok w =>
        rw [hr] at hmem
        dsimp only at hmem
        split_ifs at hmem with hw
        · cases hmem
        · obtain ⟨r', hr', seen, x, rfl⟩ := ih hmem
          exact ⟨r', List.mem_cons_of_mem _ hr', seen, x, rfl⟩

/-- The events of some visits happen in these visits. -/
lemma exists_of_mem_visitTraces {mode : RunMode} {context : Option (Dict Value)}
    {input : Dict Value} {visits : List Visit} {values : Dict Value} {t : Visit × List Event}
    (h : t ∈ visitTraces mode context input visits values) :
    t.1 ∈ visits ∧ ∃ seen, t.2 = t.1.events mode context input seen := by
  induction visits generalizing values with
  | nil => cases h
  | cons visit rest ih =>
    rcases List.mem_cons.mp h with rfl | hmem
    · exact ⟨by simp, values, rfl⟩
    · obtain ⟨hvisit, hseen⟩ := ih hmem
      exact ⟨List.mem_cons_of_mem _ hvisit, hseen⟩

/-- Every event of a form is genuine. -/
theorem Form.genuine_of_mem_events {form : Form} {mode : RunMode} {input : Dict Value}
    {context : Option (Dict Value)} {e : Event} (h : e ∈ form.events mode input context) :
    e.Genuine form input context := by
  obtain ⟨t, ht, he⟩ := List.mem_flatMap.mp h
  obtain ⟨hvisit, seen, hevents⟩ := exists_of_mem_visitTraces ht
  rw [hevents, Visit.events_eq] at he
  split_ifs at he with hc hu
  · obtain ⟨v, hv, rfl⟩ := List.mem_map.mp he
    exact ⟨Option.mem_toList.mp hv, t.1, hvisit, rfl, List.isEmpty_iff.mp hc⟩
  · cases he
  · obtain ⟨r, hr, values, v, rfl⟩ := exists_of_mem_chainEvents he
    exact ⟨rfl, t.1, hvisit, rfl, hr⟩

/-- A visit is of a field at its name, or of a wildcard at a key of the input. -/
lemma Form.exists_field_of_mem_visits {form : Form} {input : Dict Value} {visit : Visit}
    (h : visit ∈ form.visits input) :
    (∃ f ∈ form.fields, f.isWildcard = false ∧ f.name = visit.key) ∨
      form.hasWildcard = true ∧ visit.key ∈ (form.sanitized input).keys := by
  obtain ⟨f, hf, hvisit⟩ := List.mem_flatMap.mp h
  obtain ⟨key, hkey, rfl⟩ := List.mem_map.mp hvisit
  cases hw : f.isWildcard with
  | false =>
    rw [hw] at hkey
    exact Or.inl ⟨f, hf, hw, (List.mem_singleton.mp hkey).symm⟩
  | true =>
    rw [hw] at hkey
    exact Or.inr ⟨List.any_eq_true.mpr ⟨f, hf, hw⟩, hkey⟩

/-! ### The output -/

/-- The output of a form without transforms is what its trace stores. -/
theorem Form.eq_replay_of_run_eq_ok {form : Form} (htransforms : form.transforms = [])
    {mode : RunMode} {input : Dict Value} {context : Option (Dict Value)} {values : Dict Value}
    (h : form.run mode input context = .ok values) :
    values = replay [] (form.events mode input context) := by
  rw [form.run_eq_finish, htransforms] at h
  simp only [finish, runTransforms, List.foldl_nil, ite_self] at h
  -- Whether errors were reported decides only if the hook runs, not what is stored.
  split_ifs at h <;> exact (Except.ok.inj h).symm

/-- The last item of a list that gives something, with the items behind it. -/
lemma exists_last_of_getLast?_filterMap {α β : Type} {f : α → Option β} {l : List α} {b : β}
    (h : (l.filterMap f).getLast? = some b) :
    ∃ before a after, l = before ++ a :: after ∧ f a = some b ∧ ∀ x ∈ after, f x = none := by
  induction l with
  | nil => cases h
  | cons x rest ih =>
    by_cases hrest : ∀ y ∈ rest, f y = none
    · have hnil : rest.filterMap f = [] := List.filterMap_eq_nil_iff.mpr hrest
      cases hx : f x with
      | none => simp [hx, hnil] at h
      | some c =>
        obtain rfl : c = b := by simpa [hx, hnil] using h
        exact ⟨[], x, rest, rfl, hx, hrest⟩
    · have hne : rest.filterMap f ≠ [] := fun hnil => hrest (List.filterMap_eq_nil_iff.mp hnil)
      have hlast : (rest.filterMap f).getLast? = some b := by
        cases hx : f x with
        | none => simpa [hx] using h
        | some c =>
          obtain ⟨y, ys, hys⟩ := List.exists_cons_of_ne_nil hne
          rwa [List.filterMap_cons_some hx, hys, List.getLast?_cons_cons, ← hys] at h
      obtain ⟨before, a, after, rfl, ha, hafter⟩ := ih hlast
      exact ⟨x :: before, a, after, rfl, ha, hafter⟩

/-- Null is stored only by copying. -/
lemma Event.eq_copied_of_writeAt?_eq_null {e : Event} {key : String}
    (h : e.writeAt? key = some .null) : e = .copied key .null := by
  unfold writeAt? at h
  split_ifs at h with hk
  cases e with
  | copied k v =>
    obtain rfl : v = .null := by simpa [write?] using h
    obtain rfl : k = key := hk
    rfl
  | ran k r values v result =>
    cases result with
    | error x => cases h
    | ok w =>
      simp only [write?] at h
      split_ifs at h with hw
      obtain rfl : w = .null := by simpa using h
      exact absurd rfl hw

/-! ### Undeclared input -/

/-- A visit sees nothing of the input but the value under its key. -/
lemma visitTraces_congr {mode : RunMode} {context : Option (Dict Value)} {input other : Dict Value}
    {visits : List Visit} (values : Dict Value)
    (h : ∀ visit ∈ visits, other.find? visit.key = input.find? visit.key) :
    visitTraces mode context other visits values =
      visitTraces mode context input visits values := by
  induction visits generalizing values with
  | nil => rfl
  | cons visit rest ih =>
    have hevents : visit.events mode context other values =
        visit.events mode context input values := by
      simp only [Visit.events, h visit (by simp)]
    rw [visitTraces, visitTraces, hevents, ih _ fun x hx => h x (List.mem_cons_of_mem _ hx)]

/-- Without a wildcard, what happens depends on the values under declared keys only. -/
theorem Form.events_congr {form : Form} (hwildcard : form.hasWildcard = false) (mode : RunMode)
    {input other : Dict Value} (context : Option (Dict Value))
    (h : ∀ f ∈ form.fields,
      (form.sanitized other).find? f.name = (form.sanitized input).find? f.name) :
    form.events mode other context = form.events mode input context := by
  have hvisits : form.visits other = form.visits input := by
    refine List.flatMap_congr fun f hf => ?_
    have hw : f.isWildcard = false := by simpa using List.any_eq_false.mp hwildcard f hf
    simp [Field.visits, hw]
  rw [Form.events, Form.events, Form.traces, Form.traces, hvisits, visitTraces_congr []]
  intro visit hvisit
  rcases Form.exists_field_of_mem_visits hvisit with ⟨f, hf, -, hname⟩ | ⟨hw, -⟩
  · rw [← hname]
    exact h f hf
  · rw [hwildcard] at hw
    cases hw

/-! ### Provenance -/

/-- **Every validated value has a known origin.** In the output of a form without transforms, every
key is the name of a field or, if there is a wildcard, a key of the input; the value under a key is
the last one that an event at this key stored, and the events are genuine: results of rules other
than null, and copies of raw values; null is there only as a copy; and without a wildcard, input
under undeclared keys makes no difference to the output.

**Proof sketch.** The output is what the trace stores (`Form.eq_replay_of_run_eq_ok`), so what it
holds under a key is the last thing stored there (`find?_replay`), by an event of a visit at that
key. Of the events only copies store null, and without a wildcard no event looks at an undeclared
key (`Form.events_congr`). -/
theorem Form.values_provenance (form : Form) (htransforms : form.transforms = []) (mode : RunMode)
    (input : Dict Value) (context : Option (Dict Value)) (values : Dict Value)
    (hrun : form.run mode input context = .ok values) :
    (∀ e ∈ form.events mode input context, e.Genuine form input context) ∧
    (∀ key ∈ values.keys,
      (∃ f ∈ form.fields, f.isWildcard = false ∧ f.name = key) ∨
        form.hasWildcard = true ∧ key ∈ (form.sanitized input).keys) ∧
    (∀ key, values.find? key =
      ((form.events mode input context).filterMap (Event.writeAt? key)).getLast?) ∧
    (∀ key, values.find? key = some .null →
      ∃ before after, form.events mode input context = before ++ .copied key .null :: after ∧
        ∀ e ∈ after, e.writeAt? key = none) ∧
    (form.hasWildcard = false → ∀ (other output : Dict Value),
      (∀ f ∈ form.fields,
        (form.sanitized other).find? f.name = (form.sanitized input).find? f.name) →
      form.run mode other context = .ok output → output = values) := by
  have hvalues := Form.eq_replay_of_run_eq_ok htransforms hrun
  have hlast : ∀ key, values.find? key =
      ((form.events mode input context).filterMap (Event.writeAt? key)).getLast? := by
    intro key
    rw [hvalues, find?_replay]
    simp
  refine ⟨fun e he => Form.genuine_of_mem_events he, fun key hkey => ?_, hlast, fun key hnull => ?_,
    fun hwildcard other output hsame hother => ?_⟩
  · obtain ⟨v, hv⟩ := Dict.exists_find?_of_mem_keys hkey
    rw [hlast key] at hv
    obtain ⟨before, e, after, hevents, he, -⟩ := exists_last_of_getLast?_filterMap hv
    have hmem : e ∈ form.events mode input context := by simp [hevents]
    have hkey' : e.key = key := by
      unfold Event.writeAt? at he
      split_ifs at he with hk
      exact hk
    have hvisited : ∃ visit ∈ form.visits input, visit.key = e.key := by
      cases e with
      | ran k r seen w result =>
        obtain ⟨-, visit, hvisit, hk, -⟩ := Form.genuine_of_mem_events hmem
        exact ⟨visit, hvisit, hk⟩
      | copied k w =>
        obtain ⟨-, visit, hvisit, hk, -⟩ := Form.genuine_of_mem_events hmem
        exact ⟨visit, hvisit, hk⟩
    obtain ⟨visit, hvisit, hk⟩ := hvisited
    rw [← hkey', ← hk]
    exact Form.exists_field_of_mem_visits hvisit
  · rw [hlast key] at hnull
    obtain ⟨before, e, after, hevents, he, hafter⟩ := exists_last_of_getLast?_filterMap hnull
    obtain rfl := Event.eq_copied_of_writeAt?_eq_null he
    exact ⟨before, after, hevents, hafter⟩
  · rw [Form.eq_replay_of_run_eq_ok htransforms hother, hvalues,
      Form.events_congr hwildcard mode context hsame]

/-- A null that a field without rules copied stands in the output as this copy. -/
theorem Form.copied_null_provenance :
    let form := Form.new [.new "count" [.orDefault (.int 3), .integer .plain], .new "note" []]
    let input : Dict Value := [("note", .null), ("extra", .bool true)]
    form.run .full input none = .ok [("count", .int 3), ("note", .null)] ∧
      ∃ before after, form.events .full input none = before ++ .copied "note" .null :: after ∧
        ∀ e ∈ after, e.writeAt? "note" = none :=
  ⟨by rfl, (Form.values_provenance _ rfl .full _ none _ (by rfl)).2.2.2.1 "note" (by rfl)⟩

end Intake
