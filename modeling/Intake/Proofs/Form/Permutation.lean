import Intake.Proofs.Form.Parts
import Intake.Proofs.Form.Provenance
import Mathlib.Data.List.Perm.Basic

set_option autoImplicit false

/-!
# Fields that read no siblings commute

The visits of closed fields do not affect one another: what happens in a visit depends on the input
alone, apart from the values that its rules could have seen. So fields under distinct names can be
put in any order. The values and the errors of the form are the same under each key.

## Main definitions

* `Event.forget`, `Visit.eventsAlone` — what happens, without the values that were there to see.
* `SameVerdict` — two results with the same values, or the same message and the same errors, under
  each key.

## Main results

* `visitTraces_of_closed` — visits of closed fields do not affect one another.
* `Form.filterMap_writeAt?_events`, `Form.failureReports_of_closed` — what a form of closed fields
  stores and reports under a key comes from the visits at that key.
* `Form.run_perm` — a form with permuted fields gives the same verdict.
-/

namespace Intake

/-! ### Closed visits -/

/-- An event without the values that the rule could see. -/
def Event.forget : Event → Event
  | .ran key r _ v result => .ran key r [] v result
  | .copied key v => .copied key v

@[simp] lemma Event.rejection?_forget (e : Event) : e.forget.rejection? = e.rejection? := by
  cases e with
  | ran key r values v result => cases result <;> rfl
  | copied key v => rfl

@[simp] lemma Event.writeAt?_forget (key : String) (e : Event) :
    e.forget.writeAt? key = e.writeAt? key := by
  cases e with
  | ran other r values v result => cases result <;> rfl
  | copied other v => rfl

/-- The rejection that ends some events does not depend on the values seen. -/
lemma rejection?_map_forget (events : List Event) :
    rejection? (events.map Event.forget) = rejection? events := by
  rw [rejection?, rejection?, List.getLast?_map]
  cases events.getLast? <;> simp

/-- In a full run of a chain of closed rules the same happens whatever the values and the context
are. -/
lemma chainEvents_of_closed {chain : List Rule} (h : ∀ r ∈ chain, r.Closed) (key : String)
    (context other : Option (Dict Value)) (values others : Dict Value) (v : Value) :
    (chainEvents key .full context chain values v).map Event.forget =
      (chainEvents key .full other chain others v).map Event.forget := by
  induction chain generalizing values others v with
  | nil => rfl
  | cons r rest ih =>
    obtain ⟨hr, hrest⟩ := List.forall_mem_cons.mp h
    rw [chainEvents_full_cons, chainEvents_full_cons, hr values context v, hr others other v]
    cases r.check [] none v with
    | error e => rfl
    | ok w =>
      dsimp only
      split_ifs with hw
      · rfl
      · rw [List.map_cons, List.map_cons, ih hrest (values.insert key w) (others.insert key w) w]
        rfl

/-- What happens in a visit of closed rules, which need nothing but the input. -/
def Visit.eventsAlone (mode : RunMode) (input : Dict Value) (visit : Visit) : List Event :=
  (visit.events mode none input []).map Event.forget

/-- A visit of closed rules sees nothing but the input. -/
lemma Visit.map_forget_events {visit : Visit} (h : ∀ r ∈ visit.chain, r.Closed) (mode : RunMode)
    (context : Option (Dict Value)) (input values : Dict Value) :
    (visit.events mode context input values).map Event.forget = visit.eventsAlone mode input := by
  rw [eventsAlone, Visit.events_eq, Visit.events_eq]
  split_ifs
  · rfl
  · rfl
  · exact chainEvents_of_closed h _ _ _ _ _ _

/-- **Visits of closed rules do not affect one another.** -/
theorem visitTraces_of_closed {visits : List Visit}
    (h : ∀ visit ∈ visits, ∀ r ∈ visit.chain, r.Closed) (mode : RunMode)
    (context : Option (Dict Value)) (input values : Dict Value) :
    (visitTraces mode context input visits values).map (fun t => (t.1, t.2.map Event.forget)) =
      visits.map fun visit => (visit, visit.eventsAlone mode input) := by
  induction visits generalizing values with
  | nil => rfl
  | cons visit rest ih =>
    obtain ⟨hvisit, hrest⟩ := List.forall_mem_cons.mp h
    rw [visitTraces, List.map_cons, List.map_cons, ih hrest,
      Visit.map_forget_events hvisit mode context input values]

/-- Everything in a visit happens at its key. -/
lemma Visit.key_of_mem_eventsAlone {visit : Visit} {mode : RunMode} {input : Dict Value} {e : Event}
    (h : e ∈ visit.eventsAlone mode input) : e.key = visit.key := by
  obtain ⟨e, he, rfl⟩ := List.mem_map.mp h
  rw [Visit.events_eq] at he
  split_ifs at he
  · obtain ⟨v, -, rfl⟩ := List.mem_map.mp he
    rfl
  · cases he
  · obtain ⟨r, -, values, v, rfl⟩ := exists_of_mem_chainEvents he
    rfl

/-! ### Forms of closed fields -/

namespace Form

variable {form : Form}

/-- The chains of visits are those of fields. -/
lemma closed_of_mem_visits (h : ∀ f ∈ form.fields, ∀ r ∈ f.chain, r.Closed) (input : Dict Value) :
    ∀ visit ∈ form.visits input, ∀ r ∈ visit.chain, r.Closed := by
  intro visit hvisit
  obtain ⟨f, hf, hvisit⟩ := List.mem_flatMap.mp hvisit
  obtain ⟨key, -, rfl⟩ := List.mem_map.mp hvisit
  exact h f hf

/-- What a form of closed fields stores under a key is what the visits at that key store. -/
theorem filterMap_writeAt?_events (h : ∀ f ∈ form.fields, ∀ r ∈ f.chain, r.Closed) (mode : RunMode)
    (input : Dict Value) (context : Option (Dict Value)) (key : String) :
    (form.events mode input context).filterMap (Event.writeAt? key) =
      ((form.visits input).filter fun visit => visit.key == key).flatMap fun visit =>
        (visit.eventsAlone mode (form.sanitized input)).filterMap (Event.writeAt? key) := by
  have hforget : (form.events mode input context).filterMap (Event.writeAt? key) =
      (((form.traces mode input context).map fun t => (t.1, t.2.map Event.forget)).flatMap
        Prod.snd).filterMap (Event.writeAt? key) := by
    simp [Form.events, List.flatMap_map, List.filterMap_flatMap, List.filterMap_map]
  rw [hforget, Form.traces, visitTraces_of_closed (closed_of_mem_visits h input),
    List.flatMap_map, List.filterMap_flatMap]
  induction form.visits input with
  | nil => rfl
  | cons visit rest ih =>
    rw [List.flatMap_cons, ih, List.filter_cons]
    split_ifs with hkey
    · rw [List.flatMap_cons]
    · have hnone : (visit.eventsAlone mode (form.sanitized input)).filterMap
          (Event.writeAt? key) = [] := by
        refine List.filterMap_eq_nil_iff.mpr fun e he => if_neg ?_
        rw [Visit.key_of_mem_eventsAlone he]
        simpa using hkey
      rw [hnone, List.nil_append]

/-- A form of closed fields reports what its visits report, each by itself. -/
theorem failureReports_of_closed (h : ∀ f ∈ form.fields, ∀ r ∈ f.chain, r.Closed) (mode : RunMode)
    (input : Dict Value) (context : Option (Dict Value)) :
    form.failureReports mode input context =
      Dict.gather Visit.key (fun visit =>
        (rejection? (visit.eventsAlone mode (form.sanitized input))).map Rejection.toFieldError)
        (form.visits input) := by
  have hforget : form.failureReports mode input context =
      ((form.traces mode input context).map fun t => (t.1, t.2.map Event.forget)).filterMap
        fun t => (rejection? t.2).map fun r => (t.1.key, r.toFieldError) := by
    simp [Form.failureReports, Form.failures, endings, failureReport, List.filterMap_map,
      List.map_filterMap, Function.comp_def, rejection?_map_forget]
  rw [hforget, Form.traces, visitTraces_of_closed (closed_of_mem_visits h input),
    List.filterMap_map, Dict.gather]
  simp [Function.comp_def]

end Form

/-! ### Permutations -/

/-- Items with distinct keys have the same items under each key in any order. -/
lemma filter_key_eq_of_perm {α : Type} {key : α → String} {items others : List α}
    (h : items.Perm others) (hkeys : (items.map key).Nodup) (k : String) :
    items.filter (fun x => key x == k) = others.filter fun x => key x == k := by
  have hfilter := h.filter fun x => key x == k
  have hone : ∀ x ∈ items.filter (fun x => key x == k), key x = k := fun x hx => by
    simpa using (List.mem_filter.mp hx).2
  have hnodup : ((items.filter fun x => key x == k).map key).Nodup :=
    hkeys.sublist (List.filter_sublist.map key)
  match items.filter (fun x => key x == k), hfilter, hone, hnodup with
  | [], hfilter, _, _ => exact (List.nil_perm.mp hfilter).symm
  | [x], hfilter, _, _ => exact List.singleton_perm.mp hfilter
  | x :: y :: rest, _, hone, hnodup =>
    obtain ⟨hx, -⟩ := List.nodup_cons.mp hnodup
    refine absurd ?_ hx
    rw [hone x (by simp), ← hone y (by simp)]
    exact List.mem_cons_self

/-- Dictionaries without repeated keys that hold the same under each key have the same entries. -/
lemma Dict.perm_of_find?_eq {α : Type} {d e : Dict α} (hd : d.Distinct) (he : e.Distinct)
    (h : ∀ key, d.find? key = e.find? key) : d.Perm e := by
  refine (List.perm_ext_iff_of_nodup (.of_map _ hd) (.of_map _ he)).mpr fun x => ?_
  constructor
  · exact fun hx => mem_of_find? (h x.1 ▸ find?_of_mem hd hx)
  · exact fun hx => mem_of_find? (h x.1 ▸ find?_of_mem he hx)

/-- Reports in different orders, with the same ones under each key, are filed the same under each
key. -/
lemma FieldErrors.Lists.find?_eq {errors others : FieldErrors}
    {reports more : List (String × FieldError)} (h : errors.Lists reports) (ho : others.Lists more)
    {key : String}
    (hkey : reports.filter (fun r => r.1 == key) = more.filter fun r => r.1 == key) :
    Dict.find? errors key = Dict.find? others key := by
  have hmem : key ∈ Dict.keys errors ↔ key ∈ Dict.keys others := by
    rw [h.keys_eq, ho.keys_eq, List.mem_eraseDups, List.mem_eraseDups]
    have hone : ∀ rs : List (String × FieldError), key ∈ rs.map Prod.fst ↔
        rs.filter (fun r => r.1 == key) ≠ [] := fun rs => by simp [List.filter_eq_nil_iff]
    rw [hone, hone, hkey]
  have hget := h.getD_find? key
  rw [hkey, ← ho.getD_find? key] at hget
  by_cases hin : key ∈ Dict.keys errors
  · obtain ⟨es, hes⟩ := Dict.exists_find?_of_mem_keys hin
    obtain ⟨os, hos⟩ := Dict.exists_find?_of_mem_keys (hmem.mp hin)
    rw [hes, hos] at hget ⊢
    exact congrArg some hget
  · rw [Dict.find?_eq_none_iff.mpr hin, Dict.find?_eq_none_iff.mpr (mt hmem.mpr hin)]

/-- Reporting repeats no key. -/
lemma distinct_reportAll {errors : FieldErrors} (h : Dict.Distinct errors)
    (reports : List (String × FieldError)) : Dict.Distinct (reportAll errors reports) := by
  induction reports generalizing errors with
  | nil => exact h
  | cons r rest ih => exact ih (h.insert _ _)

/-- Two results of a form that hold the same values under each key, or the same message and the
same errors under each key. Only the order of the keys may differ. -/
inductive SameVerdict : Except FormError (Dict Value) → Except FormError (Dict Value) → Prop
  | ok {values others : Dict Value} (perm : values.Perm others)
      (find?_eq : ∀ key, values.find? key = others.find? key) :
      SameVerdict (.ok values) (.ok others)
  | error {message : String} {errors others : FieldErrors} (perm : errors.Perm others)
      (find?_eq : ∀ key, Dict.find? errors key = Dict.find? others key) :
      SameVerdict (.error ⟨message, errors⟩) (.error ⟨message, others⟩)

namespace Form

variable {form : Form}

/-- A form without transforms and hook passes when it has nothing to report. -/
lemma run_of_no_code (form : Form) (htransforms : form.transforms = [])
    (hhook : form.hook = none) (mode : RunMode) (input : Dict Value)
    (context : Option (Dict Value)) :
    form.run mode input context =
      if form.failureReports mode input context ++ form.unexpectedReports input = [] then
        .ok (replay [] (form.events mode input context))
      else .error ⟨form.errorMessage,
        reportAll [] (form.failureReports mode input context ++ form.unexpectedReports input)⟩ := by
  rw [form.run_eq_finish, htransforms, hhook, reportAll_append]
  by_cases hfail : form.failureReports mode input context = []
  · rw [failureReports] at hfail
    rw [hfail, failureReports, hfail]
    simp [finish_of_no_errors, reportAll, unexpectedReports]
  · rw [if_neg (by simp [hfail])]
    exact finish_of_errors _ _ _ _ (FieldErrors.reportAll_ne_nil (.inr hfail))

/-- Without a wildcard every field is visited once, at its name. -/
lemma map_key_visits (h : form.hasWildcard = false) (input : Dict Value) :
    (form.visits input).map Visit.key = form.fields.map Field.name := by
  rw [visits, List.map_flatMap, ← List.flatMap_singleton' (form.fields.map Field.name),
    List.flatMap_map]
  refine List.flatMap_congr fun f hf => ?_
  have hw : f.isWildcard = false := by simpa using List.any_eq_false.mp h f hf
  simp [Field.visits, hw]

/-- The order of the fields does not decide which keys are unexpected. -/
lemma unexpected_perm {fields : List Field} (h : fields.Perm form.fields) (input : Dict Value) :
    ({ form with fields := fields } : Form).unexpected input = form.unexpected input := by
  have hdeclares : ∀ key, ({ form with fields := fields } : Form).declares key =
      form.declares key := fun key => h.any_eq
  have hwildcard : ({ form with fields := fields } : Form).hasWildcard = form.hasWildcard :=
    h.any_eq
  simp only [unexpected, hdeclares, hwildcard]
  rfl

/-- Permuted fields are visited in another order, but at the same keys. -/
lemma visits_perm {fields : List Field} (h : fields.Perm form.fields) (input : Dict Value) :
    (form.visits input).Perm (({ form with fields := fields } : Form).visits input) :=
  h.symm.flatMap_right _

section Permuted

variable {fields : List Field} (hfields : fields.Perm form.fields)
  (hclosed : ∀ f ∈ form.fields, ∀ r ∈ f.chain, r.Closed)

include hfields hclosed

/-- Closed fields under distinct names store the same under each key in any order. -/
lemma find?_replay_perm {input : Dict Value} (hkeys : ((form.visits input).map Visit.key).Nodup)
    (mode : RunMode) (context other : Option (Dict Value)) (key : String) :
    (replay [] (form.events mode input context)).find? key =
      (replay [] (({ form with fields := fields } : Form).events mode input other)).find? key := by
  have hpermuted : ∀ f ∈ ({ form with fields := fields } : Form).fields, ∀ r ∈ f.chain, r.Closed :=
    fun f hf => hclosed f (hfields.subset hf)
  rw [find?_replay, find?_replay, filterMap_writeAt?_events hclosed,
    filterMap_writeAt?_events hpermuted, filter_key_eq_of_perm (visits_perm hfields input) hkeys]
  rfl

/-- Closed fields report the same in any order. -/
lemma failureReports_perm (mode : RunMode) (input : Dict Value)
    (context other : Option (Dict Value)) :
    (form.failureReports mode input context).Perm
      (({ form with fields := fields } : Form).failureReports mode input other) := by
  have hpermuted : ∀ f ∈ ({ form with fields := fields } : Form).fields, ∀ r ∈ f.chain, r.Closed :=
    fun f hf => hclosed f (hfields.subset hf)
  rw [failureReports_of_closed hclosed, failureReports_of_closed hpermuted]
  exact (visits_perm hfields input).filterMap _

/-- What closed fields under distinct names report is filed the same under each key in any order,
whatever is reported after it. -/
lemma find?_reportAll_perm {input : Dict Value} (hkeys : ((form.visits input).map Visit.key).Nodup)
    (mode : RunMode) (context other : Option (Dict Value)) (more : List (String × FieldError))
    (key : String) :
    Dict.find? (reportAll [] (form.failureReports mode input context ++ more)) key =
      Dict.find? (reportAll []
        (({ form with fields := fields } : Form).failureReports mode input other ++ more)) key := by
  have hdistinct : ((form.failureReports mode input context).map Prod.fst).Nodup := by
    rw [failureReports_of_closed hclosed]
    exact Dict.distinct_gather hkeys
  refine (FieldErrors.lists_reportAll FieldErrors.lists_nil _).find?_eq
    (FieldErrors.lists_reportAll FieldErrors.lists_nil _) ?_
  rw [List.nil_append, List.nil_append, List.filter_append, List.filter_append,
    filter_key_eq_of_perm (failureReports_perm hfields hclosed mode input context other) hdistinct]

end Permuted

/-- **Fields that read no siblings commute.** Let a form have neither a wildcard nor transforms
nor a hook, let its fields have distinct names, and let no rule inside it, at any depth, be a
switch, a custom rule or an optional one with a generator. Then its fields can be put in any order:
on every input, in either mode and in any two contexts, both forms pass with the same value under
each key, or both fail with the same message and with the same errors under each key.

**Proof sketch.** All rules of the fields are closed (`closed_of_parts`), so what a form stores and
reports under a key comes from the visits at that key, each by itself (`filterMap_writeAt?_events`,
`failureReports_of_closed`). As keys are visited once, these visits are the same in both forms
(`find?_replay_perm`, `find?_reportAll_perm`). -/
theorem run_perm (form : Form) (hwildcard : form.hasWildcard = false)
    (htransforms : form.transforms = []) (hhook : form.hook = none)
    (hnames : (form.fields.map Field.name).Nodup) (hparts : ∀ r ∈ form.parts, r.ReadsNoSiblings)
    (fields : List Field) (hfields : fields.Perm form.fields) (mode : RunMode) (input : Dict Value)
    (context other : Option (Dict Value)) :
    SameVerdict (form.run mode input context)
      (({ form with fields := fields } : Form).run mode input other) := by
  have hclosed : ∀ f ∈ form.fields, ∀ r ∈ f.chain, r.Closed :=
    Field.closed_of_allParts form.fields (form.parts_eq ▸ hparts)
  have hkeys : ((form.visits input).map Visit.key).Nodup := by
    rwa [map_key_visits hwildcard]
  have hfind := find?_replay_perm hfields hclosed hkeys mode context other
  have herrors := find?_reportAll_perm hfields hclosed hkeys mode context other
    (form.unexpectedReports input)
  have hlength := (failureReports_perm hfields hclosed mode input context other).length_eq
  set permuted : Form := { form with fields := fields }
  have hunexpected : permuted.unexpectedReports input = form.unexpectedReports input := by
    rw [unexpectedReports, unexpectedReports, unexpected_perm hfields]
  have hnone : form.failureReports mode input context ++ form.unexpectedReports input = [] ↔
      permuted.failureReports mode input other ++ form.unexpectedReports input = [] := by
    rw [← List.length_eq_zero_iff, ← List.length_eq_zero_iff, List.length_append,
      List.length_append, hlength]
  rw [form.run_of_no_code htransforms hhook, permuted.run_of_no_code htransforms hhook,
    hunexpected]
  by_cases hpass : form.failureReports mode input context ++ form.unexpectedReports input = []
  · rw [if_pos hpass, if_pos (hnone.mp hpass)]
    exact .ok (Dict.perm_of_find?_eq (distinct_replay Dict.distinct_nil _)
      (distinct_replay Dict.distinct_nil _) hfind) hfind
  · rw [if_neg hpass, if_neg (mt hnone.mpr hpass)]
    exact .error (Dict.perm_of_find?_eq (distinct_reportAll Dict.distinct_nil _)
      (distinct_reportAll Dict.distinct_nil _) herrors) herrors

/-- Two fields that both miss a value, one of them in a form within the form, report it in either
order. -/
theorem missing_run_perm :
    let name : Field := .new "name" [.required, .anyText]
    let address : Field :=
      .new "address" [.orDefault (.map []), .ofForm (.new [.new "city" [.required]])]
    let run (fields : List Field) (context : Option (Dict Value)) :=
      (Form.new fields).run .full [("name", .null)] context
    let missing : FieldError := .message "is required"
    let inside : FieldError := .form ⟨FormError.defaultMessage, [("city", [missing])]⟩
    run [name, address] none =
        .error ⟨FormError.defaultMessage, [("name", [missing]), ("address", [inside])]⟩ ∧
      SameVerdict (run [name, address] none)
        (run [address, name] (some [("city", .string "Ghent")])) := by
  refine ⟨by rfl, run_perm _ rfl rfl rfl (by decide) ?_ _ (.swap ..) _ _ _ _⟩
  simp [Form.new, Field.new, Form.parts, Field.allParts, Rule.chainParts, Rule.parts,
    Rule.innerParts, Rule.anyText, Rule.orDefault, Rule.ofForm, Rule.ReadsNoSiblings,
    OptionalRule.withDefault]

end Form

end Intake
