import Intake.Form.Run
import Intake.Proofs.Value.Dict

set_option autoImplicit false

/-!
# What happens while the fields of a form run

A form visits its fields in order, each at its name or, for a wildcard, at every key of the
sanitized input. A visit either copies a raw value or runs the rules of a chain, one after another.
The trace of a form writes down everything that happens in this way, and its run is read off the
trace: the values are what the trace stores, and the errors are the rejections that end a visit.

## Main definitions

* `Visit`, `Form.visits` — a field at a key, and all visits of a form in order.
* `Form.unexpected` — the keys that a strict form does not expect.
* `Event`, `Form.traces`, `Form.events` — what happens, visit by visit and altogether.
* `Event.write?`, `replay` — what an event stores, and the values that a trace leaves behind.
* `rejection?`, `Form.failures` — the rejection that ends a visit, and those of all visits.

## Main results

* `chainEvents_update` — the test that an update makes before each rule is decided by the value from
  which a chain starts.
* `Rule.runSteps_eq`, `Field.runAll_eq_foldl` — a chain and the fields of a form, by their traces.
* `Form.run_eq_finish` — a form finishes with what its trace stores and reports.
* `find?_replay` — the value left under a key is the last one stored there.

## Design

A trace holds every rule that ran with the values that it saw, so that statements on a run can speak
of single rules without mentioning the state of the run.
-/

namespace Intake

/-- A field at a key of the input. -/
structure Visit where
  key : String
  chain : List Rule

/-- One thing that happens while the fields of a form run. -/
inductive Event where
  /-- A rule ran on a value at a key, while some values were stored. -/
  | ran (key : String) (rule : Rule) (values : Dict Value) (input : Value)
      (result : Except Rejection Value)
  /-- A raw value was copied. -/
  | copied (key : String) (value : Value)

namespace Event

/-- The key at which an event happens. -/
def key : Event → String
  | .ran key _ _ _ _ => key
  | .copied key _ => key

/-- What an event stores under its key: a rule stores a result that is not null. -/
def write? : Event → Option Value
  | .ran _ _ _ _ (.ok v) => if v.isNull then none else some v
  | .ran _ _ _ _ (.error _) => none
  | .copied _ v => some v

/-- The rejection that an event is. -/
def rejection? : Event → Option Rejection
  | .ran _ _ _ _ (.error r) => some r
  | _ => none

/-- What an event stores under a given key. -/
def writeAt? (key : String) (e : Event) : Option Value := if e.key = key then e.write? else none

/-- The values after an event. -/
def apply (values : Dict Value) (e : Event) : Dict Value :=
  match e.write? with
  | some v => values.insert e.key v
  | none => values

end Event

/-- The values after some events. -/
def replay (values : Dict Value) (events : List Event) : Dict Value :=
  events.foldl Event.apply values

/-- The rejection that ends some events. -/
def rejection? (events : List Event) : Option Rejection := events.getLast?.bind Event.rejection?

/-- What happens when a chain runs on a value at a key: its rules run until one rejects the value
or gives null. An update skips a rule that would run on null. -/
def chainEvents (key : String) (mode : RunMode) (context : Option (Dict Value)) :
    List Rule → Dict Value → Value → List Event
  | [], _, _ => []
  | r :: rest, values, v =>
    if mode = .update ∧ v.isNull then chainEvents key mode context rest values v
    else
      .ran key r values v (r.check values context v) ::
        match r.check values context v with
        | .error _ => []
        | .ok w =>
          if w.isNull then [] else chainEvents key mode context rest (values.insert key w) w

/-- What happens in a visit: without rules the raw value is copied, and else the chain runs on it,
where an absent value counts as null. -/
def Visit.events (visit : Visit) (mode : RunMode) (context : Option (Dict Value))
    (input values : Dict Value) : List Event :=
  if visit.chain.isEmpty then
    (input.find? visit.key).toList.map (Event.copied visit.key)
  else
    chainEvents visit.key mode context visit.chain values ((input.find? visit.key).getD .null)

/-- What happens in some visits, one after another. -/
def visitTraces (mode : RunMode) (context : Option (Dict Value)) (input : Dict Value) :
    List Visit → Dict Value → List (Visit × List Event)
  | [], _ => []
  | visit :: rest, values =>
    (visit, visit.events mode context input values) ::
      visitTraces mode context input rest
        (replay values (visit.events mode context input values))

/-- The visits whose chain ended in a rejection, with the rejections, in order. -/
def endings (traces : List (Visit × List Event)) : List (Visit × Rejection) :=
  traces.filterMap fun t => (rejection? t.2).map fun r => (t.1, r)

/-- The visits of a field. -/
def Field.visits (f : Field) (input : Dict Value) : List Visit :=
  (if f.isWildcard then input.keys else [f.name]).map fun key => ⟨key, f.chain⟩

namespace Form

/-- The input as a form reads it. -/
def sanitized (form : Form) (input : Dict Value) : Dict Value := sanitize form.sanitizeKeys input

/-- The visits of a form: its fields in order, each at its name or at every key of the input. -/
def visits (form : Form) (input : Dict Value) : List Visit :=
  form.fields.flatMap fun f => f.visits (form.sanitized input)

/-- What happens in the visits of a form. -/
def traces (form : Form) (mode : RunMode) (input : Dict Value) (context : Option (Dict Value)) :
    List (Visit × List Event) :=
  visitTraces mode context (form.sanitized input) (form.visits input) []

/-- Everything that happens while the fields of a form run. -/
def events (form : Form) (mode : RunMode) (input : Dict Value) (context : Option (Dict Value)) :
    List Event :=
  (form.traces mode input context).flatMap Prod.snd

/-- The failed visits of a form. -/
def failures (form : Form) (mode : RunMode) (input : Dict Value) (context : Option (Dict Value)) :
    List (Visit × Rejection) :=
  endings (form.traces mode input context)

/-- The keys of the input that a strict form does not expect: those that no field names, unless a
wildcard takes them. -/
def unexpected (form : Form) (input : Dict Value) : List String :=
  if form.strict && !form.hasWildcard then
    (form.sanitized input).keys.filter fun key => !form.declares key
  else []

end Form

/-! ### Replaying -/

@[simp] lemma replay_nil (values : Dict Value) : replay values [] = values := rfl

@[simp] lemma replay_cons (values : Dict Value) (e : Event) (events : List Event) :
    replay values (e :: events) = replay (e.apply values) events := rfl

@[simp] lemma replay_append (values : Dict Value) (events more : List Event) :
    replay values (events ++ more) = replay (replay values events) more :=
  List.foldl_append

/-- An event changes the value under its own key only. -/
lemma Event.find?_apply (e : Event) (values : Dict Value) (key : String) :
    (e.apply values).find? key = (e.writeAt? key).or (values.find? key) := by
  cases hw : e.write? with
  | none => simp [apply, writeAt?, hw]
  | some v =>
    by_cases hk : e.key = key
    · simp [apply, writeAt?, hw, hk, Dict.find?_insert]
    · simp [apply, writeAt?, hw, hk, Ne.symm hk, Dict.find?_insert]

/-- The value left under a key is the last one stored there. -/
theorem find?_replay (values : Dict Value) (events : List Event) (key : String) :
    (replay values events).find? key =
      ((events.filterMap (Event.writeAt? key)).getLast?).or (values.find? key) := by
  induction events generalizing values with
  | nil => simp
  | cons e rest ih =>
    rw [replay_cons, ih, e.find?_apply]
    cases hw : e.writeAt? key with
    | none => simp [hw]
    | some v =>
      rw [List.filterMap_cons_some hw, List.getLast?_cons]
      cases (rest.filterMap (Event.writeAt? key)).getLast? <;> simp

/-- Replaying repeats no key. -/
lemma distinct_replay {values : Dict Value} (h : values.Distinct) (events : List Event) :
    (replay values events).Distinct := by
  induction events generalizing values with
  | nil => exact h
  | cons e rest ih =>
    refine ih ?_
    unfold Event.apply
    split
    · exact h.insert _ _
    · exact h

/-! ### Rejections -/

@[simp] lemma rejection?_nil : rejection? [] = none := rfl

/-- A rejection ends what a chain does: an event before others is none. -/
lemma rejection?_cons {e : Event} (h : e.rejection? = none) (events : List Event) :
    rejection? (e :: events) = rejection? events := by
  cases events with
  | nil => simp [rejection?, h]
  | cons x rest => simp [rejection?, List.getLast?_cons_cons]

/-! ### Chains and visits -/

/-- The errors after a visit: one more if it ended in a rejection. -/
def reportEnd (errors : FieldErrors) (key : String) (rejection : Option Rejection) : FieldErrors :=
  match rejection with
  | some r => FieldErrors.add errors key r.toFieldError
  | none => errors

/-- In a full run the first rule of a chain runs. -/
@[simp] lemma chainEvents_full_cons (key : String) (context : Option (Dict Value)) (r : Rule)
    (rest : List Rule) (values : Dict Value) (v : Value) :
    chainEvents key .full context (r :: rest) values v =
      .ran key r values v (r.check values context v) ::
        match r.check values context v with
        | .error _ => []
        | .ok w =>
          if w.isNull then [] else chainEvents key .full context rest (values.insert key w) w := by
  simp [chainEvents]

/-- **The value that a chain starts from decides what an update skips.** On null it skips every
rule, and on any other value none: a later rule runs on the result of the rule before it, and null
has ended the chain by then.

**Proof sketch.** Induction on the chain. On null the first rule is skipped, and the rest starts
from null again. Otherwise the first rule runs in both modes, and when the rest is reached, it
starts from a value that is not null. -/
theorem chainEvents_update (key : String) (context : Option (Dict Value)) (chain : List Rule)
    (values : Dict Value) (v : Value) :
    chainEvents key .update context chain values v =
      if v.isNull then [] else chainEvents key .full context chain values v := by
  induction chain generalizing values v with
  | nil => simp [chainEvents]
  | cons r rest ih =>
    by_cases hv : v.isNull
    · rw [chainEvents, if_pos ⟨rfl, hv⟩, ih, if_pos hv, if_pos hv]
    · rw [chainEvents, if_neg fun h => hv h.2, if_neg hv, chainEvents_full_cons]
      cases r.check values context v with
      | error e => rfl
      | ok w =>
        dsimp only
        rw [ih]
        split_ifs <;> rfl

/-- What happens in a visit, with the test of an update made once: it passes over an absent or null
value. -/
lemma Visit.events_eq (visit : Visit) (mode : RunMode) (context : Option (Dict Value))
    (input values : Dict Value) :
    visit.events mode context input values =
      if visit.chain.isEmpty then (input.find? visit.key).toList.map (Event.copied visit.key)
      else if mode = .update ∧ ((input.find? visit.key).getD .null).isNull then []
      else chainEvents visit.key .full context visit.chain values
        ((input.find? visit.key).getD .null) := by
  cases mode with
  | full => simp [events]
  | update => simp [events, chainEvents_update]

/-- A rule that an update skips leaves behind what it finds; null and rejections end a chain. -/
lemma Rule.runSteps_cons (r : Rule) (rest : List Rule) (mode : RunMode) (key : String)
    (context : Option (Dict Value)) (p : Progress) (v : Value) :
    Rule.runSteps (r :: rest) mode key context p v =
      if mode = .update ∧ v.isNull then Rule.runSteps rest mode key context p v
      else
        match r.check p.values context v with
        | .error e => p.report key e
        | .ok w =>
          if w.isNull then p else Rule.runSteps rest mode key context (p.store key w) w := by
  simp only [Rule.runSteps]
  cases r.check p.values context v with
  | error e => rfl
  | ok w => cases w <;> rfl

/-- In a full run the first rule of a chain runs. -/
lemma Rule.runSteps_full_cons (r : Rule) (rest : List Rule) (key : String)
    (context : Option (Dict Value)) (p : Progress) (v : Value) :
    Rule.runSteps (r :: rest) .full key context p v =
      match r.check p.values context v with
      | .error e => p.report key e
      | .ok w =>
        if w.isNull then p else Rule.runSteps rest .full key context (p.store key w) w := by
  rw [Rule.runSteps_cons, if_neg (by simp)]

/-- A chain leaves behind what its events store, and reports the rejection that ends them.

**Proof sketch.** Induction on the chain. A rule that is skipped does nothing. A rejection ends the
chain with one event and one report; null ends it with an event that stores nothing; any other
result is stored, where the rest of the chain sees it. -/
theorem Rule.runSteps_eq (mode : RunMode) (key : String) (context : Option (Dict Value))
    (chain : List Rule) (p : Progress) (v : Value) :
    Rule.runSteps chain mode key context p v =
      ⟨replay p.values (chainEvents key mode context chain p.values v),
        reportEnd p.errors key
          (rejection? (chainEvents key mode context chain p.values v))⟩ := by
  induction chain generalizing p v with
  | nil => rfl
  | cons r rest ih =>
    rw [Rule.runSteps_cons, chainEvents]
    by_cases hskip : mode = .update ∧ v.isNull
    · rw [if_pos hskip, if_pos hskip, ih]
    · rw [if_neg hskip, if_neg hskip]
      cases r.check p.values context v with
      | error e => rfl
      | ok w =>
        dsimp only
        split_ifs with hw
        · simp [Event.apply, Event.write?, rejection?, Event.rejection?, reportEnd, hw]
        · rw [ih (p.store key w) w, replay_cons, rejection?_cons (by rfl)]
          simp [Progress.store, Event.apply, Event.write?, Event.key, hw]

/-- A field at a key of the input, from what is found so far. -/
def Visit.run (visit : Visit) (mode : RunMode) (context : Option (Dict Value)) (input : Dict Value)
    (p : Progress) : Progress :=
  ⟨replay p.values (visit.events mode context input p.values),
    reportEnd p.errors visit.key (rejection? (visit.events mode context input p.values))⟩

/-- Fields run by their visits. -/
theorem Field.runAll_eq_foldl (fields : List Field) (mode : RunMode)
    (context : Option (Dict Value)) (input : Dict Value) (p : Progress) :
    Field.runAll fields mode context input p =
      (fields.flatMap fun f => f.visits input).foldl
        (fun p visit => visit.run mode context input p) p := by
  induction fields generalizing p with
  | nil => rfl
  | cons f rest ih =>
    obtain ⟨name, chain, examples⟩ := f
    simp only [Field.runAll, List.flatMap_cons, List.foldl_append, ih]
    congr 1
    simp only [Field.visits, List.foldl_map, visitedKeys, Field.isWildcard]
    congr 1
    funext p key
    by_cases hc : chain.isEmpty
    · simp only [hc, if_true, copyRaw, Visit.run, Visit.events]
      cases input.find? key <;>
        simp [Progress.store, Event.apply, Event.write?, Event.key, rejection?, Event.rejection?,
          reportEnd]
    · simp only [hc, Bool.false_eq_true, if_false, Visit.run, Visit.events]
      exact Rule.runSteps_eq mode key context chain p _

/-! ### Forms -/

/-- Reports errors under keys, one after another. -/
def reportAll (errors : FieldErrors) (reports : List (String × FieldError)) : FieldErrors :=
  reports.foldl (fun errors r => FieldErrors.add errors r.1 r.2) errors

@[simp] lemma reportAll_append (errors : FieldErrors) (reports more : List (String × FieldError)) :
    reportAll errors (reports ++ more) = reportAll (reportAll errors reports) more :=
  List.foldl_append

/-- A rejection at a visit as a report. -/
def failureReport (failure : Visit × Rejection) : String × FieldError :=
  (failure.1.key, failure.2.toFieldError)

/-- Visits leave behind what their traces store, and report the rejections that end them. -/
lemma foldl_run_eq (mode : RunMode) (context : Option (Dict Value)) (input : Dict Value)
    (visits : List Visit) (p : Progress) :
    visits.foldl (fun p visit => visit.run mode context input p) p =
      ⟨replay p.values ((visitTraces mode context input visits p.values).flatMap Prod.snd),
        reportAll p.errors
          ((endings (visitTraces mode context input visits p.values)).map failureReport)⟩ := by
  induction visits generalizing p with
  | nil => rfl
  | cons visit rest ih =>
    rw [List.foldl_cons, ih]
    simp only [visitTraces, List.flatMap_cons, replay_append, endings, List.filterMap_cons,
      Visit.run]
    cases rejection? (visit.events mode context input p.values) with
    | none => simp [reportEnd]
    | some r => simp [reportEnd, reportAll, failureReport]

/-- The keys that a form reports as unknown are those that it does not expect. -/
lemma Form.unexpectedKeys_eq (form : Form) (input : Dict Value) :
    unexpectedKeys form.strict (form.fields.map Field.name) (form.sanitized input) =
      form.unexpected input := by
  have hcontains : ∀ key, (form.fields.map Field.name).contains key = form.declares key := by
    intro key
    rw [List.contains_eq_any_beq, List.any_map, Form.declares]
    congr 1
    funext f
    exact BEq.comm
  simp only [unexpectedKeys, Form.unexpected, hcontains]
  rfl

/-- A form finishes with what its trace stores and with a report of each failed visit. -/
theorem Form.run_eq_finish (form : Form) (mode : RunMode) (input : Dict Value)
    (context : Option (Dict Value)) :
    form.run mode input context =
      finish form.errorMessage form.transforms form.hook (form.unexpected input)
        ⟨replay [] (form.events mode input context),
          reportAll [] ((form.failures mode input context).map failureReport)⟩ := by
  rw [← Form.unexpectedKeys_eq]
  obtain ⟨fields, strict, sanitizeKeys, errorMsg, name, examples, transforms, hook⟩ := form
  simp only [Form.run, Field.runAll_eq_foldl, foldl_run_eq]
  rfl

end Intake
