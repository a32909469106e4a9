import Intake.Proofs.Form.Trace
import Mathlib.Logic.Relation

set_option autoImplicit false

/-!
# The rules that run while a form runs

The fields of a form run rules, these run the rules of their chains, and a rule for maps runs a form
again. A site is a rule at the moment when it runs, at whatever depth, with what has happened by
then in each of the forms around it.

## Main definitions

* `Rule.RunsIn`, `Rule.RunsOnTexts`, `Rule.Starts` — the rules that a rule runs on parts of its
  value, with the values and the context that it was given itself.
* `Site`, `Form.Opens`, `Site.Step` — rules at the moment when they run, and how one leads to
  another.
* `Form.Reaches` — all sites of the run of a form.

## Main results

* `Form.values_of_events_eq` — a rule sees the values that its form has stored so far.
-/

namespace Intake

/-! ### What a rule runs -/

namespace Rule

/-- A chain inside another rule runs a rule on a value: the rules before it have passed. -/
inductive RunsIn (values : Dict Value) (context : Option (Dict Value)) :
    List Rule → Value → Rule → Value → Prop where
  | head {r : Rule} {rest : List Rule} {v : Value} : RunsIn values context (r :: rest) v r v
  | tail {r s : Rule} {rest : List Rule} {v w x : Value} (hr : r.check values context v = .ok w)
    (hs : RunsIn values context rest w s x) : RunsIn values context (r :: rest) v s x

/-- A chain on texts runs a rule on a text: the rules before it have passed all texts, and the rule
has passed the texts before this one. -/
inductive RunsOnTexts (values : Dict Value) (context : Option (Dict Value)) :
    List Rule → List String → Rule → Value → Prop where
  | head {r : Rule} {rest : List Rule} {passed more : List String} {text : String}
    (hpassed : ∀ s ∈ passed, ∃ t, r.check values context (.string s) = .ok (.string t)) :
    RunsOnTexts values context (r :: rest) (passed ++ text :: more) r (.string text)
  | tail {r s : Rule} {rest : List Rule} {texts results : List String} {x : Value}
    (hr : checkTexts (r.check values context) texts = .ok results)
    (hs : RunsOnTexts values context rest results s x) :
    RunsOnTexts values context (r :: rest) texts s x

/-- A rule on a value runs another rule on a value, with the same values and context: on an item
whose predecessors have passed, on a text, in an option whose predecessors have failed, in the case
selected, or in the fallback when there is no such case. -/
inductive Starts (values : Dict Value) (context : Option (Dict Value)) :
    Rule → Value → Rule → Value → Prop where
  | item {chain : List Rule} {passed more : List Value} {item : Value} {r : Rule} {v : Value}
    (hpassed : ∀ x ∈ passed, ∃ y, checkNested chain values context x = .ok y)
    (h : RunsIn values context chain item r v) :
    Starts values context (.list chain) (.list (passed ++ item :: more)) r v
  | text {chain : List Rule} {items : List Value} {texts : List String} {r : Rule} {v : Value}
    (htexts : textsOf items = .ok texts) (h : RunsOnTexts values context chain texts r v) :
    Starts values context (.textList chain) (.list items) r v
  | option {failed more : List (List Rule)} {chain : List Rule} {w : Value} {r : Rule} {v : Value}
    (hfailed : ∀ c ∈ failed, ∃ e, checkNested c values context w = .error e)
    (h : RunsIn values context chain w r v) :
    Starts values context (.or (failed ++ chain :: more)) w r v
  | case {key name : String} {passed more : List (String × List Rule)} {chain : List Rule}
    {fallback : Option (List Rule)} {exhaustive : Bool} {w : Value} {r : Rule} {v : Value}
    (hselected : selector values key = .ok (some name)) (hpassed : ∀ c ∈ passed, c.1 ≠ name)
    (h : RunsIn values context chain w r v) :
    Starts values context (.switch key (passed ++ (name, chain) :: more) fallback exhaustive) w r v
  | fallback {key : String} {selected : Option String} {cases : List (String × List Rule)}
    {chain : List Rule} {exhaustive : Bool} {w : Value} {r : Rule} {v : Value}
    (hselected : selector values key = .ok selected) (hcases : ∀ c ∈ cases, selected ≠ some c.1)
    (h : RunsIn values context chain w r v) :
    Starts values context (.switch key cases (some chain) exhaustive) w r v

end Rule

/-! ### Sites -/

/-- A rule at the moment when it runs on a value. -/
structure Site where
  rule : Rule
  /-- What has happened by now in each of the forms around the rule, the innermost first. -/
  trail : List (List Event)
  values : Dict Value
  context : Option (Dict Value)
  input : Value

/-- A form that runs within some forms has a site for every rule that one of its fields runs. -/
def Form.Opens (form : Form) (mode : RunMode) (input : Dict Value) (context : Option (Dict Value))
    (trail : List (List Event)) (s : Site) : Prop :=
  ∃ before key result after,
    form.events mode input context =
      before ++ .ran key s.rule s.values s.input result :: after ∧
    s.trail = before :: trail ∧ s.context = context

/-- A site leads to another one: the rule runs a rule of its own, or it is a rule for maps and runs
its form. -/
inductive Site.Step : Site → Site → Prop where
  | inside {s : Site} {r : Rule} {v : Value}
    (h : Rule.Starts s.values s.context s.rule s.input r v) :
    Step s { s with rule := r, input := v }
  | enter {s t : Site} {form : Form} {shape : Option Shape} {entries : Dict Value}
    (hrule : s.rule = .map (some form) shape) (hinput : s.input = .map entries)
    (hopens : form.Opens .full entries (some (innerContext s.values s.context)) s.trail t) :
    Step s t

/-- The sites of the run of a form. -/
def Form.Reaches (form : Form) (mode : RunMode) (input : Dict Value)
    (context : Option (Dict Value)) (t : Site) : Prop :=
  ∃ s, form.Opens mode input context [] s ∧ Relation.ReflTransGen Site.Step s t

/-! ### The values that a rule sees -/

/-- Every rule among some events sees the values that the events before it have stored. -/
def Threaded (values : Dict Value) (events : List Event) : Prop :=
  ∀ before key r seen v result after,
    events = before ++ .ran key r seen v result :: after → seen = replay values before

/-- No rule ran. -/
lemma threaded_nil (values : Dict Value) : Threaded values [] := by
  intro before key r seen v result after h
  simp at h

/-- The first event sees the values at the beginning. -/
lemma Threaded.cons {values : Dict Value} {e : Event} {events : List Event}
    (he : ∀ key r seen v result, e = .ran key r seen v result → seen = values)
    (h : Threaded (e.apply values) events) : Threaded values (e :: events) := by
  intro before key r seen v result after heq
  cases before with
  | nil =>
    obtain ⟨hfirst, -⟩ := List.cons.inj heq
    exact he key r seen v result hfirst
  | cons b before =>
    obtain ⟨rfl, hrest⟩ := List.cons.inj heq
    exact h before key r seen v result after hrest

/-- Events may follow on others. -/
lemma Threaded.append {values : Dict Value} {events more : List Event}
    (h : Threaded values events) (hmore : Threaded (replay values events) more) :
    Threaded values (events ++ more) := by
  intro before key r seen v result after heq
  rcases List.append_eq_append_iff.mp heq with
    ⟨middle, hbefore, hmiddle⟩ | ⟨middle, hevents, hmiddle⟩
  · rw [hbefore, replay_append]
    exact hmore middle key r seen v result after hmiddle
  · cases middle with
    | nil =>
      have hlater := hmore [] key r seen v result after hmiddle.symm
      rw [List.append_nil] at hevents
      rw [hlater, replay_nil, hevents]
    | cons e middle =>
      obtain ⟨rfl, -⟩ := List.cons.inj hmiddle
      exact h before key r seen v result middle hevents

/-- In a full run the rules of a chain see what the rules before them have stored. -/
lemma threaded_chainEvents (key : String) (context : Option (Dict Value)) (chain : List Rule)
    (values : Dict Value) (v : Value) :
    Threaded values (chainEvents key .full context chain values v) := by
  induction chain generalizing values v with
  | nil => exact threaded_nil values
  | cons r rest ih =>
    rw [chainEvents_full_cons]
    refine .cons (fun _ _ _ _ _ h => (Event.ran.inj h).2.2.1.symm) ?_
    cases r.check values context v with
    | error e => exact threaded_nil _
    | ok w =>
      dsimp only
      split_ifs with hw
      · exact threaded_nil _
      · simpa [Event.apply, Event.write?, Event.key, hw] using ih (values.insert key w) w

/-- The rules of a visit see what has been stored before the visit, and what the rules before them
have stored in it. -/
lemma Visit.threaded_events (visit : Visit) (mode : RunMode) (context : Option (Dict Value))
    (input values : Dict Value) : Threaded values (visit.events mode context input values) := by
  rw [Visit.events_eq]
  split_ifs
  · cases input.find? visit.key with
    | none => exact threaded_nil values
    | some v =>
      refine .cons (fun _ _ _ _ _ hran => ?_) (threaded_nil _)
      cases hran
  · exact threaded_nil values
  · exact threaded_chainEvents _ _ _ _ _

/-- The rules of some visits see what has been stored before. -/
lemma threaded_visitTraces (mode : RunMode) (context : Option (Dict Value)) (input : Dict Value)
    (visits : List Visit) (values : Dict Value) :
    Threaded values ((visitTraces mode context input visits values).flatMap Prod.snd) := by
  induction visits generalizing values with
  | nil => exact threaded_nil values
  | cons visit rest ih =>
    rw [visitTraces, List.flatMap_cons]
    exact (visit.threaded_events mode context input values).append (ih _)

/-- **A rule of a field sees the values that its form has stored so far.** -/
theorem Form.values_of_events_eq {form : Form} {mode : RunMode} {input : Dict Value}
    {context : Option (Dict Value)} {before after : List Event} {key : String} {r : Rule}
    {values : Dict Value} {v : Value} {result : Except Rejection Value}
    (h : form.events mode input context = before ++ .ran key r values v result :: after) :
    values = replay [] before :=
  threaded_visitTraces mode context (form.sanitized input) (form.visits input) []
    before key r values v result after h

end Intake
