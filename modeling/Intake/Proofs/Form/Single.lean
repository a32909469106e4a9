import Intake.Proofs.Form.Chains
import Intake.Proofs.Form.Failures

set_option autoImplicit false

/-!
# Forms of a single field

The examples of a field are judged by its chain alone, while no value is stored. A form that has the
field and nothing else runs the same chain, but stores what each rule gives under the name of the
field, where the next rule sees it. So the two agree on every value if no rule behind the first one
notices that its own value is stored, and may differ if one does, as a switch on the name of its own
field.

## Main definitions

* `Rule.OverlooksOwn` — a rule judges its value alike whether or not it is stored under a key.

## Main results

* `Form.validate_single_iff` — a form of a single field passes when nothing in its visit is
  rejected.
* `Field.judges_example_iff` — examples are judged as the form of the field judges them.
* `Field.not_judges_example` — a switch on its own field is judged in another way.
-/

namespace Intake

/-- A rule judges a value alike when it is stored under a key and when nothing is stored. -/
def Rule.OverlooksOwn (key : String) (r : Rule) : Prop :=
  ∀ v, r.check [(key, v)] none v = r.check [] none v

/-- A form of a single field passes an input when the visit of the field ends in no rejection. -/
lemma Form.validate_single_iff {f : Field} (hname : f.isWildcard = false) (input : Dict Value) :
    (∃ values, (Form.new [f]).validate input = .ok values) ↔
      rejection? (Visit.events ⟨f.name, f.chain⟩ .full none input []) = none := by
  have hvisits : (Form.new [f]).visits input = [⟨f.name, f.chain⟩] := by
    simp [Form.visits, Form.new, Field.visits, hname]
  have hfailures : (Form.new [f]).failures .full input none =
      ((rejection? (Visit.events ⟨f.name, f.chain⟩ .full none input [])).map
        fun r => (⟨f.name, f.chain⟩, r)).toList := by
    rw [Form.failures, Form.traces, hvisits]
    show endings [(⟨f.name, f.chain⟩, Visit.events ⟨f.name, f.chain⟩ .full none input [])] = _
    cases h : rejection? (Visit.events ⟨f.name, f.chain⟩ .full none input []) <;>
      simp [endings, h]
  have hunexpected : (Form.new [f]).unexpected input = [] := rfl
  rw [Form.validate, Form.run_eq_finish, hunexpected, hfailures]
  cases rejection? (Visit.events ⟨f.name, f.chain⟩ .full none input []) with
  | none => simp [Form.new, reportAll, Form.finish_of_no_errors]
  | some r =>
    have herrors : Progress.errors ⟨replay [] ((Form.new [f]).events .full input none),
        reportAll [] [failureReport (⟨f.name, f.chain⟩, r)]⟩ ≠ [] :=
      FieldErrors.reportAll_ne_nil (Or.inr (List.cons_ne_nil _ _))
    simp [Form.finish_of_errors _ _ _ _ herrors]

/-- A chain whose rules overlook their own values ends in no rejection, storing what they give, when
it gives a value while nothing is stored.

**Proof sketch.** Induction on the chain, for the values before it: they are empty or hold the value
on which the chain runs, and so they hold the result of the first rule alone behind it. -/
lemma rejection?_chainEvents_iff {key : String} {chain : List Rule}
    (hrest : ∀ r ∈ chain.tail, r.OverlooksOwn key) {values : Dict Value} {v : Value}
    (hfirst : ∀ r ∈ chain.head?, r.check values none v = r.check [] none v)
    (hvalues : ∀ w, values.insert key w = [(key, w)]) :
    rejection? (chainEvents key .full none chain values v) = none ↔
      ∃ w, runChain chain [] none v = .ok w := by
  induction chain generalizing values v with
  | nil => simp [chainEvents, runChain]
  | cons r rest ih =>
    rw [chainEvents_full_cons, runChain_cons, hfirst r rfl]
    cases r.check [] none v with
    | error e => simp [rejection?, Event.rejection?]
    | ok w =>
      dsimp only
      rw [rejection?_cons (by rfl)]
      split_ifs with hw
      · simp
      · rw [hvalues w]
        refine ih (fun s hs => hrest s (List.mem_of_mem_tail hs)) (fun s hs => ?_) fun x => ?_
        · exact hrest s (List.mem_of_mem_head? hs) w
        · simp [Dict.insert]

namespace Field

/-- **Examples of a field are judged as the form of the field judges them** if no rule of its chain
behind the first one notices that its own value is stored under the name of the field. The chain by
itself, while nothing is stored, then gives a value exactly when the form that has nothing but the
field passes the input that has nothing but the value under its name.

**Proof sketch.** The form passes when its only visit ends in no rejection
(`Form.validate_single_iff`). Without rules the value is copied; otherwise the rules run as in the
chain by itself (`rejection?_chainEvents_iff`). -/
theorem judges_example_iff (f : Field) (hname : f.isWildcard = false)
    (hrest : ∀ r ∈ f.chain.tail, r.OverlooksOwn f.name) (v : Value) :
    (∃ w, runChain f.chain [] none v = .ok w) ↔
      ∃ values, (Form.new [f]).validate [(f.name, v)] = .ok values := by
  have hraw : Dict.find? [(f.name, v)] f.name = some v := by simp [Dict.find?]
  rw [Form.validate_single_iff hname, Visit.events]
  dsimp only
  rw [hraw]
  by_cases hchain : f.chain.isEmpty
  · obtain hnil : f.chain = [] := by simpa using hchain
    simp [hnil, runChain, rejection?, Event.rejection?]
  · rw [if_neg hchain]
    exact (rejection?_chainEvents_iff hrest (fun _ _ => rfl) fun _ => rfl).symm

/-- A field whose last rule looks at a sibling. -/
def unitField : Field :=
  .new "unit" [.orDefault (.string "m"), .anyText,
    .switch "scale" [("log", [.oneOf ⟨[]⟩])] (some [.noneOf ⟨[.string ""]⟩]) true]

/-- A switch on another field overlooks its own value. -/
theorem unit_judges_example :
    unitField.isWildcard = false ∧ (∀ r ∈ unitField.chain.tail, r.OverlooksOwn unitField.name) ∧
      ∃ values, (Form.new [unitField]).validate [("unit", .null)] = .ok values := by
  have hrest : ∀ r ∈ unitField.chain.tail, r.OverlooksOwn unitField.name := by
    intro r hr
    rcases List.mem_pair.mp hr with rfl | rfl
    · exact fun _ => rfl
    · exact fun _ => rfl
  exact ⟨rfl, hrest, (unitField.judges_example_iff rfl hrest .null).mp ⟨.string "m", by rfl⟩⟩

/-- A field whose last rule is a switch on the field itself. -/
def kindField : Field := .new "kind" [.anyText, .switch "kind" [("a", [])] none true]

/-- The form of the field passes a value that its chain by itself rejects, since the switch does not
find the value that the rule before it has given. -/
theorem not_judges_example :
    ¬ ∀ (f : Field) (v : Value), f.isWildcard = false →
      ((∃ w, runChain f.chain [] none v = .ok w) ↔
        ∃ values, (Form.new [f]).validate [(f.name, v)] = .ok values) := by
  intro h
  have hform : (Form.new [kindField]).validate [("kind", .string "a")] =
      .ok [("kind", .string "a")] := by rfl
  have hchain : runChain kindField.chain [] none (.string "a") = .error (.unknownCase "") := by rfl
  obtain ⟨w, hw⟩ := (h kindField (.string "a") rfl).mpr ⟨_, hform⟩
  rw [hchain] at hw
  cases hw

end Field

end Intake
