import Intake.Proofs.Form.Recode

set_option autoImplicit false

/-!
# The context that rules see

Rules inside rules are given the context of the rule around them. A rule for maps with a form puts
the values around it under a key of its own into the context of that form, in place of what stood
there before.

## Main definitions

* `contextWithin` — the context inside some forms, by what has happened in them.
* `Site.Placed` — a rule that sees the values of its form and this context.

## Main results

* `Site.Placed.step` — a rule that runs another one hands on the right context.
* `Form.placed_of_reaches` — all rules of the run of a form see the right context.
* `Form.reaches_context` — what every rule sees, at any depth.
-/

namespace Intake

/-! ### Contexts -/

/-- The values of the form around are what a form within it sees under the key for them. -/
lemma find?_innerContext_self (values : Dict Value) (context : Option (Dict Value)) :
    (innerContext values context).find? parentKey = some (.map values) :=
  Dict.find?_insert_self _ _ _

/-- Under every other key a form within a form sees the context of that form. -/
lemma find?_innerContext_of_ne (values : Dict Value) (context : Option (Dict Value)) {key : String}
    (h : key ≠ parentKey) :
    (innerContext values context).find? key = (context.getD []).find? key :=
  Dict.find?_insert_of_ne _ _ h

/-- The values of a form take the place of those of the forms around it. -/
lemma innerContext_innerContext (values outer : Dict Value) (context : Option (Dict Value)) :
    innerContext values (some (innerContext outer context)) = innerContext values context :=
  Dict.insert_insert _ _ _ _

/-- The context inside some forms, the innermost first, given what has happened in the forms around
the innermost one: it is that of the caller, beside the values of the form around. -/
def contextWithin (caller : Option (Dict Value)) : List (List Event) → Option (Dict Value)
  | [] => caller
  | around :: _ => some (innerContext (replay [] around) caller)

/-- Entering one more form puts the values of the form left behind into the context. -/
lemma innerContext_contextWithin (values : Dict Value) (caller : Option (Dict Value))
    (outer : List (List Event)) :
    innerContext values (contextWithin caller outer) = innerContext values caller := by
  cases outer with
  | nil => rfl
  | cons around outer => exact innerContext_innerContext values _ caller

/-! ### Rules in their places -/

/-- A rule sees the values that its form has stored so far, and the context inside the forms around
it. -/
structure Site.Placed (caller : Option (Dict Value)) (s : Site) : Prop where
  exists_trail : ∃ before outer, s.trail = before :: outer ∧ s.values = replay [] before ∧
    s.context = contextWithin caller outer

/-- The rules of the fields of a form are placed in it. -/
lemma Form.Opens.placed {form : Form} {mode : RunMode} {input : Dict Value}
    {caller : Option (Dict Value)} {outer : List (List Event)} {s : Site}
    (h : form.Opens mode input (contextWithin caller outer) outer s) : s.Placed caller := by
  obtain ⟨before, key, result, after, hevents, htrail, hcontext⟩ := h
  exact ⟨before, outer, htrail, Form.values_of_events_eq hevents, hcontext⟩

/-- **A rule in its place runs other rules in theirs.** -/
theorem Site.Placed.step {caller : Option (Dict Value)} {s t : Site} (h : s.Placed caller)
    (hstep : s.Step t) : t.Placed caller := by
  obtain ⟨before, outer, htrail, hvalues, hcontext⟩ := h
  cases hstep with
  | inside _ => exact ⟨before, outer, htrail, hvalues, hcontext⟩
  | enter hrule hinput hopens =>
    have hinner :
        some (innerContext s.values s.context) = contextWithin caller (before :: outer) := by
      rw [hcontext, innerContext_contextWithin, hvalues]
      rfl
    rw [hinner, htrail] at hopens
    exact hopens.placed

/-- **All rules that run while a form runs are in their places.** -/
theorem Form.placed_of_reaches {form : Form} {mode : RunMode} {input : Dict Value}
    {caller : Option (Dict Value)} {t : Site} (h : form.Reaches mode input caller t) :
    t.Placed caller := by
  obtain ⟨s, hs, hsteps⟩ := h
  induction hsteps with
  | refl =>
    have hopens : form.Opens mode input (contextWithin caller []) [] s := hs
    exact hopens.placed
  | tail _ hstep ih => exact ih.step hstep

/-! ### What every rule sees -/

/-- What a rule sees in the run of a form, given the context of the caller: the values stored so far
in its own form; and outside of inner forms the context of the caller, inside of them a context that
holds the values stored so far in the form around under the key for them, and the context of the
caller under all other keys. -/
def Site.SeesContext (caller : Option (Dict Value)) (s : Site) : Prop :=
  match s.trail with
  | [] => False
  | [before] => s.values = replay [] before ∧ s.context = caller
  | before :: around :: _ => s.values = replay [] before ∧ ∃ seen, s.context = some seen ∧
      seen.find? parentKey = some (.map (replay [] around)) ∧
        ∀ key ≠ parentKey, seen.find? key = (caller.getD []).find? key

/-- A rule in its place sees the context. -/
lemma Site.Placed.seesContext {caller : Option (Dict Value)} {s : Site} (h : s.Placed caller) :
    s.SeesContext caller := by
  obtain ⟨before, outer, htrail, hvalues, hcontext⟩ := h
  rw [Site.SeesContext, htrail]
  cases outer with
  | nil => exact ⟨hvalues, hcontext⟩
  | cons around outer =>
    exact ⟨hvalues, _, hcontext, find?_innerContext_self _ _,
      fun _ hkey => find?_innerContext_of_ne _ _ hkey⟩

/-- **Every rule sees the context of the caller and the values of the form around it.** Wherever the
run of a form reaches a rule, through any number of lists, options, switches and inner forms, the
rule sees the context of the caller unchanged if no inner form is open; inside inner forms it sees a
context that holds, under the key for them, the values that the form around the innermost one had
stored when that was entered, and what the caller gave under all other keys. No custom rule is left
out: other code that gives the same wherever the run reaches a custom rule gives the same run.

**Proof sketch.** One step from a rule to another keeps the context or enters an inner form, which
replaces the values under the key for them (`Site.Placed.step`); the rest is induction over the
steps. That no custom rule is left out is `Form.run_recode`. -/
theorem Form.reaches_context (form : Form) (mode : RunMode) (input : Dict Value)
    (context : Option (Dict Value)) :
    (∀ s, form.Reaches mode input context s → s.SeesContext context) ∧
      ∀ code : CustomRule → CustomRule,
        (∀ s, form.Reaches mode input context s → ∀ c, s.rule = .custom c →
          (code c).run s.input s.values s.context = c.run s.input s.values s.context) →
        (form.recode code).run mode input context = form.run mode input context :=
  ⟨fun _ hs => (Form.placed_of_reaches hs).seesContext, fun _ h => form.run_recode mode input _ h⟩

section Echo

/-- A rule that gives back the context that it sees. -/
def echo : CustomRule := .ofContext "Echo" fun _ _ context => .ok (.map (context.getD []))

/-- A rule for maps with the rule in its form. -/
def echoInner : Rule := .ofForm (.new [.new "c" [.custom echo]])

/-- A form with a field in front of the rule for maps, which is an option. -/
def echoForm : Form := .new [.new "a" [.anything], .new "b" [.or [[echoInner]]]]

/-- An input of the form. -/
def echoInput : Dict Value := [("a", .int 5), ("b", .map [("c", .int 7)])]

/-- A context in which the key for the values around is taken. -/
def echoContext : Dict Value := [(parentKey, .null), ("user", .string "u")]

/-- The rule where it runs. -/
def echoSite : Site where
  rule := .custom echo
  trail := [[], [.ran "a" .anything [] (.int 5) (.ok (.int 5))]]
  values := []
  context := some [(parentKey, .map [("a", .int 5)]), ("user", .string "u")]
  input := .int 7

/-- The run of the form reaches the rule. -/
lemma reaches_echoSite : echoForm.Reaches .full echoInput (some echoContext) echoSite := by
  have hopens : echoForm.Opens .full echoInput (some echoContext) []
      ⟨.or [[echoInner]], [[.ran "a" .anything [] (.int 5) (.ok (.int 5))]], [("a", .int 5)],
        some echoContext, .map [("c", .int 7)]⟩ :=
    ⟨_, "b", _, [], rfl, rfl, rfl⟩
  have hstarts : Rule.Starts [("a", .int 5)] (some echoContext)
      (.or [[echoInner]]) (.map [("c", .int 7)]) echoInner (.map [("c", .int 7)]) :=
    .option (List.forall_mem_nil _) .head
  refine ⟨_, hopens, .tail (.single (.inside hstarts)) ?_⟩
  exact .enter rfl rfl ⟨[], "c", _, [], rfl, rfl, rfl⟩

/-- The rule sees the values of the outer form, and not what the caller gave under their key. -/
theorem Form.echo_reaches_context :
    echoForm.Reaches .full echoInput (some echoContext) echoSite ∧
      echoSite.SeesContext (some echoContext) :=
  ⟨reaches_echoSite,
    (Form.reaches_context echoForm .full echoInput (some echoContext)).1 _ reaches_echoSite⟩

end Echo

end Intake
