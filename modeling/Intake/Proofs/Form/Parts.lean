import Intake.Proofs.Form.Closed

set_option autoImplicit false

/-!
# The rules inside rules

Rules hold chains and forms, in which there are rules again. What every rule inside a form has in
common says something of the form: if none of them looks at the values beside its own, the form is
closed.

## Main definitions

* `Rule.parts`, `Form.parts` — the rules inside a rule or a form, at any depth.
* `Rule.held`, `Form.rules` — the rules that a rule or a form holds directly.
* `Rule.ReadsNoSiblings` — rules that, by themselves, judge a value alone.

## Main results

* `Rule.of_parts` — induction over the rules inside a rule.
* `Rule.closed_of_parts`, `Form.closed_of_parts` — rules and forms of such rules are closed.
-/

namespace Intake

/-! ### Parts -/

mutual

/-- The rules that a rule is made of, at any depth, and the rule itself. -/
def Rule.parts : Rule → List Rule
  | .list chain => .list chain :: Rule.chainParts chain
  | .textList chain => .textList chain :: Rule.chainParts chain
  | .map form shape => .map form shape :: Rule.innerParts form
  | .or options => .or options :: Rule.optionParts options
  | .switch key cases fallback exhaustive =>
    .switch key cases fallback exhaustive :: (Rule.caseParts cases ++ Rule.fallbackParts fallback)
  | r => [r]
termination_by structural r => r

/-- The rules inside a chain. -/
def Rule.chainParts : List Rule → List Rule
  | [] => []
  | r :: rest => r.parts ++ Rule.chainParts rest
termination_by structural chain => chain

/-- The rules inside the form of a rule for maps, if it has one. -/
def Rule.innerParts : Option Form → List Rule
  | none => []
  | some form => form.parts
termination_by structural form => form

/-- The rules inside options. -/
def Rule.optionParts : List (List Rule) → List Rule
  | [] => []
  | chain :: rest => Rule.chainParts chain ++ Rule.optionParts rest
termination_by structural options => options

/-- The rules inside cases. -/
def Rule.caseParts : List (String × List Rule) → List Rule
  | [] => []
  | (_, chain) :: rest => Rule.chainParts chain ++ Rule.caseParts rest
termination_by structural cases => cases

/-- The rules inside a fallback, if there is one. -/
def Rule.fallbackParts : Option (List Rule) → List Rule
  | none => []
  | some chain => Rule.chainParts chain
termination_by structural fallback => fallback

/-- The rules inside fields. -/
def Field.allParts : List Field → List Rule
  | [] => []
  | ⟨_, chain, _⟩ :: rest => Rule.chainParts chain ++ Field.allParts rest
termination_by structural fields => fields

/-- The rules inside a form. -/
def Form.parts : Form → List Rule
  | ⟨fields, _, _, _, _, _, _, _⟩ => Field.allParts fields
termination_by structural form => form

end

/-- The rules inside a form are those inside its fields. -/
lemma Form.parts_eq (form : Form) : form.parts = Field.allParts form.fields := by
  cases form
  rfl

/-! ### Rules that are held directly -/

/-- The rules of the chains of a form. -/
def Form.rules (form : Form) : List Rule := form.fields.flatMap Field.chain

/-- The rules that a rule holds directly. -/
def Rule.held : Rule → List Rule
  | .list chain => chain
  | .textList chain => chain
  | .map form _ => form.elim [] Form.rules
  | .or options => options.flatten
  | .switch _ cases fallback _ => cases.flatMap Prod.snd ++ fallback.getD []
  | _ => []

/-- The rules inside a chain are those inside its rules. -/
lemma Rule.chainParts_eq (chain : List Rule) :
    Rule.chainParts chain = chain.flatMap Rule.parts := by
  induction chain with
  | nil => rfl
  | cons r rest ih => rw [Rule.chainParts, ih, List.flatMap_cons]

/-- The rules inside options are those inside their rules. -/
lemma Rule.optionParts_eq (options : List (List Rule)) :
    Rule.optionParts options = options.flatten.flatMap Rule.parts := by
  induction options with
  | nil => rfl
  | cons chain rest ih =>
    rw [Rule.optionParts, ih, Rule.chainParts_eq, List.flatten_cons, List.flatMap_append]

/-- The rules inside cases are those inside their rules. -/
lemma Rule.caseParts_eq (cases : List (String × List Rule)) :
    Rule.caseParts cases = (cases.flatMap Prod.snd).flatMap Rule.parts := by
  induction cases with
  | nil => rfl
  | cons c rest ih =>
    obtain ⟨name, chain⟩ := c
    rw [Rule.caseParts, ih, Rule.chainParts_eq, List.flatMap_cons, List.flatMap_append]

/-- The rules inside a fallback are those inside its rules. -/
lemma Rule.fallbackParts_eq (fallback : Option (List Rule)) :
    Rule.fallbackParts fallback = (fallback.getD []).flatMap Rule.parts := by
  cases fallback with
  | none => rfl
  | some chain => exact Rule.chainParts_eq chain

/-- The rules inside fields are those inside the rules of their chains. -/
lemma Field.allParts_eq (fields : List Field) :
    Field.allParts fields = (fields.flatMap Field.chain).flatMap Rule.parts := by
  induction fields with
  | nil => rfl
  | cons f rest ih =>
    obtain ⟨name, chain, examples⟩ := f
    rw [Field.allParts, ih, Rule.chainParts_eq, List.flatMap_cons, List.flatMap_append]

/-- The rules inside a form are those inside the rules of its chains. -/
lemma Form.parts_eq_flatMap (form : Form) : form.parts = form.rules.flatMap Rule.parts := by
  rw [Form.parts_eq, Field.allParts_eq, Form.rules]

/-- The rules inside a rule are itself and those inside the rules that it holds. -/
lemma Rule.parts_eq (r : Rule) : r.parts = r :: r.held.flatMap Rule.parts := by
  cases r with
  | list chain | textList chain => rw [Rule.parts, Rule.held, Rule.chainParts_eq]
  | map form shape =>
    cases form with
    | none => rfl
    | some form => exact congrArg (Rule.map (some form) shape :: ·) form.parts_eq_flatMap
  | or options => rw [Rule.parts, Rule.held, Rule.optionParts_eq]
  | switch key cases fallback exhaustive =>
    rw [Rule.parts, Rule.held, Rule.caseParts_eq, Rule.fallbackParts_eq, List.flatMap_append]
  | text | integer | float | boolean | bytes | hex | uuid | time | pattern | oneOf | noneOf
  | required | optional | nil | anything | custom => rfl

/-- Something holds of all rules inside a rule when it holds of the rule and of all rules inside
those that it holds. -/
lemma Rule.forall_parts_iff {Own : Rule → Prop} {r : Rule} :
    (∀ s ∈ r.parts, Own s) ↔ Own r ∧ ∀ t ∈ r.held, ∀ s ∈ t.parts, Own s := by
  rw [Rule.parts_eq, List.forall_mem_cons, List.forall_mem_flatMap]

/-- **Induction over the rules inside a rule.** What a rule has by itself once the rules that it
holds have it, a rule has by all rules inside it. -/
theorem Rule.of_parts {Own Q : Rule → Prop} (step : ∀ r, Own r → (∀ s ∈ r.held, Q s) → Q r)
    (r : Rule) (h : ∀ s ∈ r.parts, Own s) : Q r := by
  induction hn : r.parts.length using Nat.strong_induction_on generalizing r with
  | _ n ih =>
    obtain ⟨hown, hheld⟩ := Rule.forall_parts_iff.mp h
    refine step r hown fun s hs => ih _ ?_ s (hheld s hs) rfl
    have hsublist : s.parts.Sublist (r.held.flatMap Rule.parts) :=
      List.sublist_flatten_of_mem (List.mem_map_of_mem hs)
    rw [← hn, r.parts_eq, List.length_cons]
    exact Nat.lt_succ_of_le hsublist.length_le

/-! ### Rules that judge a value alone -/

/-- A rule that looks neither at the values of its form nor at the context, and takes no value from
elsewhere. What the rules inside it do does not count. -/
def Rule.ReadsNoSiblings : Rule → Prop
  | .switch _ _ _ _ => False
  | .custom _ => False
  | .optional r => r.generator = none
  | _ => True

/-- **A rule is closed if no rule inside it looks at siblings.**

**Proof sketch.** By induction over the rules inside: each kind of rule that holds others is closed
when these are. -/
theorem Rule.closed_of_parts (r : Rule) (h : ∀ s ∈ r.parts, s.ReadsNoSiblings) : r.Closed := by
  refine Rule.of_parts (fun r hown hheld => ?_) r h
  cases r with
  | list chain => exact .list hheld
  | textList chain => exact .textList hheld
  | map form shape =>
    refine .map (fun f hf => ?_) shape
    obtain rfl : form = some f := hf
    exact Form.closed_of_chains fun field hfield s hs =>
      hheld s (List.mem_flatMap_of_mem hfield hs)
  | or options => exact .or fun chain hchain s hs => hheld s (List.mem_flatten_of_mem hchain hs)
  | switch | custom => exact hown.elim
  | text | integer | float | boolean | bytes | hex | uuid | time | pattern | oneOf | noneOf
  | required | optional | nil | anything => exact fun _ _ _ => rfl

/-- The rules of fields are closed if no rule inside them looks at siblings. -/
theorem Field.closed_of_allParts (fields : List Field)
    (h : ∀ s ∈ Field.allParts fields, s.ReadsNoSiblings) :
    ∀ f ∈ fields, ∀ r ∈ f.chain, r.Closed := by
  intro f hf r hr
  rw [Field.allParts_eq, List.forall_mem_flatMap] at h
  exact r.closed_of_parts (h r (List.mem_flatMap_of_mem hf hr))

/-- A form is closed if no rule inside it looks at siblings. -/
theorem Form.closed_of_parts (form : Form) (h : ∀ s ∈ form.parts, s.ReadsNoSiblings) :
    form.Closed :=
  Form.closed_of_chains (Field.closed_of_allParts form.fields (form.parts_eq ▸ h))

end Intake
