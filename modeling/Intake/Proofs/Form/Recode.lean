import Intake.Proofs.Form.Reach

set_option autoImplicit false

/-!
# Forms with other code

The custom rules of a form may be replaced by others. If each new one gives what the old one gives
wherever the run of the form reaches it, the run stays the same. So the sites of a run are all the
places where code of custom rules has a say.

## Main definitions

* `Rule.recode`, `Form.recode` — rules and forms with other code in place of their custom rules.
* `Site.Agrees` — new code gives what the old code gives at all sites that one leads to.
* `Rule.Respects`, `Form.Respects` — rules and forms that run the same if new code agrees.

## Main results

* `Form.run_recode` — a form runs the same if new code agrees at all sites of its run.
-/

namespace Intake

/-! ### Other code -/

mutual

/-- A rule with other code in place of the custom rules inside it. -/
def Rule.recode (code : CustomRule → CustomRule) : Rule → Rule
  | .list chain => .list (Rule.recodeChain code chain)
  | .textList chain => .textList (Rule.recodeChain code chain)
  | .map form shape => .map (Rule.recodeInner code form) shape
  | .or options => .or (Rule.recodeOptions code options)
  | .switch key cases fallback exhaustive =>
    .switch key (Rule.recodeCases code cases) (Rule.recodeFallback code fallback) exhaustive
  | .custom c => .custom (code c)
  | r => r
termination_by structural r => r

/-- A chain with other code. -/
def Rule.recodeChain (code : CustomRule → CustomRule) : List Rule → List Rule
  | [] => []
  | r :: rest => r.recode code :: Rule.recodeChain code rest
termination_by structural chain => chain

/-- The form of a rule for maps with other code. -/
def Rule.recodeInner (code : CustomRule → CustomRule) : Option Form → Option Form
  | none => none
  | some form => some (form.recode code)
termination_by structural form => form

/-- Options with other code. -/
def Rule.recodeOptions (code : CustomRule → CustomRule) : List (List Rule) → List (List Rule)
  | [] => []
  | chain :: rest => Rule.recodeChain code chain :: Rule.recodeOptions code rest
termination_by structural options => options

/-- Cases with other code. -/
def Rule.recodeCases (code : CustomRule → CustomRule) :
    List (String × List Rule) → List (String × List Rule)
  | [] => []
  | (name, chain) :: rest => (name, Rule.recodeChain code chain) :: Rule.recodeCases code rest
termination_by structural cases => cases

/-- A fallback with other code. -/
def Rule.recodeFallback (code : CustomRule → CustomRule) : Option (List Rule) → Option (List Rule)
  | none => none
  | some chain => some (Rule.recodeChain code chain)
termination_by structural fallback => fallback

/-- Fields with other code. -/
def Field.recodeAll (code : CustomRule → CustomRule) : List Field → List Field
  | [] => []
  | ⟨name, chain, examples⟩ :: rest =>
    ⟨name, Rule.recodeChain code chain, examples⟩ :: Field.recodeAll code rest
termination_by structural fields => fields

/-- A form with other code in place of the custom rules inside it. Its transforms and its hook stay
as they are. -/
def Form.recode (code : CustomRule → CustomRule) : Form → Form
  | ⟨fields, strict, sanitizeKeys, errorMsg, name, examples, transforms, hook⟩ =>
    ⟨Field.recodeAll code fields, strict, sanitizeKeys, errorMsg, name, examples, transforms, hook⟩
termination_by structural form => form

end

section

variable {code : CustomRule → CustomRule}

/-- Recoding keeps chains without rules. -/
lemma Rule.isEmpty_recodeChain (chain : List Rule) :
    (Rule.recodeChain code chain).isEmpty = chain.isEmpty := by
  cases chain <;> rfl

/-- A field with other code. -/
def Field.recode (code : CustomRule → CustomRule) (f : Field) : Field :=
  { f with chain := Rule.recodeChain code f.chain }

/-- Fields are recoded one by one. -/
lemma Field.recodeAll_eq (fields : List Field) :
    Field.recodeAll code fields = fields.map (Field.recode code) := by
  induction fields with
  | nil => rfl
  | cons f rest ih =>
    obtain ⟨name, chain, examples⟩ := f
    exact congrArg (Field.recode code ⟨name, chain, examples⟩ :: ·) ih

/-! ### Agreement -/

/-- New code gives what the old code gives at all sites that a site leads to. -/
def Site.Agrees (code : CustomRule → CustomRule) (s : Site) : Prop :=
  ∀ t, Relation.ReflTransGen Site.Step s t → ∀ c, t.rule = .custom c →
    (code c).run t.input t.values t.context = c.run t.input t.values t.context

/-- Code that agrees at a site agrees one step further. -/
lemma Site.Agrees.step {s t : Site} (h : s.Agrees code) (hstep : s.Step t) : t.Agrees code :=
  fun u hu => h u (.head hstep hu)

/-- A rule gives the same with new code that agrees. -/
def Rule.Respects (code : CustomRule → CustomRule) (r : Rule) : Prop :=
  ∀ trail values context v, Site.Agrees code ⟨r, trail, values, context, v⟩ →
    (r.recode code).check values context v = r.check values context v

/-- A form runs the same with new code that agrees. -/
def Form.Respects (code : CustomRule → CustomRule) (form : Form) : Prop :=
  ∀ mode input context trail, (∀ s, form.Opens mode input context trail s → s.Agrees code) →
    (form.recode code).run mode input context = form.run mode input context

/-! ### Chains inside rules -/

section Chains

variable {values : Dict Value} {context : Option (Dict Value)} {trail : List (List Event)}

/-- A chain inside another rule gives the same with new code that agrees at all its sites. -/
lemma Rule.checkNested_recode {chain : List Rule} (hchain : ∀ r ∈ chain, r.Respects code)
    {v : Value}
    (h : ∀ r x, RunsIn values context chain v r x →
      Site.Agrees code ⟨r, trail, values, context, x⟩) :
    Rule.checkNested (Rule.recodeChain code chain) values context v =
      Rule.checkNested chain values context v := by
  induction chain generalizing v with
  | nil => rfl
  | cons r rest ih =>
    obtain ⟨hr, hrest⟩ := List.forall_mem_cons.mp hchain
    have hfirst := hr trail values context v (h r v .head)
    simp only [Rule.recodeChain, Rule.checkNested, hfirst]
    cases hw : r.check values context v with
    | error e => rfl
    | ok w => exact ih hrest fun s x hs => h s x (.tail hw hs)

/-- Items are checked the same if each one is whose predecessors have passed. -/
lemma checkItems_congr {f g : Value → Except Rejection Value} {items : List Value} (i : Nat)
    (h : ∀ passed x more, items = passed ++ x :: more →
      (∀ y ∈ passed, ∃ w, f y = .ok w) → g x = f x) :
    checkItems g i items = checkItems f i items := by
  induction items generalizing i with
  | nil => rfl
  | cons x rest ih =>
    have hfirst : g x = f x := h [] x rest rfl (by simp)
    simp only [checkItems, hfirst]
    cases hx : f x with
    | error e => rfl
    | ok w =>
      have hrest := ih (i + 1) fun passed y more heq hpassed =>
        h (x :: passed) y more (by rw [heq]; rfl)
          (List.forall_mem_cons.mpr ⟨⟨w, hx⟩, hpassed⟩)
      simp only [hrest]

/-- Texts are checked the same if each one is whose predecessors have passed. -/
lemma checkTexts_congr {f g : Value → Except Rejection Value} {texts : List String}
    (h : ∀ passed s more, texts = passed ++ s :: more →
      (∀ t ∈ passed, ∃ u, f (.string t) = .ok (.string u)) → g (.string s) = f (.string s)) :
    checkTexts g texts = checkTexts f texts := by
  induction texts with
  | nil => rfl
  | cons s rest ih =>
    have hfirst : g (.string s) = f (.string s) := h [] s rest rfl (by simp)
    simp only [checkTexts, hfirst]
    cases hs : f (.string s) with
    | error e => rfl
    | ok w =>
      cases w with
      | string u =>
        have hrest := ih fun passed t more heq hpassed =>
          h (s :: passed) t more (by rw [heq]; rfl)
            (List.forall_mem_cons.mpr ⟨⟨u, hs⟩, hpassed⟩)
        simp only [hrest]
      | null | bool | int | float | bytes | list | map => rfl

/-- A chain on texts gives the same with new code that agrees at all its sites. -/
lemma Rule.checkAllTexts_recode {chain : List Rule} (hchain : ∀ r ∈ chain, r.Respects code)
    {texts : List String}
    (h : ∀ r x, RunsOnTexts values context chain texts r x →
      Site.Agrees code ⟨r, trail, values, context, x⟩) :
    Rule.checkAllTexts (Rule.recodeChain code chain) values context texts =
      Rule.checkAllTexts chain values context texts := by
  induction chain generalizing texts with
  | nil => rfl
  | cons r rest ih =>
    obtain ⟨hr, hrest⟩ := List.forall_mem_cons.mp hchain
    have hfirst : checkTexts ((r.recode code).check values context) texts =
        checkTexts (r.check values context) texts := by
      refine checkTexts_congr fun passed s more heq hpassed => ?_
      subst heq
      exact hr trail values context (.string s) (h r _ (.head hpassed))
    simp only [Rule.recodeChain, Rule.checkAllTexts, hfirst]
    cases hresults : checkTexts (r.check values context) texts with
    | error e => rfl
    | ok results => exact ih hrest fun s x hs => h s x (.tail hresults hs)

/-- Options give the same if each one does whose predecessors have failed. -/
lemma Rule.firstOption_congr {options : List (List Rule)} {v : Value}
    (h : ∀ failed chain more, options = failed ++ chain :: more →
      (∀ c ∈ failed, ∃ e, Rule.checkNested c values context v = .error e) →
        Rule.checkNested (Rule.recodeChain code chain) values context v =
          Rule.checkNested chain values context v) :
    Rule.firstOption (Rule.recodeOptions code options) values context v =
      Rule.firstOption options values context v := by
  induction options with
  | nil => rfl
  | cons chain rest ih =>
    have hfirst := h [] chain rest rfl (by simp)
    simp only [Rule.recodeOptions, Rule.firstOption, hfirst]
    cases hchain : Rule.checkNested chain values context v with
    | ok w => rfl
    | error e =>
      exact ih fun failed c more heq hfailed =>
        h (chain :: failed) c more (by rw [heq]; rfl)
          (List.forall_mem_cons.mpr ⟨⟨e, hchain⟩, hfailed⟩)

/-- Cases give the same if the one does that is selected. -/
lemma Rule.checkCase_congr {cases : List (String × List Rule)} {selected : Option String}
    {v : Value}
    (h : ∀ passed name chain more, cases = passed ++ (name, chain) :: more →
      (∀ c ∈ passed, c.1 ≠ name) → selected = some name →
        Rule.checkNested (Rule.recodeChain code chain) values context v =
          Rule.checkNested chain values context v) :
    Rule.checkCase (Rule.recodeCases code cases) selected values context v =
      Rule.checkCase cases selected values context v := by
  induction cases with
  | nil => rfl
  | cons c rest ih =>
    obtain ⟨name, chain⟩ := c
    simp only [Rule.recodeCases, Rule.checkCase]
    by_cases hname : selected = some name
    · rw [if_pos hname, if_pos hname, h [] name chain rest rfl (by simp) hname]
    · rw [if_neg hname, if_neg hname]
      refine ih fun passed other c more heq hpassed hother => ?_
      refine h ((name, chain) :: passed) other c more (by rw [heq]; rfl) ?_ hother
      refine List.forall_mem_cons.mpr ⟨?_, hpassed⟩
      rintro rfl
      exact hname hother

/-- A switch without the case selected has no case of that name. -/
lemma Rule.ne_of_checkCase_eq_none {cases : List (String × List Rule)} {selected : Option String}
    {v : Value} (h : Rule.checkCase cases selected values context v = none) :
    ∀ c ∈ cases, selected ≠ some c.1 := by
  induction cases with
  | nil => simp
  | cons c rest ih =>
    obtain ⟨name, chain⟩ := c
    rw [Rule.checkCase] at h
    split_ifs at h with hname
    exact List.forall_mem_cons.mpr ⟨hname, ih h⟩

end Chains

/-! ### Rules that hold rules -/

namespace Rule.Respects

/-- A rule for lists respects code that its chain respects. -/
lemma list {chain : List Rule} (hchain : ∀ r ∈ chain, r.Respects code) :
    (Rule.list chain).Respects code := by
  intro trail values context v hagrees
  cases v with
  | list items =>
    have hitems :
        checkItems (Rule.checkNested (Rule.recodeChain code chain) values context) 0 items =
          checkItems (Rule.checkNested chain values context) 0 items := by
      refine checkItems_congr 0 fun passed x more heq hpassed => ?_
      subst heq
      exact Rule.checkNested_recode hchain fun r y hr => hagrees.step (.inside (.item hpassed hr))
    simp only [Rule.recode, Rule.check, hitems, Rule.isEmpty_recodeChain]
  | null | bool | int | float | string | bytes | map => rfl

/-- A rule for lists of texts respects code that its chain respects. -/
lemma textList {chain : List Rule} (hchain : ∀ r ∈ chain, r.Respects code) :
    (Rule.textList chain).Respects code := by
  intro trail values context v hagrees
  cases v with
  | list items =>
    simp only [Rule.recode, Rule.check]
    cases htexts : textsOf items with
    | error e => rfl
    | ok texts =>
      have hall := Rule.checkAllTexts_recode hchain fun r x hr =>
        hagrees.step (.inside (.text htexts hr))
      simp only [hall]
  | null | bool | int | float | string | bytes | map => rfl

/-- A rule for maps respects code that its form respects. -/
lemma map {form : Option Form} (hform : ∀ f ∈ form, f.Respects code) (shape : Option Shape) :
    (Rule.map form shape).Respects code := by
  intro trail values context v hagrees
  cases v with
  | map entries =>
    cases form with
    | none => rfl
    | some form =>
      have hrun := hform form rfl .full entries (some (innerContext values context)) trail
        fun s hs => hagrees.step (.enter rfl rfl hs)
      simp only [Rule.recode, Rule.recodeInner, Rule.check, Rule.runInner, hrun]
  | null | bool | int | float | string | bytes | list => rfl

/-- A rule with options respects code that the options respect. -/
lemma or {options : List (List Rule)} (hoptions : ∀ chain ∈ options, ∀ r ∈ chain, r.Respects code) :
    (Rule.or options).Respects code := by
  intro trail values context v hagrees
  have hfirst : Rule.firstOption (Rule.recodeOptions code options) values context v =
      Rule.firstOption options values context v := by
    refine Rule.firstOption_congr fun failed chain more heq hfailed => ?_
    subst heq
    exact Rule.checkNested_recode (hoptions chain (by simp)) fun r x hr =>
      hagrees.step (.inside (.option hfailed hr))
  simp only [Rule.recode, Rule.check, hfirst]

/-- A switch respects code that its cases and its fallback respect. -/
lemma switch {key : String} {cases : List (String × List Rule)} {fallback : Option (List Rule)}
    {exhaustive : Bool} (hcases : ∀ c ∈ cases, ∀ r ∈ c.2, r.Respects code)
    (hfallback : ∀ chain ∈ fallback, ∀ r ∈ chain, r.Respects code) :
    (Rule.switch key cases fallback exhaustive).Respects code := by
  intro trail values context v hagrees
  simp only [Rule.recode, Rule.check]
  cases hselected : selector values key with
  | error e => rfl
  | ok selected =>
    have hcase : Rule.checkCase (Rule.recodeCases code cases) selected values context v =
        Rule.checkCase cases selected values context v := by
      refine Rule.checkCase_congr fun passed name chain more heq hpassed hname => ?_
      subst heq hname
      exact Rule.checkNested_recode (hcases (name, chain) (by simp)) fun r x hr =>
        hagrees.step (.inside (.case hselected hpassed hr))
    simp only [hcase]
    cases hnone : Rule.checkCase cases selected values context v with
    | some r => rfl
    | none =>
      cases fallback with
      | none => rfl
      | some chain =>
        have hchain := Rule.checkNested_recode (hfallback chain rfl) fun r x hr =>
          hagrees.step (.inside
            (.fallback hselected (Rule.ne_of_checkCase_eq_none hnone) hr))
        simp only [Rule.recodeFallback, Rule.checkFallback, hchain]

end Rule.Respects

/-! ### Forms -/

/-- An event with other code in its rule. -/
def Event.recode (code : CustomRule → CustomRule) : Event → Event
  | .ran key r values v result => .ran key (r.recode code) values v result
  | .copied key v => .copied key v

/-- A visit with other code in its chain. -/
def Visit.recode (code : CustomRule → CustomRule) (visit : Visit) : Visit :=
  ⟨visit.key, Rule.recodeChain code visit.chain⟩

/-- Other code in the rules of events changes nothing that the events leave behind. -/
lemma replay_map_recode (values : Dict Value) (events : List Event) :
    replay values (events.map (Event.recode code)) = replay values events := by
  induction events generalizing values with
  | nil => rfl
  | cons e rest ih =>
    have hwrite : (e.recode code).apply values = e.apply values := by
      cases e with
      | ran key r seen v result => cases result <;> rfl
      | copied key v => rfl
    rw [List.map_cons, replay_cons, replay_cons, hwrite, ih]

/-- Other code in the rules of events changes nothing in the rejection that ends them. -/
lemma rejection?_map_recode (events : List Event) :
    rejection? (events.map (Event.recode code)) = rejection? events := by
  rw [rejection?, rejection?, List.getLast?_map]
  rcases events.getLast? with _ | ⟨_, _, _, _, _ | _⟩ | _ <;> rfl

section Events

variable {context : Option (Dict Value)}

/-- New code agrees at the rules that some events ran. -/
def AgreesIn (code : CustomRule → CustomRule) (context : Option (Dict Value))
    (events : List Event) : Prop :=
  ∀ key r seen v result, Event.ran key r seen v result ∈ events →
    ∃ trail, Site.Agrees code ⟨r, trail, seen, context, v⟩

/-- The same happens in a full run of a chain with new code that agrees. -/
lemma chainEvents_recode {chain : List Rule} (hchain : ∀ r ∈ chain, r.Respects code)
    {key : String} {values : Dict Value} {v : Value}
    (h : AgreesIn code context (chainEvents key .full context chain values v)) :
    chainEvents key .full context (Rule.recodeChain code chain) values v =
      (chainEvents key .full context chain values v).map (Event.recode code) := by
  induction chain generalizing values v with
  | nil => rfl
  | cons r rest ih =>
    obtain ⟨hr, hrest⟩ := List.forall_mem_cons.mp hchain
    rw [chainEvents_full_cons] at h
    obtain ⟨trail, hagrees⟩ := h key r values v _ List.mem_cons_self
    have hfirst := hr trail values context v hagrees
    rw [Rule.recodeChain, chainEvents_full_cons, chainEvents_full_cons, hfirst, List.map_cons]
    cases hw : r.check values context v with
    | error e => rfl
    | ok w =>
      rw [hw] at h
      dsimp only at h ⊢
      split_ifs at h ⊢ with hnull
      · rfl
      · rw [ih hrest fun k s seen x result hmem =>
          h k s seen x result (List.mem_cons_of_mem _ hmem)]
        rfl

/-- The same happens in a visit with new code that agrees. -/
lemma Visit.events_recode {visit : Visit} (hchain : ∀ r ∈ visit.chain, r.Respects code)
    {mode : RunMode} {input values : Dict Value}
    (h : AgreesIn code context (visit.events mode context input values)) :
    (visit.recode code).events mode context input values =
      (visit.events mode context input values).map (Event.recode code) := by
  rw [Visit.events_eq] at h ⊢
  rw [Visit.events_eq, Visit.recode, Rule.isEmpty_recodeChain]
  split_ifs at h ⊢
  · cases input.find? visit.key <;> rfl
  · rfl
  · exact chainEvents_recode hchain h

/-- The same happens in visits with new code that agrees. -/
lemma visitTraces_recode {visits : List Visit}
    (hvisits : ∀ visit ∈ visits, ∀ r ∈ visit.chain, r.Respects code) {mode : RunMode}
    {input values : Dict Value}
    (h : AgreesIn code context ((visitTraces mode context input visits values).flatMap Prod.snd)) :
    visitTraces mode context input (visits.map (Visit.recode code)) values =
      (visitTraces mode context input visits values).map fun t =>
        (t.1.recode code, t.2.map (Event.recode code)) := by
  induction visits generalizing values with
  | nil => rfl
  | cons visit rest ih =>
    obtain ⟨hvisit, hrest⟩ := List.forall_mem_cons.mp hvisits
    rw [visitTraces, List.flatMap_cons] at h
    have hevents := Visit.events_recode hvisit fun k r seen v result hmem =>
      h k r seen v result (List.mem_append_left _ hmem)
    have hmore := ih hrest fun k r seen v result hmem =>
      h k r seen v result (List.mem_append_right _ hmem)
    simp only [List.map_cons, visitTraces, hevents, replay_map_recode, hmore]

end Events

/-- Recoding keeps the names of fields and so the keys that are visited. -/
lemma Form.visits_recode (form : Form) (input : Dict Value) :
    (form.recode code).visits input = (form.visits input).map (Visit.recode code) := by
  obtain ⟨fields, strict, sanitizeKeys, errorMsg, name, examples, transforms, hook⟩ := form
  simp only [Form.recode, Form.visits, Field.recodeAll_eq, List.flatMap_map, List.map_flatMap]
  refine List.flatMap_congr fun f _ => ?_
  rw [Field.visits, Field.visits, List.map_map]
  rfl

/-- Recoding keeps the keys that a form expects. -/
lemma Form.unexpected_recode (form : Form) (input : Dict Value) :
    (form.recode code).unexpected input = form.unexpected input := by
  obtain ⟨fields, strict, sanitizeKeys, errorMsg, name, examples, transforms, hook⟩ := form
  simp only [Form.recode, Form.unexpected, Form.hasWildcard, Form.declares, Field.recodeAll_eq,
    List.any_map]
  rfl

/-- A form respects code that the chains of its fields respect. -/
lemma Form.respects_of_chains {form : Form}
    (h : ∀ f ∈ form.fields, ∀ r ∈ f.chain, r.Respects code) : form.Respects code := by
  intro mode input context trail hagrees
  have hvisits : ∀ visit ∈ form.visits input, ∀ r ∈ visit.chain, r.Respects code := by
    intro visit hvisit
    obtain ⟨f, hf, hmem⟩ := List.mem_flatMap.mp hvisit
    obtain ⟨key, -, rfl⟩ := List.mem_map.mp hmem
    exact h f hf
  have hin : AgreesIn code context (form.events mode input context) := by
    intro key r seen v result hmem
    obtain ⟨before, after, heq⟩ := List.append_of_mem hmem
    exact ⟨before :: trail, hagrees _ ⟨before, key, result, after, heq, rfl, rfl⟩⟩
  have hsanitized : (form.recode code).sanitized input = form.sanitized input := by
    cases form
    rfl
  have htraces : (form.recode code).traces mode input context =
      (form.traces mode input context).map fun t =>
        (t.1.recode code, t.2.map (Event.recode code)) := by
    rw [Form.traces, hsanitized, Form.visits_recode]
    exact visitTraces_recode hvisits hin
  have hevents : (form.recode code).events mode input context =
      (form.events mode input context).map (Event.recode code) := by
    simp only [Form.events, htraces, List.flatMap_map, List.map_flatMap]
  have hfailures : ((form.recode code).failures mode input context).map failureReport =
      (form.failures mode input context).map failureReport := by
    simp only [Form.failures, endings, htraces, List.filterMap_map, List.map_filterMap]
    refine List.filterMap_congr fun t _ => ?_
    simp only [Function.comp_apply, rejection?_map_recode, Option.map_map]
    rfl
  rw [Form.run_eq_finish, Form.run_eq_finish, Form.unexpected_recode, hevents, hfailures,
    replay_map_recode]
  cases form
  rfl

/-! ### All rules and forms -/

mutual

/-- **Every rule gives the same with new code that agrees at the sites it leads to.**

**Proof sketch.** By recursion over the rules, chains and forms inside: each kind of rule runs the
rules it holds at sites that its own site leads to. -/
theorem Rule.respects (code : CustomRule → CustomRule) : ∀ r : Rule, r.Respects code
  | .text _ | .integer _ | .float _ | .boolean _ | .bytes _ | .hex _ | .uuid _ | .time _
  | .pattern _ | .oneOf _ | .noneOf _ | .required | .optional _ | .nil _ | .anything =>
    fun _ _ _ _ _ => rfl
  | .list chain => .list (Rule.respects_chain code chain)
  | .textList chain => .textList (Rule.respects_chain code chain)
  | .map form shape => .map (Rule.respects_inner code form) shape
  | .or options => .or (Rule.respects_options code options)
  | .switch _ cases fallback _ =>
    .switch (Rule.respects_cases code cases) (Rule.respects_fallback code fallback)
  | .custom c => fun _ _ _ _ hagrees => hagrees _ .refl c rfl
termination_by structural r => r

/-- The rules of a chain respect new code. -/
theorem Rule.respects_chain (code : CustomRule → CustomRule) :
    ∀ chain : List Rule, ∀ r ∈ chain, r.Respects code
  | [] => fun _ hr => absurd hr List.not_mem_nil
  | r :: rest =>
    List.forall_mem_cons.mpr ⟨Rule.respects code r, Rule.respects_chain code rest⟩
termination_by structural chain => chain

/-- The form of a rule for maps respects new code. -/
theorem Rule.respects_inner (code : CustomRule → CustomRule) :
    ∀ form : Option Form, ∀ f ∈ form, f.Respects code
  | none => nofun
  | some form => by
    rintro _ ⟨⟩
    exact Form.respects code form
termination_by structural form => form

/-- The rules of options respect new code. -/
theorem Rule.respects_options (code : CustomRule → CustomRule) :
    ∀ options : List (List Rule), ∀ chain ∈ options, ∀ r ∈ chain, r.Respects code
  | [] => fun _ hchain => absurd hchain List.not_mem_nil
  | chain :: rest =>
    List.forall_mem_cons.mpr ⟨Rule.respects_chain code chain, Rule.respects_options code rest⟩
termination_by structural options => options

/-- The rules of cases respect new code. -/
theorem Rule.respects_cases (code : CustomRule → CustomRule) :
    ∀ cases : List (String × List Rule), ∀ c ∈ cases, ∀ r ∈ c.2, r.Respects code
  | [] => fun _ hc => absurd hc List.not_mem_nil
  | (_, chain) :: rest =>
    List.forall_mem_cons.mpr ⟨Rule.respects_chain code chain, Rule.respects_cases code rest⟩
termination_by structural cases => cases

/-- The rules of a fallback respect new code. -/
theorem Rule.respects_fallback (code : CustomRule → CustomRule) :
    ∀ fallback : Option (List Rule), ∀ chain ∈ fallback, ∀ r ∈ chain, r.Respects code
  | none => nofun
  | some chain => by
    rintro _ ⟨⟩
    exact Rule.respects_chain code chain
termination_by structural fallback => fallback

/-- The rules of fields respect new code. -/
theorem Field.respects_all (code : CustomRule → CustomRule) :
    ∀ fields : List Field, ∀ f ∈ fields, ∀ r ∈ f.chain, r.Respects code
  | [] => fun _ hf => absurd hf List.not_mem_nil
  | ⟨_, chain, _⟩ :: rest =>
    List.forall_mem_cons.mpr ⟨Rule.respects_chain code chain, Field.respects_all code rest⟩
termination_by structural fields => fields

/-- Every form runs the same with new code that agrees at its sites. -/
theorem Form.respects (code : CustomRule → CustomRule) : ∀ form : Form, form.Respects code
  | ⟨fields, _, _, _, _, _, _, _⟩ => Form.respects_of_chains (Field.respects_all code fields)
termination_by structural form => form

end

/-- **A form runs the same with new code that gives what the old code gives at all sites of its
run**, so its sites are all the places where custom rules have a say. -/
theorem Form.run_recode (form : Form) (mode : RunMode) (input : Dict Value)
    (context : Option (Dict Value))
    (h : ∀ s, form.Reaches mode input context s → ∀ c, s.rule = .custom c →
      (code c).run s.input s.values s.context = c.run s.input s.values s.context) :
    (form.recode code).run mode input context = form.run mode input context :=
  Form.respects code form mode input context [] fun s hs t ht => h t ⟨s, hs, ht⟩

end

end Intake
