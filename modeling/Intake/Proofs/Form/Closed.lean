import Intake.Proofs.Form.Failures
import Intake.Proofs.Result

set_option autoImplicit false

/-!
# Forms that see only their input

A closed rule judges a value alone: neither the values stored so far nor the context change what it
says. A form of closed chains takes its input apart, and each field has an outcome of its own. The
forms that check descriptions and parameters are of this kind.

## Main definitions

* `Rule.Closed`, `Form.Closed` — rules and forms that see no more than what they are given.
* `settle?`, `Field.outcome?` — what a closed chain or field leaves under its key.
* `Form.Fieldwise` — a form of closed chains under distinct names, without code.

## Main results

* `Rule.Closed.list`, `Rule.Closed.map`, `Rule.Closed.or` — rules of closed chains and forms are
  closed.
* `Form.validate_eq_ok_iff` — a fieldwise form, by the outcomes of its fields.
* `Form.validate_wildcard_eq_ok_iff` — a form of one wildcard, by its entries.
-/

namespace Intake

/-! ### Closed rules -/

/-- A rule judges a value without looking at the values of its form or at the context. -/
def Rule.Closed (r : Rule) : Prop :=
  ∀ values context v, r.check values context v = r.check [] none v

/-- A form runs without looking at the context. -/
def Form.Closed (form : Form) : Prop :=
  ∀ mode input context, form.run mode input context = form.run mode input none

/-- A chain of closed rules is closed inside another rule. -/
lemma Rule.checkNested_of_closed {chain : List Rule} (h : ∀ r ∈ chain, r.Closed)
    (values : Dict Value) (context : Option (Dict Value)) (v : Value) :
    Rule.checkNested chain values context v = Rule.checkNested chain [] none v := by
  induction chain generalizing v with
  | nil => rfl
  | cons r rest ih =>
    obtain ⟨hr, hrest⟩ := List.forall_mem_cons.mp h
    simp only [Rule.checkNested, hr values context v, ih hrest]

/-- A list of items that pass closed rules is closed. -/
lemma Rule.Closed.list {chain : List Rule} (h : ∀ r ∈ chain, r.Closed) :
    (Rule.list chain).Closed := by
  intro values context v
  have hitems : Rule.checkNested chain values context = Rule.checkNested chain [] none :=
    funext fun v => Rule.checkNested_of_closed h values context v
  simp only [Rule.check, hitems]

/-- A list of texts that pass closed rules is closed. -/
lemma Rule.Closed.textList {chain : List Rule} (h : ∀ r ∈ chain, r.Closed) :
    (Rule.textList chain).Closed := by
  intro values context v
  have hall : ∀ texts, Rule.checkAllTexts chain values context texts =
      Rule.checkAllTexts chain [] none texts := by
    induction chain with
    | nil => exact fun _ => rfl
    | cons r rest ih =>
      intro texts
      obtain ⟨hr, hrest⟩ := List.forall_mem_cons.mp h
      have hcheck : r.check values context = r.check [] none := funext (hr values context)
      simp only [Rule.checkAllTexts, hcheck, ih hrest]
  simp only [Rule.check, hall]

/-- A map that passes a closed form, if there is one, is closed. -/
lemma Rule.Closed.map {form : Option Form} (h : ∀ f ∈ form, f.Closed) (shape : Option Shape) :
    (Rule.map form shape).Closed := by
  intro values context v
  have hinner : ∀ (outer other : Dict Value) (entries : Dict Value),
      Rule.runInner form outer entries = Rule.runInner form other entries := by
    intro outer other entries
    cases form with
    | none => rfl
    | some f =>
      rw [Rule.runInner, Rule.runInner, h f rfl .full entries (some outer),
        h f rfl .full entries (some other)]
  cases v with
  | map entries =>
    simp only [Rule.check, hinner (innerContext values context) (innerContext [] none)]
  | null | bool | int | float | string | bytes | list => rfl

/-- Options of closed rules are closed. -/
lemma Rule.Closed.or {options : List (List Rule)} (h : ∀ chain ∈ options, ∀ r ∈ chain, r.Closed) :
    (Rule.or options).Closed := by
  intro values context v
  have hfirst : Rule.firstOption options values context v =
      Rule.firstOption options [] none v := by
    induction options with
    | nil => rfl
    | cons chain rest ih =>
      obtain ⟨hchain, hrest⟩ := List.forall_mem_cons.mp h
      simp only [Rule.firstOption, Rule.checkNested_of_closed hchain values context v, ih hrest]
  simp only [Rule.check, hfirst]

/-- A map that passes a closed form is closed. -/
lemma Rule.Closed.ofForm {form : Form} (h : form.Closed) : (Rule.ofForm form).Closed :=
  .map (fun _ hf => Option.some.inj hf ▸ h) none

/-- A chain of closed rules runs the same in every context. -/
lemma Rule.runSteps_of_closed {chain : List Rule} (h : ∀ r ∈ chain, r.Closed) (mode : RunMode)
    (key : String) (context : Option (Dict Value)) (p : Progress) (v : Value) :
    Rule.runSteps chain mode key context p v = Rule.runSteps chain mode key none p v := by
  induction chain generalizing p v with
  | nil => rfl
  | cons r rest ih =>
    obtain ⟨hr, hrest⟩ := List.forall_mem_cons.mp h
    simp only [Rule.runSteps_cons, hr p.values context v, hr p.values none v, ih hrest]

/-- A form of closed chains is closed. -/
lemma Form.closed_of_chains {form : Form} (h : ∀ f ∈ form.fields, ∀ r ∈ f.chain, r.Closed) :
    form.Closed := by
  obtain ⟨fields, strict, sanitizeKeys, errorMsg, name, examples, transforms, hook⟩ := form
  intro mode input context
  have hall : ∀ input p, Field.runAll fields mode context input p =
      Field.runAll fields mode none input p := by
    induction fields with
    | nil => exact fun _ _ => rfl
    | cons f rest ih =>
      intro input p
      obtain ⟨name, chain, examples⟩ := f
      obtain ⟨hf, hrest⟩ := List.forall_mem_cons.mp h
      simp only [Field.runAll, Rule.runSteps_of_closed hf mode _ context, ih hrest]
  simp only [Form.run, hall]

/-! ### Outcomes -/

/-- What a chain of closed rules leaves under its key, given what stands there; nothing if a rule
rejects the value. -/
def settle? : List Rule → Option Value → Value → Option (Option Value)
  | [], last, _ => some last
  | r :: rest, last, v =>
    match r.check [] none v with
    | .error _ => none
    | .ok w => if w.isNull then some last else settle? rest (some w) w

/-- What a field of closed rules leaves under its name. -/
def Field.outcome? (f : Field) (input : Dict Value) : Option (Option Value) :=
  if f.chain.isEmpty then some (input.find? f.name)
  else settle? f.chain none ((input.find? f.name).getD .null)

/-- Stores a value if there is one. -/
def Progress.put (p : Progress) (key : String) (v : Option Value) : Progress :=
  match v with
  | none => p
  | some v => p.store key v

/-- A second value under a key takes the place of the first one. -/
lemma Progress.store_store (p : Progress) (key : String) (v w : Value) :
    (p.store key v).store key w = p.store key w := by
  simp only [Progress.store, Dict.insert_insert]

/-- A value takes the place of what was stored under its key. -/
lemma Progress.put_store (p : Progress) (key : String) (last : Option Value) (w : Value) :
    (p.put key last).store key w = p.put key (some w) := by
  cases last with
  | none => rfl
  | some v => exact p.store_store key v w

/-- A chain of closed rules that rejects nothing stores what it leaves. -/
lemma runSteps_of_settle? {chain : List Rule} (h : ∀ r ∈ chain, r.Closed) (key : String)
    (p : Progress) {last s : Option Value} {v : Value} (hs : settle? chain last v = some s) :
    Rule.runSteps chain .full key none (p.put key last) v = p.put key s := by
  induction chain generalizing last v with
  | nil =>
    obtain rfl : last = s := Option.some.inj hs
    rfl
  | cons r rest ih =>
    obtain ⟨hr, hrest⟩ := List.forall_mem_cons.mp h
    rw [Rule.runSteps_full_cons, hr]
    rw [settle?] at hs
    cases hw : r.check [] none v with
    | error e => simp [hw] at hs
    | ok w =>
      rw [hw] at hs
      dsimp only at hs ⊢
      split_ifs at hs ⊢ with hnull
      · rw [Option.some.inj hs]
      · rw [Progress.put_store]
        exact ih hrest hs

/-- A chain of closed rules that rejects a value reports it. -/
lemma errors_runSteps_ne_nil {chain : List Rule} (h : ∀ r ∈ chain, r.Closed) (key : String)
    (p : Progress) {last : Option Value} {v : Value} (hs : settle? chain last v = none) :
    (Rule.runSteps chain .full key none p v).errors ≠ [] := by
  induction chain generalizing p last v with
  | nil => cases hs
  | cons r rest ih =>
    obtain ⟨hr, hrest⟩ := List.forall_mem_cons.mp h
    rw [Rule.runSteps_full_cons, hr]
    rw [settle?] at hs
    cases hw : r.check [] none v with
    | error e => exact FieldErrors.add_ne_nil _ _ _
    | ok w =>
      rw [hw] at hs
      dsimp only at hs ⊢
      split_ifs at hs ⊢ with hnull
      exact ih hrest _ hs

/-- A field on an input, from what is found so far. -/
def Field.runOn (f : Field) (input : Dict Value) (p : Progress) : Progress :=
  if f.chain.isEmpty then copyRaw input p f.name
  else Rule.runSteps f.chain .full f.name none p ((input.find? f.name).getD .null)

/-- Fields that are no wildcards run one after another. -/
lemma runAll_of_named {fields : List Field} (h : Field.wildcardName ∉ fields.map Field.name)
    (input : Dict Value) (p : Progress) :
    Field.runAll fields .full none input p = fields.foldl (fun p f => f.runOn input p) p := by
  induction fields generalizing p with
  | nil => rfl
  | cons f rest ih =>
    obtain ⟨name, chain, examples⟩ := f
    obtain ⟨hne, hrest⟩ : Field.wildcardName ≠ name ∧
        Field.wildcardName ∉ rest.map Field.name := by simpa using h
    have hname : (name == Field.wildcardName) = false := by simpa using Ne.symm hne
    simp only [Field.runAll, visitedKeys, hname, Bool.false_eq_true, if_false, List.foldl_cons,
      List.foldl_nil, Field.runOn, ih hrest]

/-- A wildcard runs like a field for every key of the input. -/
lemma runAll_wildcard (chain : List Rule) (input : Dict Value) (p : Progress) :
    Field.runAll [.wildcard chain] .full none input p =
      (input.keys.map (Field.new · chain)).foldl (fun p f => f.runOn input p) p := by
  simp only [Field.wildcard, Field.new, Field.runAll, visitedKeys, BEq.rfl, if_true,
    List.foldl_map, Field.runOn]

/-- A closed field that rejects nothing stores its outcome. -/
lemma runOn_of_outcome? {f : Field} (h : ∀ r ∈ f.chain, r.Closed) {input : Dict Value}
    (p : Progress) {s : Option Value} (hs : f.outcome? input = some s) :
    f.runOn input p = p.put f.name s := by
  rw [Field.outcome?] at hs
  rw [Field.runOn]
  split_ifs at hs ⊢ with hc
  · rw [← Option.some.inj hs, copyRaw]
    cases input.find? f.name <;> rfl
  · exact runSteps_of_settle? h f.name p hs

/-- A closed field without an outcome reports an error. -/
lemma errors_runOn_ne_nil {f : Field} (h : ∀ r ∈ f.chain, r.Closed) {input : Dict Value}
    (p : Progress) (hs : f.outcome? input = none) : (f.runOn input p).errors ≠ [] := by
  rw [Field.outcome?] at hs
  rw [Field.runOn]
  split_ifs at hs ⊢ with hc
  exact errors_runSteps_ne_nil h f.name p hs

/-- Errors stay while a field runs. -/
lemma errors_runOn_of_errors (f : Field) (input : Dict Value) {p : Progress} (h : p.errors ≠ []) :
    (f.runOn input p).errors ≠ [] := by
  rw [Field.runOn]
  split_ifs
  · rw [copyRaw]
    split <;> exact h
  · rw [Rule.runSteps_eq]
    unfold reportEnd
    split
    · exact FieldErrors.add_ne_nil _ _ _
    · exact h

/-- What the outcome of a field leaves under its name, if there is one. -/
def Field.left? (input : Dict Value) (f : Field) : Option Value := (f.outcome? input).join

/-- Closed fields with new and distinct names, none of which rejects its value, store what they
leave. -/
lemma foldl_runOn_of_outcomes {fields : List Field}
    (hclosed : ∀ f ∈ fields, ∀ r ∈ f.chain, r.Closed) (hnames : (fields.map Field.name).Nodup)
    {input : Dict Value} {p : Progress} (hnew : ∀ f ∈ fields, f.name ∉ p.values.keys)
    (hpass : ∀ f ∈ fields, ∃ s, f.outcome? input = some s) :
    fields.foldl (fun p f => f.runOn input p) p =
      ⟨p.values ++ Dict.gather Field.name (Field.left? input) fields, p.errors⟩ := by
  induction fields generalizing p with
  | nil => simp
  | cons f rest ih =>
    obtain ⟨hf, hclosed⟩ := List.forall_mem_cons.mp hclosed
    obtain ⟨hname, hnames⟩ := List.nodup_cons.mp hnames
    obtain ⟨hfresh, hnew⟩ := List.forall_mem_cons.mp hnew
    obtain ⟨⟨s, hs⟩, hpass⟩ := List.forall_mem_cons.mp hpass
    rw [List.foldl_cons, runOn_of_outcome? hf p hs, Dict.gather_cons, Field.left?, hs]
    cases s with
    | none => exact ih hclosed hnames hnew hpass
    | some v =>
      have hnext : ∀ g ∈ rest, g.name ∉ (p.store f.name v).values.keys := by
        intro g hg hmem
        rcases Dict.mem_keys_insert.mp hmem with heq | hin
        · exact hname (heq ▸ List.mem_map_of_mem hg)
        · exact hnew g hg hin
      have hrest := ih hclosed hnames hnext hpass
      simpa [Progress.put, Progress.store, Dict.insert_of_notMem v hfresh] using hrest

/-- Closed fields report an error if one of them rejects its value. -/
lemma errors_foldl_runOn_ne_nil {fields : List Field}
    (hclosed : ∀ f ∈ fields, ∀ r ∈ f.chain, r.Closed) {input : Dict Value} {p : Progress}
    (h : p.errors ≠ [] ∨ ∃ f ∈ fields, f.outcome? input = none) :
    (fields.foldl (fun p f => f.runOn input p) p).errors ≠ [] := by
  induction fields generalizing p with
  | nil => simpa using h
  | cons g rest ih =>
    obtain ⟨hg, hclosed⟩ := List.forall_mem_cons.mp hclosed
    refine ih hclosed ?_
    rcases h with hp | ⟨f, hf, hs⟩
    · exact Or.inl (errors_runOn_of_errors g input hp)
    · rcases List.mem_cons.mp hf with rfl | hmem
      · exact Or.inl (errors_runOn_ne_nil hg p hs)
      · exact Or.inr ⟨f, hmem, hs⟩

/-- A form without code that runs closed fields passes when it expects all keys and every field has
an outcome, and gathers what the fields leave. -/
lemma finish_foldl_runOn_eq_ok_iff {fields : List Field}
    (hclosed : ∀ f ∈ fields, ∀ r ∈ f.chain, r.Closed) (hnames : (fields.map Field.name).Nodup)
    (message : String) (unexpected : List String) {input checked : Dict Value} :
    finish message [] none unexpected (fields.foldl (fun p f => f.runOn input p) .start) =
        .ok checked ↔
      unexpected = [] ∧ (∀ f ∈ fields, ∃ s, f.outcome? input = some s) ∧
        checked = Dict.gather Field.name (Field.left? input) fields := by
  by_cases hpass : ∀ f ∈ fields, ∃ s, f.outcome? input = some s
  · have hnew : ∀ f ∈ fields, f.name ∉ Dict.keys Progress.start.values :=
      fun _ _ => List.not_mem_nil
    rw [foldl_runOn_of_outcomes hclosed hnames hnew hpass, Progress.start, List.nil_append,
      Form.finish_of_no_errors, and_iff_right hpass]
    split_ifs with hkeys <;> simp [hkeys, eq_comm]
  · have herrors : (fields.foldl (fun p f => f.runOn input p) Progress.start).errors ≠ [] := by
      push Not at hpass
      obtain ⟨f, hf, hs⟩ := hpass
      exact errors_foldl_runOn_ne_nil hclosed
        (Or.inr ⟨f, hf, Option.eq_none_iff_forall_ne_some.mpr hs⟩)
    rw [Form.finish_of_errors _ _ _ _ herrors]
    simp [hpass]

/-! ### Forms -/

/-- A form of closed chains under distinct names, without wildcard and code. -/
structure Form.Fieldwise (form : Form) : Prop where
  closed : ∀ f ∈ form.fields, ∀ r ∈ f.chain, r.Closed
  names : (form.fields.map Field.name).Nodup
  named : Field.wildcardName ∉ form.fields.map Field.name
  sanitizeKeys : form.sanitizeKeys = false
  transforms : form.transforms = []
  hook : form.hook = none

/-- A fieldwise form passes an input when it expects all keys and every field has an outcome, and
gathers what the fields leave. -/
theorem Form.validate_eq_ok_iff {form : Form} (h : form.Fieldwise) {input checked : Dict Value} :
    form.validate input = .ok checked ↔
      form.unexpected input = [] ∧ (∀ f ∈ form.fields, ∃ s, f.outcome? input = some s) ∧
        checked = Dict.gather Field.name (Field.left? input) form.fields := by
  obtain ⟨hclosed, hnames, hnamed, hkeys, htransforms, hhook⟩ := h
  rw [← finish_foldl_runOn_eq_ok_iff hclosed hnames form.errorMessage, ← runAll_of_named hnamed,
    ← Form.unexpectedKeys_eq, Form.sanitized]
  obtain ⟨fields, strict, sanitizeKeys, errorMsg, name, examples, transforms, hook⟩ := form
  obtain rfl : sanitizeKeys = false := hkeys
  obtain rfl : transforms = [] := htransforms
  obtain rfl : hook = none := hhook
  rfl

/-- A form of one wildcard passes an input when its chain rejects no value, and gathers what the
chain leaves under each key. -/
theorem Form.validate_wildcard_eq_ok_iff {chain : List Rule} (hchain : chain ≠ [])
    (hclosed : ∀ r ∈ chain, r.Closed) {input checked : Dict Value} (hinput : input.Distinct) :
    (Form.new [.wildcard chain]).validate input = .ok checked ↔
      (∀ e ∈ input, ∃ s, settle? chain none e.2 = some s) ∧
        checked = Dict.gather Prod.fst (fun e => (settle? chain none e.2).join) input := by
  have hfields : ∀ f ∈ input.keys.map (Field.new · chain), ∀ r ∈ f.chain, r.Closed := by
    intro f hf
    obtain ⟨key, -, rfl⟩ := List.mem_map.mp hf
    exact hclosed
  have hnames : ((input.keys.map (Field.new · chain)).map Field.name).Nodup := by
    rw [List.map_map]
    exact (List.map_id _).symm ▸ hinput
  have houtcome : ∀ e ∈ input, (Field.new e.1 chain).outcome? input = settle? chain none e.2 := by
    intro e he
    rw [Field.outcome?, Field.new, if_neg (by simpa using hchain), Dict.find?_of_mem hinput he,
      Option.getD_some]
  have hrun : (Form.new [.wildcard chain]).validate input =
      finish FormError.defaultMessage [] none []
        (Field.runAll [.wildcard chain] .full none input .start) := rfl
  rw [hrun, runAll_wildcard, finish_foldl_runOn_eq_ok_iff hfields hnames, Dict.keys,
    List.map_map, List.forall_mem_map]
  have hgather : Dict.gather Field.name (Field.left? input)
      (input.map ((Field.new · chain) ∘ Prod.fst)) =
        Dict.gather Prod.fst (fun e => (settle? chain none e.2).join) input := by
    rw [Dict.gather, List.filterMap_map]
    refine List.filterMap_congr fun e he => ?_
    rw [Function.comp_apply, Function.comp_apply, Field.left?, houtcome e he]
    rfl
  rw [hgather]
  refine ⟨fun h => ⟨fun e he => houtcome e he ▸ h.2.1 e he, h.2.2⟩,
    fun h => ⟨rfl, fun e he => (houtcome e he).symm ▸ h.1 e he, h.2⟩⟩

end Intake
