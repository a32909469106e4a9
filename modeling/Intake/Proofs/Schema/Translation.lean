import Intake.Proofs.Schema.Descriptions
import Intake.Schema.Describe
import Mathlib.Data.List.Perm.Basic

set_option autoImplicit false

/-!
# Translations between rules and descriptions

What is made of rules is described by what is made of descriptions, in the same way: chains by
chains, cases by cases, forms by forms. A translation is such a pair; it is lawful up to a depth if
everything that is built of descriptions up to that depth can be described and built again.

## Main definitions

* `Resolver.Agrees` — resolvers that do what the registry does up to a depth.
* `Translation` — describing and building.
* `Translation.Gives` — what everything has that is built of sound descriptions.
* `Translation.Reloads`, `Translation.Lawful` — what can be described and built again, and
  translations that build nothing else.
* `Translation.rule`, `Translation.chain`, `Translation.form`, … — the translations.

## Main results

* `Translation.Gives.list`, `Translation.Gives.option` — what every item has that is built.
* `Translation.Lawful.list` — a lawful translation is lawful item by item.
* `Translation.Lawful.form` — forms reload when the rules in them do.
-/

namespace Intake

/-! ### Item by item -/

/-- A step for every item of a list, one after another. -/
structure IsTraversal {ε α β : Type} (each : List α → Except ε (List β)) (step : α → Except ε β) :
    Prop where
  nil : each [] = .ok []
  cons : ∀ a rest, each (a :: rest) = (step a).bind fun b => (each rest).map (b :: ·)

/-- A traversal gives the results of its steps. -/
lemma IsTraversal.eq_ok_iff {ε α β : Type} {each : List α → Except ε (List β)}
    {step : α → Except ε β} (h : IsTraversal each step) {as : List α} {bs : List β} :
    each as = .ok bs ↔ List.Forall₂ (fun a b => step a = .ok b) as bs := by
  induction as generalizing bs with
  | nil => simp [h.nil, eq_comm]
  | cons a rest ih =>
    rw [h.cons, List.forall₂_cons_left_iff]
    simp only [bind_eq_ok_iff, map_cons_eq_ok_iff, ih]
    constructor
    · rintro ⟨b, hb, cs, hcs, rfl⟩
      exact ⟨b, cs, hb, hcs, rfl⟩
    · rintro ⟨b, cs, hb, hcs, rfl⟩
      exact ⟨b, hb, cs, hcs, rfl⟩

/-- Items in another order give their results in that order. -/
lemma IsTraversal.exists_perm {ε α β : Type} {each : List α → Except ε (List β)}
    {step : α → Except ε β} (h : IsTraversal each step) {as as' : List α} {bs : List β}
    (hperm : as'.Perm as) (has : each as = .ok bs) : ∃ bs', each as' = .ok bs' ∧ bs'.Perm bs := by
  obtain ⟨bs', hbs', hpermuted⟩ := List.perm_comp_forall₂ hperm (h.eq_ok_iff.mp has)
  exact ⟨bs', h.eq_ok_iff.mpr hbs', hpermuted⟩

/-! ### Translations -/

variable [PatternEngine]

/-- A resolver does what the registry of the built-in types does up to a depth. -/
def Resolver.Agrees (resolve : Resolver) (n : Nat) : Prop :=
  ∀ d : RuleDescription, d.depth < n → resolve d = Registry.builtin.resolve d

/-- A way to describe and to build, with the descriptions that are sound up to a depth. -/
structure Translation (α β : Type) where
  describe : α → Except SchemaError β
  build : Resolver → β → Except SchemaError α
  Sound : Nat → β → Prop
  mono : ∀ {m n : Nat} {b : β}, Sound m b → m ≤ n → Sound n b

namespace Translation

variable {α β γ δ : Type}

/-- Something is described soundly, and is built again from its description. -/
def Reloads (T : Translation α β) (a : α) : Prop :=
  ∃ b, T.describe a = .ok b ∧ (∃ n, T.Sound n b) ∧
    ∀ n resolve, Resolver.Agrees resolve n → T.Sound n b → T.build resolve b = .ok a

/-- Everything that is built of descriptions that are sound up to a depth has a property. -/
def Gives (T : Translation α β) (n : Nat) (Q : α → Prop) : Prop :=
  ∀ resolve b a, Resolver.Agrees resolve n → T.Sound n b → T.build resolve b = .ok a → Q a

/-- What is built of sound descriptions reloads. -/
def Lawful (T : Translation α β) (n : Nat) : Prop :=
  ∀ resolve b a, Resolver.Agrees resolve n → T.Sound n b → T.build resolve b = .ok a → T.Reloads a

/-- Lists, item by item. -/
def list (T : Translation α β) (describe : List α → Except SchemaError (List β))
    (build : Resolver → List β → Except SchemaError (List α)) : Translation (List α) (List β) where
  describe := describe
  build := build
  Sound n bs := ∀ b ∈ bs, T.Sound n b
  mono h hle b hb := T.mono (h b hb) hle

/-- What every item has, every item of a list has. -/
lemma Gives.list {T : Translation α β} {n : Nat} {Q : α → Prop} (h : T.Gives n Q)
    {describe : List α → Except SchemaError (List β)}
    {build : Resolver → List β → Except SchemaError (List α)}
    (hbuild : ∀ resolve, IsTraversal (build resolve) (T.build resolve)) :
    (T.list describe build).Gives n fun as => ∀ a ∈ as, Q a := by
  intro resolve bs as hagrees hsound has a ha
  obtain ⟨b, hb, hab⟩ := exists_mem_of_forall₂ ((hbuild resolve).eq_ok_iff.mp has) ha
  exact h resolve b a hagrees (hsound b hb) hab

/-- Items that reload make a list that reloads. -/
lemma Reloads.list {T : Translation α β} {describe : List α → Except SchemaError (List β)}
    {build : Resolver → List β → Except SchemaError (List α)}
    (hdescribe : IsTraversal describe T.describe)
    (hbuild : ∀ resolve, IsTraversal (build resolve) (T.build resolve)) {as : List α}
    (h : ∀ a ∈ as, T.Reloads a) : (T.list describe build).Reloads as := by
  induction as with
  | nil =>
    exact ⟨[], hdescribe.nil, ⟨0, fun _ hb => absurd hb List.not_mem_nil⟩,
      fun _ resolve _ _ => (hbuild resolve).nil⟩
  | cons a rest ih =>
    obtain ⟨⟨b, hb, ⟨m, hm⟩, hreb⟩, hrest⟩ := List.forall_mem_cons.mp h
    obtain ⟨bs, hbs, ⟨n, hn⟩, hrebs⟩ := ih hrest
    refine ⟨b :: bs, ?_, ⟨max m n, ?_⟩, ?_⟩
    · exact hdescribe.eq_ok_iff.mpr (.cons hb (hdescribe.eq_ok_iff.mp hbs))
    · exact List.forall_mem_cons.mpr ⟨T.mono hm (Nat.le_max_left m n),
        fun c hc => T.mono (hn c hc) (Nat.le_max_right m n)⟩
    · intro k resolve hagrees hsound
      obtain ⟨hfirst, hothers⟩ := List.forall_mem_cons.mp hsound
      exact (hbuild resolve).eq_ok_iff.mpr (.cons (hreb k resolve hagrees hfirst)
        ((hbuild resolve).eq_ok_iff.mp (hrebs k resolve hagrees hothers)))

/-- **A lawful translation is lawful item by item.** -/
theorem Lawful.list {T : Translation α β} {n : Nat} (hT : T.Lawful n)
    {describe : List α → Except SchemaError (List β)}
    {build : Resolver → List β → Except SchemaError (List α)}
    (hdescribe : IsTraversal describe T.describe)
    (hbuild : ∀ resolve, IsTraversal (build resolve) (T.build resolve)) :
    (T.list describe build).Lawful n := by
  intro resolve bs as hagrees hsound h
  have hitems : ∀ a ∈ as, T.Reloads a := Gives.list hT hbuild resolve bs as hagrees hsound h
  exact Reloads.list hdescribe hbuild hitems

/-- Something that may be missing. -/
def option (T : Translation α β) : Translation (Option α) (Option β) where
  describe
    | none => .ok none
    | some a => (T.describe a).map some
  build resolve
    | none => .ok none
    | some b => (T.build resolve b).map some
  Sound n b? := ∀ b ∈ b?, T.Sound n b
  mono h hle b hb := T.mono (h b hb) hle

/-- What everything has that is built, everything has that may be missing. -/
lemma Gives.option {T : Translation α β} {n : Nat} {Q : α → Prop} (h : T.Gives n Q) :
    T.option.Gives n fun a? => ∀ a ∈ a?, Q a := by
  intro resolve b? a? hagrees hsound hbuild
  cases b? with
  | none =>
    cases hbuild
    exact nofun
  | some b =>
    obtain ⟨a, ha, rfl⟩ := map_eq_ok_iff.mp hbuild
    rintro _ ⟨⟩
    exact h resolve b a hagrees (hsound b rfl) ha

/-- A lawful translation is lawful for what may be missing. -/
theorem Lawful.option {T : Translation α β} {n : Nat} (hT : T.Lawful n) : T.option.Lawful n := by
  intro resolve b? a? hagrees hsound h
  cases b? with
  | none =>
    cases h
    exact ⟨none, rfl, ⟨0, nofun⟩, fun _ _ _ _ => rfl⟩
  | some b =>
    obtain ⟨a, ha, rfl⟩ := map_eq_ok_iff.mp h
    obtain ⟨c, hc, ⟨m, hm⟩, hre⟩ := hT resolve b a hagrees (hsound b rfl) ha
    refine ⟨some c, map_eq_ok_iff.mpr ⟨c, hc, rfl⟩, ⟨m, ?_⟩, fun k resolve hagrees hsound =>
      map_eq_ok_iff.mpr ⟨a, hre k resolve hagrees (hsound c rfl), rfl⟩⟩
    rintro _ hx
    exact Option.some.inj hx ▸ hm

/-! ### Chains -/

/-- Rules and their descriptions. -/
def rule : Translation Rule RuleDescription where
  describe := Rule.describe .builtin
  build resolve := resolve
  Sound := Reading.rule.Sound
  mono := by
    rintro m n d ⟨k, hk, h⟩ hle
    exact ⟨k, Nat.lt_of_lt_of_le hk hle, h⟩

/-- Chains of rules, rule by rule. -/
def chain : Translation (List Rule) (List RuleDescription) :=
  rule.list (Rule.describeChain .builtin) resolveEach

/-- Chains are described rule by rule. -/
lemma isTraversal_describeChain :
    IsTraversal (Rule.describeChain .builtin) (Rule.describe .builtin) where
  nil := rfl
  cons r rest := by
    rw [Rule.describeChain]
    cases r.describe .builtin <;> rfl

omit [PatternEngine] in
/-- Chains are built rule by rule. -/
lemma isTraversal_resolveEach (resolve : Resolver) : IsTraversal (resolveEach resolve) resolve where
  nil := rfl
  cons d rest := by
    rw [resolveEach]
    cases resolve d <;> rfl

/-- Chains reload when their rules do. -/
theorem Lawful.chain {n : Nat} (h : rule.Lawful n) : chain.Lawful n :=
  h.list isTraversal_describeChain isTraversal_resolveEach

/-! ### Options and cases -/

/-- Options, chain by chain. -/
def options : Translation (List (List Rule)) (List (List RuleDescription)) :=
  chain.list (Rule.describeOptions .builtin) Builtin.resolveOptions

/-- Options are described chain by chain. -/
lemma isTraversal_describeOptions :
    IsTraversal (Rule.describeOptions .builtin) chain.describe where
  nil := rfl
  cons c rest := by
    have hchain : chain.describe c = Rule.describeChain .builtin c := rfl
    rw [Rule.describeOptions, hchain]
    cases Rule.describeChain .builtin c <;> rfl

/-- Options are built chain by chain. -/
lemma isTraversal_resolveOptions (resolve : Resolver) :
    IsTraversal (Builtin.resolveOptions resolve) (chain.build resolve) where
  nil := rfl
  cons option rest := by
    have hoption : chain.build resolve option = resolveEach resolve option := rfl
    rw [Builtin.resolveOptions, hoption]
    cases resolveEach resolve option <;> rfl

/-- Options reload when their rules do. -/
theorem Lawful.options {n : Nat} (h : rule.Lawful n) : options.Lawful n :=
  h.chain.list isTraversal_describeOptions isTraversal_resolveOptions

/-- Cases under their names. -/
def case : Translation (String × List Rule) (String × List RuleDescription) where
  describe c := (chain.describe c.2).map (c.1, ·)
  build resolve c := (chain.build resolve c.2).map (c.1, ·)
  Sound n c := chain.Sound n c.2
  mono h hle := chain.mono h hle

/-- Cases, one by one. -/
def cases : Translation (List (String × List Rule)) (Dict (List RuleDescription)) :=
  case.list (Rule.describeCases .builtin) Builtin.resolveCases

/-- A case reloads when its rules do. -/
theorem Lawful.case {n : Nat} (h : rule.Lawful n) : case.Lawful n := by
  intro resolve b a hagrees hsound hb
  obtain ⟨rs, hrs, rfl⟩ := map_eq_ok_iff.mp hb
  obtain ⟨ds, hds, ⟨m, hm⟩, hre⟩ := h.chain resolve b.2 rs hagrees hsound hrs
  exact ⟨(b.1, ds), map_eq_ok_iff.mpr ⟨ds, hds, rfl⟩, ⟨m, hm⟩, fun k resolve hagrees hsound =>
    map_eq_ok_iff.mpr ⟨rs, hre k resolve hagrees hsound, rfl⟩⟩

/-- Cases are described one by one. -/
lemma isTraversal_describeCases : IsTraversal (Rule.describeCases .builtin) case.describe where
  nil := rfl
  cons c rest := by
    have hc : case.describe c = (Rule.describeChain .builtin c.2).map (c.1, ·) := rfl
    rw [Rule.describeCases, hc]
    cases Rule.describeChain .builtin c.2 <;> rfl

/-- Cases are built one by one. -/
lemma isTraversal_resolveCases (resolve : Resolver) :
    IsTraversal (Builtin.resolveCases resolve) (case.build resolve) where
  nil := rfl
  cons c rest := by
    have hc : case.build resolve c = (resolveEach resolve c.2).map (c.1, ·) := rfl
    rw [Builtin.resolveCases, hc]
    cases resolveEach resolve c.2 <;> rfl

/-- Cases reload when their rules do. -/
theorem Lawful.cases {n : Nat} (h : rule.Lawful n) : cases.Lawful n :=
  h.case.list isTraversal_describeCases isTraversal_resolveCases

/-- Cases are described under their names. -/
lemma keys_of_describeCases {cases : Dict (List Rule)} {described : Dict (List RuleDescription)}
    (h : Rule.describeCases .builtin cases = .ok described) : described.keys = cases.keys := by
  refine Dict.keys_eq_of_forall₂ (fun c b hb => ?_) (isTraversal_describeCases.eq_ok_iff.mp h)
  obtain ⟨ds, -, rfl⟩ := map_eq_ok_iff.mp hb
  rfl

/-- Cases are built under their names. -/
lemma keys_of_resolveCases {resolve : Resolver} {cases : Dict (List Rule)}
    {described : Dict (List RuleDescription)}
    (h : Builtin.resolveCases resolve described = .ok cases) : cases.keys = described.keys := by
  refine Dict.keys_eq_of_forall₂ (fun c b hb => ?_)
    ((isTraversal_resolveCases resolve).eq_ok_iff.mp h)
  obtain ⟨rs, -, rfl⟩ := map_eq_ok_iff.mp hb
  rfl

/-- A fallback is described like something that may be missing. -/
lemma describeFallback_eq (chain? : Option (List Rule)) :
    Rule.describeFallback .builtin chain? = chain.option.describe chain? := by
  cases chain? <;> rfl

/-- A fallback is built like something that may be missing. -/
lemma resolveFallback_eq (resolve : Resolver) (chain? : Option (List RuleDescription)) :
    Builtin.resolveFallback resolve chain? = chain.option.build resolve chain? := by
  cases chain? <;> rfl

/-! ### Forms -/

/-- Fields with their names and examples. -/
def field : Translation Field FieldDescription where
  describe f := (chain.describe f.chain).map fun ds => ⟨f.name, ds, f.examples⟩
  build resolve d := (chain.build resolve d.chain).map fun rs => ⟨d.name, rs, d.examples⟩
  Sound := (Reading.ofSchema FieldDescription.schema).Sound
  mono := by
    rintro m n d ⟨k, hk, h⟩ hle
    exact ⟨k, Nat.lt_of_lt_of_le hk hle, h⟩

/-- Fields, one by one. -/
def fields : Translation (List Field) (List FieldDescription) :=
  field.list (Field.describeAll .builtin) buildFields

/-- A field reloads when its rules do. -/
theorem Lawful.field {n : Nat} (h : rule.Lawful n) : field.Lawful n := by
  rintro resolve d f hagrees ⟨k, hk, hd⟩ hf
  obtain ⟨rs, hrs, rfl⟩ := map_eq_ok_iff.mp hf
  obtain ⟨hname, ⟨hchain, -⟩, ⟨hexamples, hgiven⟩, -⟩ := hd.params
  obtain ⟨ds, hds, ⟨m, hm⟩, hre⟩ := h.chain resolve d.chain rs hagrees
    (Translation.chain.mono hchain (Nat.le_of_lt hk)) hrs
  refine ⟨⟨d.name, ds, d.examples⟩, map_eq_ok_iff.mpr ⟨ds, hds, rfl⟩,
    ⟨max k m + 1, max k m, Nat.lt_succ_self _, rfl, ?_⟩, ?_⟩
  · have hchain : (Reading.list .rule rfl).Sound (max k m) ds :=
      Translation.chain.mono hm (Nat.le_max_right k m)
    refine ⟨hname, ⟨hchain, (Reading.list_solid _ _).not_missing hchain⟩,
      ⟨fun e he => ?_, hgiven⟩, trivial⟩
    obtain ⟨j, hj, he⟩ := hexamples e he
    exact ⟨j, Nat.lt_of_lt_of_le hj (Nat.le_max_left k m), he⟩
  · rintro n resolve hagrees ⟨j, hj, hd⟩
    obtain ⟨-, ⟨hchain, -⟩, -⟩ := hd.params
    exact map_eq_ok_iff.mpr
      ⟨rs, hre n resolve hagrees (Translation.chain.mono hchain (Nat.le_of_lt hj)), rfl⟩

/-- Fields are described one by one. -/
lemma isTraversal_describeAll : IsTraversal (Field.describeAll .builtin) field.describe where
  nil := rfl
  cons f rest := by
    obtain ⟨name, chain, examples⟩ := f
    have hf : field.describe ⟨name, chain, examples⟩ =
        (Rule.describeChain .builtin chain).map fun ds => ⟨name, ds, examples⟩ := rfl
    rw [Field.describeAll, hf]
    cases Rule.describeChain .builtin chain <;> rfl

/-- Fields are built one by one. -/
lemma isTraversal_buildFields (resolve : Resolver) :
    IsTraversal (buildFields resolve) (field.build resolve) where
  nil := rfl
  cons d rest := by
    have hd : field.build resolve d =
        (resolveEach resolve d.chain).map fun rs => ⟨d.name, rs, d.examples⟩ := rfl
    rw [buildFields, hd]
    cases resolveEach resolve d.chain <;> rfl

/-- Fields reload when their rules do. -/
theorem Lawful.fields {n : Nat} (h : rule.Lawful n) : fields.Lawful n :=
  h.field.list isTraversal_describeAll isTraversal_buildFields

/-- Forms without code. -/
def form : Translation Form FormDescription where
  describe := Form.describe .builtin
  build resolve d := d.build resolve
  Sound := (Reading.ofSchema FormDescription.schema).Sound
  mono := by
    rintro m n d ⟨k, hk, h⟩ hle
    exact ⟨k, Nat.lt_of_lt_of_le hk hle, h⟩

/-- **Forms reload when the rules in them do.** -/
theorem Lawful.form {n : Nat} (h : rule.Lawful n) : form.Lawful n := by
  rintro resolve d f hagrees ⟨k, hk, hd⟩ hf
  obtain ⟨fs, hfs, rfl⟩ := map_eq_ok_iff.mp hf
  obtain ⟨hstrict, hsanitize, hname, hmsg, ⟨hexamples, hgiven⟩, hfields, -⟩ := hd.params
  obtain ⟨ds, hds, ⟨m, hm⟩, hre⟩ := h.fields resolve d.fields fs hagrees
    (Translation.fields.mono hfields (Nat.le_of_lt hk)) hfs
  refine ⟨⟨d.strict, d.sanitizeKeys, d.name, d.errorMsg, d.examples, ds⟩,
    map_eq_ok_iff.mpr ⟨ds, hds, rfl⟩, ⟨max k m + 1, max k m, Nat.lt_succ_self _, rfl, ?_⟩, ?_⟩
  · have hfields : (Reading.list (.ofSchema FieldDescription.schema) rfl).Sound (max k m) ds :=
      Translation.fields.mono hm (Nat.le_max_right k m)
    refine ⟨hstrict, hsanitize, hname, hmsg, ⟨fun e he => ?_, hgiven⟩, hfields, trivial⟩
    obtain ⟨j, hj, he⟩ := hexamples e he
    exact ⟨j, Nat.lt_of_lt_of_le hj (Nat.le_max_left k m), he⟩
  · rintro n resolve hagrees ⟨j, hj, hd⟩
    obtain ⟨-, -, -, -, -, hfields, -⟩ := hd.params
    exact map_eq_ok_iff.mpr
      ⟨fs, hre n resolve hagrees (Translation.fields.mono hfields (Nat.le_of_lt hj)), rfl⟩

end Translation

end Intake
