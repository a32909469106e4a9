import Intake.Proofs.Schema.Reload

set_option autoImplicit false

/-!
# Registries with one more type

A registry that knows the built-in types, under whatever names, gets one more type under a new name.
Nothing changes for descriptions that do not name it: they load as the same forms and fail with the
same errors. What is built of descriptions depends on the registry only through the rules that the
descriptions mean, and the first description without a rule decides how building fails.

## Main definitions

* `Resolver.SameUnless` — resolvers that do the same unless the second one fails in some way.
* `Translation.BuildsAlike`, `Definition.MakesAlike` — what is built with such resolvers is the same
  unless the second one fails in that way.
* `Registry.UsesBuiltins` — registries that know nothing but built-in types.

## Main results

* `Translation.buildsAlike_form` — forms are built alike.
* `Builtin.makesAlike_of_mem` — every built-in type makes its rules alike.
* `Registry.resolve_register` — a new type changes no rule unless it was missing.
* `Registry.load_register` — a new type changes no form unless it was missing.
-/

namespace Intake

/-- Traversals whose steps are the same are the same, unless a step fails. -/
lemma IsTraversal.sameUnless {ε α β : Type} {each each' : List α → Except ε (List β)}
    {step step' : α → Except ε β} (h : IsTraversal each step) (h' : IsTraversal each' step')
    {P : ε → Prop} (hsteps : ∀ a, SameUnless P (step a) (step' a)) (as : List α) :
    SameUnless P (each as) (each' as) := by
  induction as with
  | nil =>
    rw [h.nil, h'.nil]
    exact .inl rfl
  | cons a rest ih =>
    rw [h.cons, h'.cons]
    apply (hsteps a).bind
    intro b
    exact ih.map (b :: ·)

/-- Two resolvers do the same unless the second one fails in some way. -/
def Resolver.SameUnless (P : SchemaError → Prop) (resolve resolve' : Resolver) : Prop :=
  ∀ d, Intake.SameUnless P (resolve d) (resolve' d)

/-! ### What is built of descriptions -/

namespace Translation

variable {α β : Type}

/-- With resolvers that do the same unless the second one fails in some way, the same is built
unless the second one fails in that way. -/
def BuildsAlike (T : Translation α β) : Prop :=
  ∀ P (resolve resolve' : Resolver) b, resolve.SameUnless P resolve' →
    SameUnless P (T.build resolve b) (T.build resolve' b)

/-- Lists are built alike when their items are. -/
lemma BuildsAlike.list {T : Translation α β} (hT : T.BuildsAlike)
    {describe : List α → Except SchemaError (List β)}
    {build : Resolver → List β → Except SchemaError (List α)}
    (hbuild : ∀ resolve, IsTraversal (build resolve) (T.build resolve)) :
    (T.list describe build).BuildsAlike := by
  intro P resolve resolve' bs h
  apply (hbuild resolve).sameUnless (hbuild resolve')
  intro b
  exact hT P resolve resolve' b h

/-- What may be missing is built alike when what is there is. -/
lemma BuildsAlike.option {T : Translation α β} (hT : T.BuildsAlike) : T.option.BuildsAlike := by
  intro P resolve resolve' b? h
  cases b? with
  | none => exact .inl rfl
  | some b => exact (hT P resolve resolve' b h).map some

variable [PatternEngine]

/-- Rules are what the resolvers give. -/
lemma buildsAlike_rule : rule.BuildsAlike := fun _ _ _ b h => h b

/-- Chains are built alike. -/
lemma buildsAlike_chain : chain.BuildsAlike := buildsAlike_rule.list isTraversal_resolveEach

/-- Options are built alike. -/
lemma buildsAlike_options : options.BuildsAlike :=
  buildsAlike_chain.list isTraversal_resolveOptions

/-- A case is built alike. -/
lemma buildsAlike_case : case.BuildsAlike := by
  intro P resolve resolve' c h
  exact (buildsAlike_chain P resolve resolve' c.2 h).map (c.1, ·)

/-- Cases are built alike. -/
lemma buildsAlike_cases : cases.BuildsAlike := buildsAlike_case.list isTraversal_resolveCases

/-- A field is built alike. -/
lemma buildsAlike_field : field.BuildsAlike := by
  intro P resolve resolve' d h
  exact (buildsAlike_chain P resolve resolve' d.chain h).map _

/-- Fields are built alike. -/
lemma buildsAlike_fields : fields.BuildsAlike := buildsAlike_field.list isTraversal_buildFields

/-- **Forms are built alike.** -/
theorem buildsAlike_form : form.BuildsAlike := by
  intro P resolve resolve' d h
  exact (buildsAlike_fields P resolve resolve' d.fields h).map _

end Translation

/-! ### Types of rules -/

namespace Definition

/-- With resolvers that do the same unless the second one fails in some way, a type makes the same
of given parameters unless the second one fails in that way. -/
def MakesAlike (definition : Definition) : Prop :=
  ∀ P (resolve resolve' : Resolver) given, resolve.SameUnless P resolve' →
    SameUnless P (definition.make given resolve) (definition.make given resolve')

/-- A type that reads its parameters, and builds alike what it read, makes its rules alike. -/
lemma MakesAlike.of_build {α : Type} {params : Form}
    {make : Dict Value → Resolver → Except SchemaError Rule}
    {read : Dict Value → Except SchemaError α} {build : Resolver → α → Except SchemaError Rule}
    (hmake : ∀ given resolve, make given resolve = (read given).bind (build resolve))
    (hbuild : ∀ P (resolve resolve' : Resolver) a, resolve.SameUnless P resolve' →
      SameUnless P (build resolve a) (build resolve' a)) : MakesAlike ⟨params, make⟩ := by
  intro P resolve resolve' given h
  show SameUnless P (make given resolve) (make given resolve')
  rw [hmake, hmake]
  apply SameUnless.bind (.inl rfl)
  intro a
  exact hbuild P resolve resolve' a h

/-- A type whose parameters are its rule asks for no other rule. -/
lemma MakesAlike.plain {α : Type} [Record α] (typeName : String) (form : Form) (toRule : α → Rule) :
    MakesAlike (Builtin.plainDefinition typeName form toRule) :=
  fun _ _ _ _ _ => .inl rfl

/-- A type without parameters asks for no other rule. -/
lemma MakesAlike.constant (r : Rule) : MakesAlike (Builtin.constantDefinition r) :=
  fun _ _ _ _ _ => .inl rfl

/-- Rules for lists are made alike. -/
lemma makesAlike_list [PatternEngine] (typeName : String) (toRule : List Rule → Rule) :
    MakesAlike ⟨Builtin.listParams, Builtin.makeList typeName toRule⟩ := by
  apply MakesAlike.of_build (Translation.makeList_eq typeName toRule)
  intro P resolve resolve' p h
  exact (Translation.buildsAlike_chain P resolve resolve' p.chain h).map toRule

/-- Rules for maps are made alike. -/
lemma makesAlike_map [PatternEngine] : MakesAlike ⟨Builtin.mapParams, Builtin.makeMap⟩ := by
  apply MakesAlike.of_build Translation.makeMap_eq
  intro P resolve resolve' p h
  exact (Translation.buildsAlike_form.option P resolve resolve' p.form h).map _

/-- Rules with options are made alike. -/
lemma makesAlike_or [PatternEngine] : MakesAlike ⟨Builtin.orParams, Builtin.makeOr⟩ := by
  apply MakesAlike.of_build Translation.makeOr_eq
  intro P resolve resolve' p h
  exact (Translation.buildsAlike_options P resolve resolve' p.options h).map Rule.or

/-- Rules with cases are made alike: first the cases in the order of their names, then the
fallback. -/
lemma makesAlike_switch [PatternEngine] :
    MakesAlike ⟨Builtin.switchParams, Builtin.makeSwitch⟩ := by
  apply MakesAlike.of_build Translation.makeSwitch_eq
  intro P resolve resolve' p h
  apply (Translation.buildsAlike_cases P resolve resolve' p.cases.sorted h).bind
  intro cases
  exact (Translation.buildsAlike_chain.option P resolve resolve' p.fallback h).map _

end Definition

/-- **Every built-in type makes its rules alike.** -/
theorem Builtin.makesAlike_of_mem [PatternEngine] : ∀ e ∈ Builtin.definitions, e.2.MakesAlike := by
  simp only [Builtin.definitions, List.forall_mem_cons]
  exact ⟨.plain _ _ _, .plain _ _ _, .plain _ _ _, .plain _ _ _, .plain _ _ _, .plain _ _ _,
    .plain _ _ _, .plain _ _ _, fun _ _ _ _ _ => .inl rfl, .plain _ _ _, .plain _ _ _,
    .constant _, .plain _ _ _, .plain _ _ _, .constant _, Definition.makesAlike_list _ _,
    Definition.makesAlike_list _ _, Definition.makesAlike_map, Definition.makesAlike_or,
    Definition.makesAlike_switch, List.forall_mem_nil _⟩

/-! ### Registries -/

namespace Registry

/-- Every type of a registry makes its rules as a built-in type does, be it under another name. -/
def UsesBuiltins [PatternEngine] (registry : Registry) : Prop :=
  ∀ e ∈ registry.definitions, ∃ b ∈ Builtin.definitions, e.2.make = b.2.make

/-- The resolver of a registry for descriptions that nest less deep. -/
def within (registry : Registry) (n : Nat) : Resolver := fun inner =>
  if inner.depth < n then registry.resolve inner else .error (.notNested inner.typeName)

/-- A description of a known type means what the type makes of its parameters. -/
lemma resolve_of_find? {registry : Registry} {d : RuleDescription} {definition : Definition}
    (h : registry.find? d.typeName = some definition) :
    registry.resolve d = definition.make d.params (registry.within d.depth) := by
  rw [resolve, h]
  rfl

/-- A description of an unknown type means nothing. -/
lemma resolve_of_find?_eq_none {registry : Registry} {d : RuleDescription}
    (h : registry.find? d.typeName = none) :
    registry.resolve d = .error (.unknownRule d.typeName) := by
  rw [resolve, h]

/-- A new type is found under its own name only. -/
lemma find?_register_of_ne (registry : Registry) {typeName other : String} (h : other ≠ typeName)
    (definition : Definition) :
    (registry.register typeName definition).find? other = registry.find? other :=
  Dict.find?_insert_of_ne registry.definitions definition h

/-- The types that use built-in ones make their rules alike. -/
lemma UsesBuiltins.makesAlike [PatternEngine] {registry : Registry} (h : registry.UsesBuiltins)
    {typeName : String} {definition : Definition}
    (hfind : registry.find? typeName = some definition) :
    definition.MakesAlike := by
  obtain ⟨b, hb, hmake⟩ := h _ (Dict.mem_of_find? hfind)
  have halike := Builtin.makesAlike_of_mem b hb
  unfold Definition.MakesAlike at halike ⊢
  rw [hmake]
  exact halike

/-- **A new type changes no rule unless it was missing.**

**Proof sketch.** By induction on the depth of the parameters. A description that names the new type
meant nothing before. Any other one is made by the same type as before, which asks for rules of
descriptions that nest less deep. -/
theorem resolve_register [PatternEngine] {registry : Registry}
    (hbuiltin : registry.UsesBuiltins) {typeName : String}
    (hnew : registry.contains typeName = false) (definition : Definition) :
    Resolver.SameUnless (· = .unknownRule typeName)
      (registry.register typeName definition).resolve registry.resolve := by
  have hmissing : registry.find? typeName = none := by
    simpa [contains, find?, Dict.contains] using hnew
  intro d
  induction hn : d.depth using Nat.strong_induction_on generalizing d with
  | _ n ih =>
    subst hn
    by_cases hname : d.typeName = typeName
    · have hunknown : registry.resolve d = .error (.unknownRule d.typeName) := by
        apply resolve_of_find?_eq_none
        rw [hname, hmissing]
      exact .inr ⟨_, hunknown, congrArg SchemaError.unknownRule hname⟩
    · have hsame := registry.find?_register_of_ne hname definition
      cases hfind : registry.find? d.typeName with
      | none =>
        rw [resolve_of_find?_eq_none hfind, resolve_of_find?_eq_none (hsame.trans hfind)]
        exact .inl rfl
      | some known =>
        rw [resolve_of_find? hfind, resolve_of_find? (hsame.trans hfind)]
        apply hbuiltin.makesAlike hfind
        intro inner
        unfold within
        split_ifs with hless
        · exact ih inner.depth hless inner rfl
        · exact .inl rfl

/-- **A new type changes no form unless it was missing.** Let a registry know nothing but built-in
types, under whatever names. If it gets one more type, of any kind, under a name that it does not
know yet, then a description that loaded before loads as the same form, and a description that
failed to load fails with the same error, unless that error was that the new type is unknown.

**Proof sketch.** Checking a description does not ask the registry. What is built of it is the same
unless one of its rules was missing (`Translation.buildsAlike_form`), and the rules are the same
(`Registry.resolve_register`). -/
theorem load_register [PatternEngine] (registry : Registry) (hbuiltin : registry.UsesBuiltins)
    {typeName : String} (hnew : registry.contains typeName = false) (definition : Definition)
    (description : Dict Value) :
    (∀ form, registry.load description = .ok form →
      (registry.register typeName definition).load description = .ok form) ∧
    ∀ e, registry.load description = .error e → e ≠ .unknownRule typeName →
      (registry.register typeName definition).load description = .error e := by
  have hsame : SameUnless (· = .unknownRule typeName)
      ((registry.register typeName definition).load description) (registry.load description) := by
    unfold load
    cases FormDescription.parse description with
    | error e => exact .inl rfl
    | ok d =>
      exact Translation.buildsAlike_form _ _ _ d (resolve_register hbuiltin hnew definition)
  rcases hsame with heq | ⟨e, he, hunknown⟩
  · rw [heq]
    exact ⟨fun _ h => h, fun _ h _ => h⟩
  · rw [he]
    refine ⟨nofun, fun e' h hne => ?_⟩
    cases h
    exact absurd hunknown hne

/-- A type of rules given as code, for even integers. -/
def evenDefinition : Definition :=
  Builtin.constantDefinition (.custom (.ofValues "IsEven" fun v _ =>
    match v with
    | .int n => if n % 2 = 0 then .ok v else .error .missing
    | _ => .error .missing))

/-- A description of lists of texts loads as the same form when there are also rules for even
integers. -/
theorem tags_load_register :
    builtin.UsesBuiltins ∧ builtin.contains "IsEven" = false ∧
      builtin.load tagsDescription = .ok tagsForm ∧
        (builtin.register "IsEven" evenDefinition).load tagsDescription = .ok tagsForm := by
  have hbuiltin : builtin.UsesBuiltins := fun e he => ⟨e, he, rfl⟩
  have hnew : builtin.contains "IsEven" = false := by decide
  exact ⟨hbuiltin, hnew, load_tags,
    (builtin.load_register hbuiltin hnew evenDefinition tagsDescription).1 tagsForm load_tags⟩

end Registry

end Intake
