import Intake.Proofs.Schema.Reload
import Intake.Proofs.Schema.Totality

set_option autoImplicit false

/-!
# Why descriptions do not load

A description fails to load because a form rejects it, because a form rejects the parameters of some
rule in it, or because it names an unknown type. What these forms pass always becomes a record, and
what lies in the record is built or fails in the same way. So it is with any engine for patterns: a
form has made sure that a pattern compiles before a rule is made of it.

## Main definitions

* `SchemaError.Reported` — the errors that tell what is wrong with a description.
* `Translation.FailsAsRules` — what is built of descriptions fails only as their rules do.
* `Definition.Reports` — a type that reports what its form rejects, and else fails only as the rules
  described in its parameters do.

## Main results

* `Translation.failsAsRules_form` — forms fail only as the rules in them do.
* `Builtin.reports_of_mem` — every built-in type reports what its form rejects.
* `Registry.load_failsOnly_reported` — loading fails only with reported errors.
-/

namespace Intake

/-- The errors that tell what is wrong with a description: a type that is not known, and what the
form of descriptions or the form of the parameters of a type reports. -/
inductive SchemaError.Reported : SchemaError → Prop
  | unknownRule (typeName : String) : Reported (.unknownRule typeName)
  | invalidDescription (error : FormError) : Reported (.invalidDescription error)
  | invalidParams (typeName : String) (error : FormError) : Reported (.invalidParams typeName error)

/-- A traversal fails only as its steps do. -/
lemma IsTraversal.failsOnly {ε α β : Type} {each : List α → Except ε (List β)}
    {step : α → Except ε β} (h : IsTraversal each step) {P : ε → Prop} {as : List α}
    (hsteps : ∀ a ∈ as, FailsOnly P (step a)) : FailsOnly P (each as) := by
  induction as with
  | nil =>
    rw [h.nil]
    exact failsOnly_ok P []
  | cons a rest ih =>
    obtain ⟨ha, hrest⟩ := List.forall_mem_cons.mp hsteps
    rw [h.cons]
    exact ha.bind fun b _ => (ih hrest).map (b :: ·)

/-! ### What is built of descriptions -/

/-- A resolver fails only with errors of a kind on descriptions that are sound up to a depth. -/
def Resolver.FailsOnly [PatternEngine] (resolve : Resolver) (n : Nat) (P : SchemaError → Prop) :
    Prop :=
  ∀ d, Translation.rule.Sound n d → Intake.FailsOnly P (resolve d)

/-- A resolver that fails so up to a depth fails so up to a smaller one. -/
lemma Resolver.FailsOnly.mono [PatternEngine] {resolve : Resolver} {m n : Nat}
    {P : SchemaError → Prop} (h : resolve.FailsOnly n P) (hle : m ≤ n) : resolve.FailsOnly m P :=
  fun d hd => h d (Translation.rule.mono hd hle)

namespace Translation

variable [PatternEngine] {α β : Type}

/-- Building of sound descriptions fails only as the resolver does. -/
def FailsAsRules (T : Translation α β) : Prop :=
  ∀ n (resolve : Resolver) P b,
    resolve.FailsOnly n P → T.Sound n b → FailsOnly P (T.build resolve b)

/-- Lists fail only as their items do. -/
lemma FailsAsRules.list {T : Translation α β} (hT : T.FailsAsRules)
    {describe : List α → Except SchemaError (List β)}
    {build : Resolver → List β → Except SchemaError (List α)}
    (hbuild : ∀ resolve, IsTraversal (build resolve) (T.build resolve)) :
    (T.list describe build).FailsAsRules :=
  fun n resolve P _ hresolve hsound =>
    (hbuild resolve).failsOnly fun b hb => hT n resolve P b hresolve (hsound b hb)

/-- What may be missing fails only as what is there. -/
lemma FailsAsRules.option {T : Translation α β} (hT : T.FailsAsRules) : T.option.FailsAsRules := by
  intro n resolve P b? hresolve hsound
  cases b? with
  | none => exact failsOnly_ok P none
  | some b => exact (hT n resolve P b hresolve (hsound b rfl)).map some

/-- Rules fail as the resolver does. -/
lemma failsAsRules_rule : rule.FailsAsRules := fun _ _ _ b hresolve hsound => hresolve b hsound

/-- Chains fail only as their rules do. -/
lemma failsAsRules_chain : chain.FailsAsRules := failsAsRules_rule.list isTraversal_resolveEach

/-- Options fail only as their rules do. -/
lemma failsAsRules_options : options.FailsAsRules :=
  failsAsRules_chain.list isTraversal_resolveOptions

/-- A case fails only as its rules do. -/
lemma failsAsRules_case : case.FailsAsRules := fun n resolve P c hresolve hsound =>
  (failsAsRules_chain n resolve P c.2 hresolve hsound).map (c.1, ·)

/-- Cases fail only as their rules do. -/
lemma failsAsRules_cases : cases.FailsAsRules := failsAsRules_case.list isTraversal_resolveCases

/-- A field fails only as its rules do. -/
lemma failsAsRules_field : field.FailsAsRules := by
  rintro n resolve P d hresolve ⟨k, hk, hd⟩
  obtain ⟨-, ⟨hchain, -⟩, -⟩ := hd.params
  exact (failsAsRules_chain k resolve P d.chain (hresolve.mono (Nat.le_of_lt hk)) hchain).map _

/-- Fields fail only as their rules do. -/
lemma failsAsRules_fields : fields.FailsAsRules := failsAsRules_field.list isTraversal_buildFields

/-- **Forms fail only as the rules in them do.** -/
theorem failsAsRules_form : form.FailsAsRules := by
  rintro n resolve P d hresolve ⟨k, hk, hd⟩
  obtain ⟨-, -, -, -, -, hfields, -⟩ := hd.params
  exact (failsAsRules_fields k resolve P d.fields (hresolve.mono (Nat.le_of_lt hk)) hfields).map _

end Translation

/-! ### Types of rules -/

/-- A type reports the parameters that its form rejects. From those that the form passes it makes a
rule, unless the resolver fails on a description in them. -/
structure Definition.Reports [PatternEngine] (typeName : String) (definition : Definition) :
    Prop where
  of_rejected : ∀ {given : Dict Value} {error : FormError},
    definition.params.validate given = .error error →
      ∀ resolve, FailsOnly (· = .invalidParams typeName error) (definition.make given resolve)
  of_passed : ∀ {given checked : Dict Value}, (Value.map given).WellFormed →
    definition.params.validate given = .ok checked →
      ∀ {resolve : Resolver} {P : SchemaError → Prop},
        resolve.FailsOnly (Value.depthOfEntries given) P →
          FailsOnly P (definition.make given resolve)

namespace Definition

/-- Parameters of a total schema are read if the form passes them. -/
lemma readParameters_of_validate {α : Type} [Record α] {S : Schema α} (hS : S.Total)
    (typeName : String) {given checked : Dict Value} (hgiven : (Value.map given).WellFormed)
    (h : S.form.validate given = .ok checked) :
    ∃ a, readParameters typeName S.form given = .ok a ∧ S.Sound (Value.depthOfEntries given) a := by
  obtain ⟨a, ha⟩ := hS.exists_read? hgiven h
  exact ⟨a, (S.readParameters_eq_ok_iff typeName).mpr ha,
    S.sound_of_read? hgiven (Nat.le_refl _) ha⟩

variable [PatternEngine]

/-- A type whose parameters a total schema reads reports what its form rejects, if what is built of
the parameters fails only as the rules in them do. -/
theorem Reports.of_schema {α : Type} [Record α] (S : Schema α) (hS : S.Total) {typeName : String}
    {make : Dict Value → Resolver → Except SchemaError Rule}
    {build : Resolver → α → Except SchemaError Rule}
    (hmake : ∀ given resolve, make given resolve =
      (readParameters typeName S.form given).bind (build resolve))
    (hbuild : ∀ n (resolve : Resolver) P a, resolve.FailsOnly n P → S.Sound n a →
      FailsOnly P (build resolve a)) : Reports typeName ⟨S.form, make⟩ where
  of_rejected := by
    intro given error h resolve e he
    have hread : (readParameters typeName S.form given : Except SchemaError α) =
        .error (.invalidParams typeName error) := by
      have h : S.form.validate given = .error error := h
      rw [readParameters, h]
    have he : make given resolve = .error e := he
    rw [hmake, hread] at he
    exact (Except.error.inj he).symm
  of_passed := by
    intro given checked hgiven h resolve P hresolve
    obtain ⟨a, ha, hsound⟩ := readParameters_of_validate hS typeName hgiven h
    have hrule : make given resolve = build resolve a := by
      rw [hmake, ha]
      rfl
    intro e he
    exact hbuild _ resolve P a hresolve hsound e (hrule ▸ he)

/-- A type whose parameters are its rule fails only if its form rejects them. -/
lemma Reports.plain {α : Type} [Record α] (S : Schema α) (hS : S.Total) (typeName : String)
    (toRule : α → Rule) :
    Reports typeName (Builtin.plainDefinition typeName S.form toRule) :=
  .of_schema S hS (Translation.plainDefinition_make_eq typeName S.form toRule)
    fun _ _ P a _ _ => failsOnly_ok P (toRule a)

/-- A type without parameters does not fail. -/
lemma Reports.constant (typeName : String) (r : Rule) :
    Reports typeName (Builtin.constantDefinition r) where
  of_rejected _ _ := failsOnly_ok _ r
  of_passed _ _ _ P _ := failsOnly_ok P r

/-- The text of a pattern that the form has passed is a pattern. -/
lemma reports_pattern : Reports "MatchesRegex" ⟨Builtin.patternParams, Builtin.makePattern⟩ := by
  refine .of_schema PatternRule.Parameters.schema PatternRule.Parameters.total
    Translation.makePattern_eq ?_
  rintro n resolve P p - hp
  obtain ⟨⟨hpattern, -⟩, -⟩ := hp.params
  obtain ⟨pattern, hpattern⟩ := hpattern
  have hbuild : Translation.buildPattern p = .ok (.pattern ⟨pattern⟩) :=
    Translation.buildPattern_eq_ok_iff.mpr ⟨pattern, hpattern, rfl⟩
  rw [hbuild]
  exact failsOnly_ok P (Rule.pattern ⟨pattern⟩)

/-- Rules for lists fail only as the rules of their chains do. -/
lemma reports_list (typeName : String) (toRule : List Rule → Rule) :
    Reports typeName ⟨Builtin.listParams, Builtin.makeList typeName toRule⟩ := by
  refine .of_schema ListParameters.schema ListParameters.total
    (Translation.makeList_eq typeName toRule) ?_
  intro n resolve P p hresolve hp
  obtain ⟨⟨hchain, -⟩, -⟩ := hp.params
  exact (Translation.failsAsRules_chain n resolve P p.chain hresolve hchain).map toRule

/-- Rules for maps fail only as the rules of their forms do. -/
lemma reports_map : Reports "IsStringMap" ⟨Builtin.mapParams, Builtin.makeMap⟩ := by
  refine .of_schema MapParameters.schema MapParameters.total Translation.makeMap_eq ?_
  intro n resolve P p hresolve hp
  obtain ⟨hform, -⟩ := hp.params
  exact (Translation.failsAsRules_form.option n resolve P p.form hresolve
    fun d hd => (hform d hd).1).map _

/-- Rules with options fail only as the rules of their options do. -/
lemma reports_or : Reports "Or" ⟨Builtin.orParams, Builtin.makeOr⟩ := by
  refine .of_schema OrParameters.schema OrParameters.total Translation.makeOr_eq ?_
  intro n resolve P p hresolve hp
  obtain ⟨⟨hoptions, -⟩, -⟩ := hp.params
  exact (Translation.failsAsRules_options n resolve P p.options hresolve hoptions).map Rule.or

/-- Rules with cases fail only as the rules of their cases and of their fallback do. -/
lemma reports_switch : Reports "Switch" ⟨Builtin.switchParams, Builtin.makeSwitch⟩ := by
  refine .of_schema SwitchParameters.schema SwitchParameters.total Translation.makeSwitch_eq ?_
  intro n resolve P p hresolve hp
  obtain ⟨-, ⟨⟨-, hcases⟩, -⟩, hfallback, -⟩ := hp.params
  have hsorted : Translation.cases.Sound n p.cases.sorted :=
    fun c hc => hcases c (p.cases.sorted_perm.mem_iff.mp hc)
  exact (Translation.failsAsRules_cases n resolve P _ hresolve hsorted).bind fun _ _ =>
    (Translation.failsAsRules_chain.option n resolve P p.fallback hresolve
      fun ds hds => (hfallback ds hds).1).map _

end Definition

/-- **Every built-in type reports what its form rejects, and else fails only as the rules described
in its parameters do.** -/
theorem Builtin.reports_of_mem [PatternEngine] : ∀ e ∈ Builtin.definitions, e.2.Reports e.1 := by
  simp only [Builtin.definitions, List.forall_mem_cons]
  exact ⟨.plain TextRule.schema TextRule.total _ _, .plain IntegerRule.schema IntegerRule.total _ _,
    .plain FloatRule.schema FloatRule.total _ _, .plain BooleanRule.schema BooleanRule.total _ _,
    .plain BytesRule.schema BytesRule.total _ _, .plain HexRule.schema HexRule.total _ _,
    .plain UuidRule.schema UuidRule.total _ _, .plain TimeRule.schema TimeRule.total _ _,
    Definition.reports_pattern, .plain OneOfRule.schema OneOfRule.total _ _,
    .plain NoneOfRule.schema NoneOfRule.total _ _, .constant _ _,
    .plain OptionalRule.schema OptionalRule.total _ _, .plain NilRule.schema NilRule.total _ _,
    .constant _ _, Definition.reports_list _ _, Definition.reports_list _ _,
    Definition.reports_map, Definition.reports_or, Definition.reports_switch,
    List.forall_mem_nil _⟩

/-! ### Loading -/

namespace Registry

/-- **Descriptions of rules fail only with reported errors.**

**Proof sketch.** By induction on the depth of the parameters. If the form of the type rejects them,
that is reported; if it passes them, the type fails only as the descriptions in them do, which nest
less deep. -/
theorem resolve_failsOnly_reported [PatternEngine] (n : Nat) :
    Resolver.FailsOnly Registry.builtin.resolve n SchemaError.Reported := by
  induction n using Nat.strong_induction_on with
  | _ n ih =>
    intro d hd
    obtain ⟨hwf, hdepth⟩ := Translation.rule_sound_iff.mp hd
    cases hfind : Registry.builtin.find? d.typeName with
    | none =>
      intro e he
      rw [Registry.resolve, hfind] at he
      exact Except.error.inj he ▸ .unknownRule d.typeName
    | some definition =>
      have hreports : definition.Reports d.typeName :=
        Builtin.reports_of_mem _ (Dict.mem_of_find? hfind)
      rw [Translation.resolve_eq hfind]
      cases hvalid : definition.params.validate d.params with
      | error error =>
        intro e he
        rw [hreports.of_rejected hvalid _ e he]
        exact .invalidParams d.typeName error
      | ok checked =>
        refine hreports.of_passed hwf hvalid fun inner hinner => ?_
        have hless : inner.depth < d.depth := (Translation.rule_sound_iff.mp hinner).2
        rw [Translation.below, if_pos hless]
        exact ih d.depth hdepth inner hinner

/-- **Loading fails only with reported errors.** A well-formed map loads, or it names an unknown
type, or a form rejects it or the parameters of some rule in it. For whatever the form of
descriptions passes becomes a record, and whatever the form of the parameters of a built-in type
passes becomes a rule, unless a description that lies within does not resolve.

**Proof sketch.** The schemas of descriptions and of all parameters are total
(`FormDescription.total`, `Builtin.reports_of_mem`), so no coercion fails behind a form. What is
built of the record fails only as its rules do (`Translation.failsAsRules_form`), and these fail
only with reported errors (`Registry.resolve_failsOnly_reported`). -/
theorem load_failsOnly_reported [PatternEngine] {description : Dict Value}
    (hdescription : (Value.map description).WellFormed) :
    FailsOnly SchemaError.Reported (Registry.builtin.load description) ∧
    (∀ checked, MetaForm.form.validate description = .ok checked →
      ∃ d : FormDescription,
        (Record.coerce (.map checked) : Except CoerceError FormDescription) = .ok d) ∧
    ∀ typeName definition, (typeName, definition) ∈ Builtin.definitions →
      ∀ given checked, (Value.map given).WellFormed →
        definition.params.validate given = .ok checked →
          ∀ resolve e, definition.make given resolve = .error e →
            ∃ inner, resolve inner = .error e := by
  have hcoerce : ∀ checked, MetaForm.form.validate description = .ok checked →
      ∃ d : FormDescription,
        (Record.coerce (.map checked) : Except CoerceError FormDescription) = .ok d :=
    fun checked h => FormDescription.total.exists_coerce hdescription h
  refine ⟨?_, hcoerce, fun typeName definition hmem given checked hgiven hvalid resolve e he => ?_⟩
  · rw [Registry.load]
    cases hvalid : MetaForm.form.validate description with
    | error error =>
      rw [FormDescription.parse, hvalid]
      exact fun e he => Except.error.inj he ▸ .invalidDescription error
    | ok checked =>
      obtain ⟨d, hd⟩ := hcoerce checked hvalid
      have hparse : FormDescription.parse description = .ok d := by
        rw [FormDescription.parse, hvalid]
        dsimp only
        rw [hd]
        rfl
      have hsound := FormDescription.schema.sound_of_read? hdescription (Nat.le_refl _)
        (FormDescription.parse_eq_ok_iff.mp hparse)
      rw [hparse]
      exact Translation.failsAsRules_form _ _ _ d (resolve_failsOnly_reported _)
        ⟨_, Nat.lt_succ_self _, hsound⟩
  · exact (Builtin.reports_of_mem _ hmem).of_passed hgiven hvalid
      (P := fun e => ∃ inner, resolve inner = .error e) (fun inner _ e he => ⟨inner, he⟩) e he

end Registry

section Untyped

/-- A description of a form for lists of items of a type that is not known. -/
def untypedDescription : Dict Value :=
  [("fields", .list [.map [("name", .string "tags"), ("validators", .list
    [.map [("type", .string "IsList"), ("params", .map [("validators", .list
      [.map [("type", .string "IsTag")]])])]])]])]

/-- The description repeats no key. -/
lemma untypedDescription_wellFormed : (Value.map untypedDescription).WellFormed := by decide

/-- The description does not load, as the type inside the list is not known. -/
lemma load_untyped [PatternEngine] :
    Registry.builtin.load untypedDescription = .error (.unknownRule "IsTag") := by
  have hparse : FormDescription.parse untypedDescription = .ok ⟨false, false, none, none, [],
      [⟨"tags", [⟨"IsList", [("validators", .list [.map [("type", .string "IsTag")]])]⟩], []⟩]⟩ :=
    rfl
  have hmake : ∀ resolve, Builtin.makeList "IsList" Rule.list
      [("validators", .list [.map [("type", .string "IsTag")]])] resolve =
        (resolveEach resolve [⟨"IsTag", []⟩]).map Rule.list := fun _ => rfl
  have htag : Registry.builtin.resolve ⟨"IsTag", []⟩ = .error (.unknownRule "IsTag") := by
    rw [Registry.resolve]
    rfl
  have hlist : Registry.builtin.resolve
      ⟨"IsList", [("validators", .list [.map [("type", .string "IsTag")]])]⟩ =
        .error (.unknownRule "IsTag") := by
    rw [Translation.resolve_eq (d := ⟨"IsList", _⟩) rfl]
    refine (hmake _).trans ?_
    rw [resolveEach, Translation.below, if_pos (by decide), htag]
    rfl
  rw [Registry.load, hparse]
  simp only [FormDescription.build, buildFields, resolveEach, hlist]
  rfl

/-- The unknown type inside the list is reported. -/
theorem Registry.untyped_load_failsOnly_reported :
    Registry.builtin.load untypedDescription = .error (.unknownRule "IsTag") ∧
      FailsOnly SchemaError.Reported (Registry.builtin.load untypedDescription) :=
  ⟨load_untyped, (Registry.load_failsOnly_reported untypedDescription_wellFormed).1⟩

end Untyped

end Intake
