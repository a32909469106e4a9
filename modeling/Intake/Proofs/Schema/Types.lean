import Intake.Proofs.Schema.Translation

set_option autoImplicit false

/-!
# The built-in types, one by one

A type of rules is lawful if what it makes of well-formed parameters is described, and its
description means the same rule, provided that the registry is lawful for what nests less deep.

## Main definitions

* `Translation.below` — the resolver that a definition gets.
* `Translation.LawfulType` — lawful types.

## Main results

* `Translation.gives_rule` — what all rules have, type by type and by induction on the depth.
* `Translation.LawfulType.of_schema` — a type whose parameters a schema reads.
* `Translation.LawfulType.plain`, `Translation.LawfulType.list`, `Translation.lawful_map`,
  `Translation.lawful_switch`, … — the built-in types.
-/

namespace Intake

namespace Translation

variable [PatternEngine]

/-! ### Resolvers -/

/-- The resolver that the registry hands to a definition: it resolves what nests less deep. -/
def below (n : Nat) : Resolver := fun inner =>
  if inner.depth < n then Registry.builtin.resolve inner else .error (.notNested inner.typeName)

/-- Up to its depth the resolver does what the registry does. -/
lemma agrees_below (n : Nat) : Resolver.Agrees (below n) n := fun _ h => if_pos h

/-- A description of a known type means what its definition makes. -/
lemma resolve_eq {d : RuleDescription} {definition : Definition}
    (h : Registry.builtin.find? d.typeName = some definition) :
    Registry.builtin.resolve d = definition.make d.params (below d.depth) := by
  rw [Registry.resolve, h]
  rfl

/-- Descriptions are sound when their parameters are well formed and nest less deep. -/
lemma rule_sound_iff {n : Nat} {d : RuleDescription} :
    rule.Sound n d ↔ (Value.map d.params).WellFormed ∧ d.depth < n := by
  constructor
  · rintro ⟨k, hk, hd⟩
    obtain ⟨-, ⟨⟨hwf, hdepth⟩, -⟩, -⟩ := hd.params
    exact ⟨hwf, Nat.lt_of_le_of_lt hdepth hk⟩
  · rintro ⟨hwf, hdepth⟩
    have hparams : Reading.anyMap.Sound d.depth d.params := ⟨hwf, Nat.le_refl _⟩
    exact ⟨d.depth, hdepth, rfl, trivial,
      ⟨hparams, Reading.anyMap_solid.not_missing hparams⟩, trivial⟩

/-- **What every type gives, every rule has.** If every built-in type makes only rules with a
property, provided that all rules of less depth have it, then all rules have it that sound
descriptions mean.

**Proof sketch.** By induction on the depth up to which the descriptions are sound. The parameters
of such a description nest less deep, and its type is one of the built-in types, since otherwise
nothing would be resolved. -/
theorem gives_rule {Q : Rule → Prop}
    (hQ : ∀ e ∈ Builtin.definitions, ∀ (d : RuleDescription) (r : Rule), d.typeName = e.1 →
      (Value.map d.params).WellFormed → rule.Gives d.depth Q →
        Registry.builtin.resolve d = .ok r → Q r) (n : Nat) : rule.Gives n Q := by
  induction n using Nat.strong_induction_on with
  | _ n ih =>
    intro resolve d r hagrees hsound h
    obtain ⟨hwf, hdepth⟩ := rule_sound_iff.mp hsound
    have hresolve : Registry.builtin.resolve d = .ok r := (hagrees d hdepth).symm.trans h
    cases hfind : Registry.builtin.find? d.typeName with
    | none =>
      rw [Registry.resolve, hfind] at hresolve
      cases hresolve
    | some definition =>
      exact hQ _ (Dict.mem_of_find? hfind) d r rfl hwf (ih d.depth hdepth) hresolve

/-- A rule that a well-formed description of its own means reloads. -/
lemma reloads_of_resolve {r : Rule} {d : RuleDescription} (hdescribe : r.describe .builtin = .ok d)
    (hwf : (Value.map d.params).WellFormed) (hresolve : Registry.builtin.resolve d = .ok r) :
    rule.Reloads r :=
  ⟨d, hdescribe, ⟨d.depth + 1, rule_sound_iff.mpr ⟨hwf, Nat.lt_succ_self _⟩⟩,
    fun _ _ hagrees hsound => (hagrees d (rule_sound_iff.mp hsound).2).trans hresolve⟩

/-! ### Definitions -/

/-- A type whose parameters a schema reads makes its rules of the records that are read. -/
lemma resolve_eq_ok_iff {α : Type} [Record α] (S : Schema α) {d : RuleDescription}
    {definition : Definition} {build : Resolver → α → Except SchemaError Rule}
    (hfind : Registry.builtin.find? d.typeName = some definition)
    (hmake : ∀ given resolve, definition.make given resolve =
      (readParameters d.typeName S.form given).bind (build resolve)) {r : Rule} :
    Registry.builtin.resolve d = .ok r ↔
      ∃ a, S.read? d.params = some a ∧ build (below d.depth) a = .ok r := by
  rw [resolve_eq hfind, hmake, bind_eq_ok_iff]
  simp only [S.readParameters_eq_ok_iff]

/-- What a type makes of sound parameters reloads, provided that rules of less depth do. -/
def LawfulType (typeName : String) : Prop :=
  ∀ (d : RuleDescription) (r : Rule), d.typeName = typeName → (Value.map d.params).WellFormed →
    rule.Lawful d.depth → Registry.builtin.resolve d = .ok r → rule.Reloads r

/-- A type whose parameters a schema reads is lawful if its rules are described by parameters from
which they are built again.

**Proof sketch.** The parameters are read soundly, so they are written and read again. What was
written nests deeper than what is read from it, so the definition gets to resolve all of it. -/
theorem LawfulType.of_schema {α : Type} [Record α] (S : Schema α) {typeName : String}
    {definition : Definition} {build : Resolver → α → Except SchemaError Rule}
    (hfind : Registry.builtin.find? typeName = some definition)
    (hmake : ∀ given resolve, definition.make given resolve =
      (readParameters typeName S.form given).bind (build resolve))
    (hbuild : ∀ n a r resolve, rule.Lawful n → Resolver.Agrees resolve n → S.Sound n a →
      build resolve a = .ok r → ∃ a', (∃ m, S.Sound m a') ∧
        r.describe .builtin = (writeParameters a').map (RuleDescription.mk typeName) ∧
          ∀ m resolve, Resolver.Agrees resolve m → S.Sound m a' → build resolve a' = .ok r) :
    LawfulType typeName := by
  rintro d r rfl hwf hlawful h
  obtain ⟨a, ha, hr⟩ := (resolve_eq_ok_iff S hfind hmake).mp h
  have hsound : S.Sound d.depth a := S.sound_of_read? hwf (Nat.le_refl _) ha
  obtain ⟨a', ⟨m, hm⟩, hdescribe, hagain⟩ :=
    hbuild d.depth a r _ hlawful (agrees_below _) hsound hr
  obtain ⟨params, hparams, hwf', hread⟩ := S.exists_writeParameters hm
  rw [hparams] at hdescribe
  have hr' := hagain _ _ (agrees_below _) (S.sound_of_read? hwf' (Nat.le_refl _) hread)
  exact reloads_of_resolve hdescribe hwf'
    ((resolve_eq_ok_iff S (d := ⟨d.typeName, params⟩) hfind hmake).mpr ⟨a', hread, hr'⟩)

omit [PatternEngine] in
/-- A rule that is its own parameters is read as it is. -/
lemma plainDefinition_make_eq {α : Type} [Record α] (typeName : String) (form : Form)
    (toRule : α → Rule) (given : Dict Value) (resolve : Resolver) :
    (Builtin.plainDefinition typeName form toRule).make given resolve =
      (readParameters typeName form given).bind fun a => .ok (toRule a) := by
  have hmap : (Builtin.plainDefinition typeName form toRule).make given resolve =
      (readParameters typeName form given).map toRule := rfl
  rw [hmap]
  cases (readParameters typeName form given : Except SchemaError α) <;> rfl

/-- A type whose parameters are its rule is lawful. -/
theorem LawfulType.plain {α : Type} [Record α] (S : Schema α) {typeName : String}
    {toRule : α → Rule}
    (hfind : Registry.builtin.find? typeName =
      some (Builtin.plainDefinition typeName S.form toRule))
    (hdescribe : ∀ n a, S.Sound n a →
      (toRule a).describe .builtin = (writeParameters a).map (RuleDescription.mk typeName)) :
    LawfulType typeName := by
  refine .of_schema S hfind (plainDefinition_make_eq typeName S.form toRule) ?_
  rintro n a _ _ - - hsound ⟨⟩
  exact ⟨a, ⟨n, hsound⟩, hdescribe n a hsound, fun _ _ _ _ => rfl⟩

/-- A type without parameters is lawful. -/
theorem LawfulType.constant {typeName : String} {r : Rule}
    (hfind : Registry.builtin.find? typeName = some (Builtin.constantDefinition r))
    (hdescribe : r.describe .builtin = .ok ⟨typeName, []⟩) : LawfulType typeName := by
  rintro d _ rfl - - h
  rw [resolve_eq hfind] at h
  cases h
  exact reloads_of_resolve hdescribe ⟨List.nodup_nil, trivial⟩
    (resolve_eq (d := ⟨d.typeName, []⟩) hfind)

/-! ### Types without further descriptions -/

/-- Rules for text are described by themselves. -/
lemma lawful_text : LawfulType "IsString" := .plain TextRule.schema rfl fun _ _ _ => rfl

/-- Rules for integers are described by themselves. -/
lemma lawful_integer : LawfulType "IsInteger" := .plain IntegerRule.schema rfl fun _ _ _ => rfl

/-- Rules for floats are described by themselves. -/
lemma lawful_float : LawfulType "IsFloat" := .plain FloatRule.schema rfl fun _ _ _ => rfl

/-- Rules for booleans are described by themselves. -/
lemma lawful_boolean : LawfulType "IsBoolean" := .plain BooleanRule.schema rfl fun _ _ _ => rfl

/-- Rules for bytes are described by themselves. -/
lemma lawful_bytes : LawfulType "IsBytes" := .plain BytesRule.schema rfl fun _ _ _ => rfl

/-- Rules for hexadecimal text are described by themselves. -/
lemma lawful_hex : LawfulType "IsHex" := .plain HexRule.schema rfl fun _ _ _ => rfl

/-- Rules for universal identifiers are described by themselves. -/
lemma lawful_uuid : LawfulType "IsUUID" := .plain UuidRule.schema rfl fun _ _ _ => rfl

/-- Rules for times are described by themselves. -/
lemma lawful_time : LawfulType "IsTime" := .plain TimeRule.schema rfl fun _ _ _ => rfl

/-- Rules for choices are described by themselves. -/
lemma lawful_oneOf : LawfulType "IsIn" := .plain OneOfRule.schema rfl fun _ _ _ => rfl

/-- Rules against values are described by themselves. -/
lemma lawful_noneOf : LawfulType "IsNotIn" := .plain NoneOfRule.schema rfl fun _ _ _ => rfl

/-- Rules for missing values are described by themselves. -/
lemma lawful_nil : LawfulType "IsNil" := .plain NilRule.schema rfl fun _ _ _ => rfl

/-- Rules for optional values that were read have no generator, and so are described. -/
lemma lawful_optional : LawfulType "IsOptional" := by
  refine .plain OptionalRule.schema rfl fun n r hr => ?_
  obtain ⟨default, generator⟩ := r
  obtain rfl : none = generator := congrArg OptionalRule.generator hr.rebuild
  rfl

/-- Required values need no parameters. -/
lemma lawful_required : LawfulType "IsRequired" := .constant rfl rfl

/-- Any values need no parameters. -/
lemma lawful_anything : LawfulType "CanBeAnything" := .constant rfl rfl

/-- The rule that searches for the pattern that a text compiles to. -/
def buildPattern (p : PatternRule.Parameters) : Except SchemaError Rule :=
  match Pattern.ofText p.regexp with
  | .error error => .error (.badPattern error)
  | .ok pattern => .ok (.pattern ⟨pattern⟩)

/-- Only a text that compiles makes a rule with a pattern. -/
lemma buildPattern_eq_ok_iff {p : PatternRule.Parameters} {r : Rule} :
    buildPattern p = .ok r ↔
      ∃ pattern, Pattern.ofText p.regexp = .ok pattern ∧ .pattern ⟨pattern⟩ = r := by
  rw [buildPattern]
  cases Pattern.ofText p.regexp <;> simp

/-- A rule with a pattern is read and then built. -/
lemma makePattern_eq (given : Dict Value) (resolve : Resolver) :
    Builtin.makePattern given resolve =
      (readParameters "MatchesRegex" Builtin.patternParams given).bind buildPattern := by
  delta Builtin.makePattern
  cases (readParameters "MatchesRegex" Builtin.patternParams given :
    Except SchemaError PatternRule.Parameters) <;> rfl

/-- A pattern is described by its text. -/
lemma lawful_pattern : LawfulType "MatchesRegex" := by
  refine .of_schema PatternRule.Parameters.schema rfl makePattern_eq ?_
  rintro n ⟨s⟩ r resolve - - hp h
  obtain ⟨pattern, hpattern, rfl⟩ := buildPattern_eq_ok_iff.mp h
  obtain rfl : pattern.text = s := Pattern.text_of_ofText hpattern
  exact ⟨⟨pattern.text⟩, ⟨n, hp⟩, rfl, fun _ _ _ _ => h⟩

/-! ### Types in whose parameters descriptions lie -/

omit [PatternEngine] in
/-- A rule with a chain is read and then built. -/
lemma makeList_eq (typeName : String) (toRule : List Rule → Rule) (given : Dict Value)
    (resolve : Resolver) :
    Builtin.makeList typeName toRule given resolve =
      (readParameters typeName Builtin.listParams given).bind fun p : ListParameters =>
        (resolveEach resolve p.chain).map toRule := by
  delta Builtin.makeList
  cases (readParameters typeName Builtin.listParams given :
    Except SchemaError ListParameters) <;> rfl

/-- Rules for lists are described by their chains. -/
lemma LawfulType.list {typeName : String} {toRule : List Rule → Rule}
    (hfind : Registry.builtin.find? typeName =
      some ⟨Builtin.listParams, Builtin.makeList typeName toRule⟩)
    (hdescribe : ∀ rs, (toRule rs).describe .builtin =
      (writeDescribed (Rule.describeChain .builtin rs) ListParameters.mk).map
        (RuleDescription.mk typeName)) : LawfulType typeName := by
  refine .of_schema ListParameters.schema hfind (makeList_eq typeName toRule) ?_
  rintro n p r resolve hlawful hagrees hp h
  obtain ⟨rs, hrs, rfl⟩ := map_eq_ok_iff.mp h
  obtain ⟨⟨hchain, -⟩, -⟩ := hp.params
  obtain ⟨ds, hds, ⟨m, hm⟩, hre⟩ := hlawful.chain resolve p.chain rs hagrees hchain hrs
  refine ⟨⟨ds⟩, ⟨m, rfl, ⟨hm, (Reading.list_solid _ _).not_missing hm⟩, trivial⟩, ?_, ?_⟩
  · have hds : Rule.describeChain .builtin rs = .ok ds := hds
    rw [hdescribe, hds]
    rfl
  · intro k resolve hagrees hsound
    obtain ⟨⟨hchain, -⟩, -⟩ := hsound.params
    exact map_eq_ok_iff.mpr ⟨rs, hre k resolve hagrees hchain, rfl⟩

/-- A rule for maps is read and then built. -/
lemma makeMap_eq (given : Dict Value) (resolve : Resolver) :
    Builtin.makeMap given resolve =
      (readParameters "IsStringMap" Builtin.mapParams given).bind fun p : MapParameters =>
        (form.option.build resolve p.form).map fun form => .map form none := by
  delta Builtin.makeMap
  cases (readParameters "IsStringMap" Builtin.mapParams given :
    Except SchemaError MapParameters) with
  | error e => rfl
  | ok p =>
    obtain ⟨_ | d⟩ := p
    · rfl
    · have hbuild : form.option.build resolve (some d) = (d.build resolve).map some := rfl
      dsimp only [Except.bind]
      rw [hbuild]
      cases d.build resolve <;> rfl

/-- The form of a rule for maps is described like something that may be missing. -/
lemma describeInner_eq (form? : Option Form) :
    Rule.describeInner .builtin form? = form.option.describe form? := by
  cases form? <;> rfl

/-- Rules for maps are described by their forms. -/
lemma lawful_map : LawfulType "IsStringMap" := by
  refine .of_schema MapParameters.schema rfl makeMap_eq ?_
  rintro n p r resolve hlawful hagrees hp h
  obtain ⟨f?, hf, rfl⟩ := map_eq_ok_iff.mp h
  obtain ⟨hform, -⟩ := hp.params
  obtain ⟨d?, hd, ⟨m, hm⟩, hre⟩ := hlawful.form.option resolve p.form f? hagrees
    (fun d hd => (hform d hd).1) hf
  have hgiven : ∀ d ∈ d?, form.Sound m d ∧
      OptionalRule.isMissing ((Reading.ofSchema FormDescription.schema).value d) = false :=
    fun d hd => ⟨hm d hd, (Reading.ofSchema_solid _).not_missing (hm d hd)⟩
  refine ⟨⟨d?⟩, ⟨m, rfl, hgiven, trivial⟩, ?_, ?_⟩
  · have hdescribe : (Rule.map f? none).describe .builtin =
        (writeDescribed (Rule.describeInner .builtin f?) MapParameters.mk).map
          (RuleDescription.mk "IsStringMap") := rfl
    rw [hdescribe, describeInner_eq, hd]
    rfl
  · intro k resolve hagrees hsound
    obtain ⟨hform, -⟩ := hsound.params
    exact map_eq_ok_iff.mpr ⟨f?, hre k resolve hagrees (fun d hd => (hform d hd).1), rfl⟩

omit [PatternEngine] in
/-- A rule with options is read and then built. -/
lemma makeOr_eq (given : Dict Value) (resolve : Resolver) :
    Builtin.makeOr given resolve =
      (readParameters "Or" Builtin.orParams given).bind fun p : OrParameters =>
        (Builtin.resolveOptions resolve p.options).map .or := by
  delta Builtin.makeOr
  cases (readParameters "Or" Builtin.orParams given : Except SchemaError OrParameters) <;> rfl

/-- Rules with options are described by their options. -/
lemma lawful_or : LawfulType "Or" := by
  refine .of_schema OrParameters.schema rfl makeOr_eq ?_
  rintro n p r resolve hlawful hagrees hp h
  obtain ⟨rss, hrss, rfl⟩ := map_eq_ok_iff.mp h
  obtain ⟨⟨hoptions, -⟩, -⟩ := hp.params
  obtain ⟨dss, hdss, ⟨m, hm⟩, hre⟩ := hlawful.options resolve p.options rss hagrees hoptions hrss
  refine ⟨⟨dss⟩, ⟨m, rfl, ⟨hm, (Reading.list_solid _ _).not_missing hm⟩, trivial⟩, ?_, ?_⟩
  · have hdss : Rule.describeOptions .builtin rss = .ok dss := hdss
    have hdescribe : (Rule.or rss).describe .builtin =
        (writeDescribed (Rule.describeOptions .builtin rss) OrParameters.mk).map
          (RuleDescription.mk "Or") := rfl
    rw [hdescribe, hdss]
    rfl
  · intro k resolve hagrees hsound
    obtain ⟨⟨hoptions, -⟩, -⟩ := hsound.params
    exact map_eq_ok_iff.mpr ⟨rss, hre k resolve hagrees hoptions, rfl⟩

/-- The rule that selects among cases, in the order of their names. -/
def buildSwitch (resolve : Resolver) (p : SwitchParameters) : Except SchemaError Rule :=
  (Builtin.resolveCases resolve p.cases.sorted).bind fun cases =>
    (chain.option.build resolve p.fallback).map fun fallback =>
      .switch p.key cases fallback p.exhaustive

/-- A rule with cases is read and then built. -/
lemma makeSwitch_eq (given : Dict Value) (resolve : Resolver) :
    Builtin.makeSwitch given resolve =
      (readParameters "Switch" Builtin.switchParams given).bind (buildSwitch resolve) := by
  delta Builtin.makeSwitch
  cases (readParameters "Switch" Builtin.switchParams given :
    Except SchemaError SwitchParameters) with
  | error e => rfl
  | ok p =>
    dsimp only [Except.bind]
    rw [buildSwitch, resolveFallback_eq]
    cases Builtin.resolveCases resolve p.cases.sorted <;> rfl

/-- Rules with cases that are described are described by them. -/
lemma describe_switch_of_ok {key : String} {cases : Dict (List Rule)}
    {described : Dict (List RuleDescription)} {fallback : Option (List Rule)} {exhaustive : Bool}
    (h : Rule.describeCases .builtin cases = .ok described) :
    (Rule.switch key cases fallback exhaustive).describe .builtin =
      (writeDescribed (Rule.describeFallback .builtin fallback) fun fallback =>
        SwitchParameters.mk key described fallback exhaustive).map
          (RuleDescription.mk "Switch") := by
  rw [Rule.describe, h]
  rfl

/-- Rules with cases are described by their cases, which are in order already. -/
lemma lawful_switch : LawfulType "Switch" := by
  refine .of_schema SwitchParameters.schema rfl makeSwitch_eq ?_
  rintro n p r resolve hlawful hagrees hp h
  obtain ⟨rcs, hrcs, h⟩ := bind_eq_ok_iff.mp h
  obtain ⟨rs?, hrs, rfl⟩ := map_eq_ok_iff.mp h
  obtain ⟨hkey, ⟨⟨hdistinct, hcases⟩, -⟩, hfallback, hflag, -⟩ := hp.params
  have hsorted : cases.Sound n p.cases.sorted :=
    fun c hc => hcases c (p.cases.sorted_perm.mem_iff.mp hc)
  obtain ⟨dcs, hdcs, ⟨m, hm⟩, hrecases⟩ := hlawful.cases resolve _ rcs hagrees hsorted hrcs
  obtain ⟨ds?, hds, ⟨m', hm'⟩, hrefallback⟩ := hlawful.chain.option resolve p.fallback rs? hagrees
    (fun ds hds => (hfallback ds hds).1) hrs
  have hkeys : dcs.keys = p.cases.sorted.keys :=
    (keys_of_describeCases hdcs).trans (keys_of_resolveCases hrcs)
  have hascending : dcs.Ascending := by
    rw [Dict.Ascending, hkeys]
    exact p.cases.ascending_sorted
  have hwritten : (Reading.dictionary .chainOfRules MetaForm.chain rfl rfl
      check_chain_ne_null).Sound (max m m') dcs := by
    refine ⟨?_, fun c hc => chain.mono (hm c hc) (Nat.le_max_left m m')⟩
    rw [Dict.Distinct, hkeys]
    exact (p.cases.sorted_perm.map Prod.fst).nodup_iff.mpr hdistinct
  have hgiven : ∀ ds ∈ ds?, chain.Sound (max m m') ds ∧
      OptionalRule.isMissing (Reading.chainOfRules.value ds) = false := fun ds hds =>
    ⟨chain.mono (hm' ds hds) (Nat.le_max_right m m'),
      (Reading.list_solid _ _).not_missing (hm' ds hds)⟩
  refine ⟨⟨p.key, dcs, ds?, p.exhaustive⟩, ⟨max m m', rfl, hkey,
    ⟨hwritten, Reading.dictionary_not_missing hwritten⟩, hgiven, hflag, trivial⟩, ?_, ?_⟩
  · have hdcs : Rule.describeCases .builtin rcs = .ok dcs := hdcs
    rw [describe_switch_of_ok hdcs, describeFallback_eq, hds]
    rfl
  · intro k resolve hagrees hsound
    obtain ⟨-, ⟨⟨-, hcases⟩, -⟩, hfallback, -⟩ := hsound.params
    have hcases : Builtin.resolveCases resolve dcs.sorted = .ok rcs := by
      rw [hascending.sorted_eq]
      exact hrecases k resolve hagrees hcases
    exact bind_eq_ok_iff.mpr ⟨rcs, hcases, map_eq_ok_iff.mpr
      ⟨rs?, hrefallback k resolve hagrees (fun ds hds => (hfallback ds hds).1), rfl⟩⟩

end Translation

end Intake
