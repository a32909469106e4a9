import Intake.Proofs.Schema.Reload
import Intake.Proofs.Schema.Resolvable

set_option autoImplicit false

/-!
# What is loaded is told by its description

A rule that a well-formed description means holds nothing that its own description would not tell:
no map in it repeats a key, its lengths are within the integers of 64 bits with a sign, its patterns
and defaults are not empty, and neither are the messages of its forms.

## Main definitions

* `Translation.ToldInside` — rules whose parts are all told by their descriptions.

## Main results

* `Translation.gives_told` — the rules that sound descriptions mean.
* `Registry.told_of_load` — forms that are loaded from well-formed maps.
-/

namespace Intake

namespace Translation

/-- Lengths that are read fit. -/
lemma lengthFits_of_sound {name key : String} {n : Nat} {x : Option UInt64}
    (h : (Parameter.length name key).Sound n x) : LengthFits x := fun b hb => (h b hb).1

variable [PatternEngine]

/-! ### Forms -/

/-- No rule inside a rule holds anything that its description would not tell. -/
def ToldInside (r : Rule) : Prop := ∀ s ∈ r.parts, s.Told

variable {n : Nat} (h : rule.Gives n ToldInside)

include h

/-- The rules of chains that are built are told. -/
lemma gives_chain : chain.Gives n fun rs => ∀ r ∈ rs, ToldInside r :=
  h.list isTraversal_resolveEach

/-- The rules of options that are built are told. -/
lemma gives_options : options.Gives n fun rss => ∀ rs ∈ rss, ∀ r ∈ rs, ToldInside r :=
  (gives_chain h).list isTraversal_resolveOptions

/-- The rules of cases that are built are told. -/
lemma gives_cases : cases.Gives n fun rcs => ∀ c ∈ rcs, ∀ r ∈ c.2, ToldInside r := by
  refine Gives.list ?_ isTraversal_resolveCases
  intro resolve d c hagrees hsound hc
  obtain ⟨rs, hrs, rfl⟩ := map_eq_ok_iff.mp hc
  exact gives_chain h resolve d.2 rs hagrees hsound hrs

/-- A form that is built is told, and so are the rules of its chains. -/
theorem gives_form :
    form.Gives n fun f => f.WellFormed ∧ f.errorMsg ≠ some "" ∧ ∀ r ∈ f.rules, ToldInside r := by
  have hfield : field.Gives n fun f =>
      (∀ e ∈ f.examples, e.value.WellFormed) ∧ ∀ r ∈ f.chain, ToldInside r := by
    rintro resolve d f hagrees ⟨k, hk, hd⟩ hf
    obtain ⟨rs, hrs, rfl⟩ := map_eq_ok_iff.mp hf
    obtain ⟨-, ⟨hchain, -⟩, ⟨hexamples, -⟩, -⟩ := hd.params
    refine ⟨fun e he => ?_, gives_chain h resolve d.chain rs hagrees
      (chain.mono hchain (Nat.le_of_lt hk)) hrs⟩
    obtain ⟨j, -, hj⟩ := hexamples e he
    exact hj.params.1
  rintro resolve d f hagrees ⟨k, hk, hd⟩ hf
  obtain ⟨fs, hfs, rfl⟩ := map_eq_ok_iff.mp hf
  obtain ⟨-, -, -, hmsg, ⟨hexamples, -⟩, hfields, -⟩ := hd.params
  have hall : ∀ f ∈ fs, (∀ e ∈ f.examples, e.value.WellFormed) ∧ ∀ r ∈ f.chain, ToldInside r :=
    hfield.list isTraversal_buildFields resolve d.fields fs hagrees
      (fields.mono hfields (Nat.le_of_lt hk)) hfs
  refine ⟨⟨fun e he => ?_, fun f hf => (hall f hf).1⟩, ?_, fun r hr => ?_⟩
  · obtain ⟨j, -, hj⟩ := hexamples e he
    exact hj.params.1.1
  · rintro hempty
    have hmissing := (hmsg "" hempty).2
    cases hmissing
  · obtain ⟨f, hf, hr⟩ := List.mem_flatMap.mp hr
    exact (hall f hf).2 r hr

omit h

/-! ### Types -/

/-- What a type makes of sound parameters is told, provided that rules of less depth are. -/
def ToldType (typeName : String) : Prop :=
  ∀ (d : RuleDescription) (r : Rule), d.typeName = typeName → (Value.map d.params).WellFormed →
    rule.Gives d.depth ToldInside → Registry.builtin.resolve d = .ok r → ToldInside r

/-- A type whose parameters a schema reads makes rules that are told if it does so of sound
parameters. -/
theorem ToldType.of_schema {α : Type} [Record α] (S : Schema α) {typeName : String}
    {definition : Definition} {build : Resolver → α → Except SchemaError Rule}
    (hfind : Registry.builtin.find? typeName = some definition)
    (hmake : ∀ given resolve, definition.make given resolve =
      (readParameters typeName S.form given).bind (build resolve))
    (hbuild : ∀ n a r resolve, rule.Gives n ToldInside → Resolver.Agrees resolve n →
      S.Sound n a → build resolve a = .ok r → ToldInside r) : ToldType typeName := by
  rintro d r rfl hwf htold h
  obtain ⟨a, ha, hr⟩ := (resolve_eq_ok_iff S hfind hmake).mp h
  exact hbuild d.depth a r _ htold (agrees_below _) (S.sound_of_read? hwf (Nat.le_refl _) ha) hr

/-- A rule that holds no rules is told by what it holds itself. -/
lemma toldInside_of_held {r : Rule} (hheld : r.held = []) (h : r.Told) : ToldInside r := by
  refine Rule.forall_parts_iff.mpr ⟨h, ?_⟩
  rw [hheld]
  exact fun _ ht => absurd ht List.not_mem_nil

/-- A type whose parameters are its rule makes rules that are told. -/
theorem ToldType.plain {α : Type} [Record α] (S : Schema α) {typeName : String}
    {toRule : α → Rule}
    (hfind : Registry.builtin.find? typeName =
      some (Builtin.plainDefinition typeName S.form toRule))
    (hheld : ∀ a, (toRule a).held = []) (htold : ∀ n a, S.Sound n a → (toRule a).Told) :
    ToldType typeName := by
  refine .of_schema S hfind (plainDefinition_make_eq typeName S.form toRule) ?_
  rintro n a _ _ - - hsound ⟨⟩
  exact toldInside_of_held (hheld a) (htold n a hsound)

/-- A type without parameters makes a rule that is told. -/
theorem ToldType.constant {typeName : String} {r : Rule}
    (hfind : Registry.builtin.find? typeName = some (Builtin.constantDefinition r))
    (hheld : r.held = []) (htold : r.Told) : ToldType typeName := by
  rintro d _ rfl - - h
  rw [resolve_eq hfind] at h
  cases h
  exact toldInside_of_held hheld htold

/-- Rules for text that are read are told. -/
lemma told_text : ToldType "IsString" := by
  refine .plain TextRule.schema rfl (fun _ => rfl) fun n r hr => ?_
  obtain ⟨hmin, hmax, -⟩ := hr.params
  exact ⟨trivial, ⟨lengthFits_of_sound hmin, lengthFits_of_sound hmax⟩, trivial⟩

/-- Rules for bytes that are read are told. -/
lemma told_bytes : ToldType "IsBytes" := by
  refine .plain BytesRule.schema rfl (fun _ => rfl) fun n r hr => ?_
  obtain ⟨-, hmin, hmax, -⟩ := hr.params
  exact ⟨trivial, ⟨lengthFits_of_sound hmin, lengthFits_of_sound hmax⟩, trivial⟩

/-- Rules for hexadecimal text that are read are told. -/
lemma told_hex : ToldType "IsHex" := by
  refine .plain HexRule.schema rfl (fun _ => rfl) fun n r hr => ?_
  obtain ⟨-, -, hmin, hmax, -⟩ := hr.params
  exact ⟨trivial, ⟨lengthFits_of_sound hmin, lengthFits_of_sound hmax⟩, trivial⟩

/-- Rules with a pattern are told. -/
lemma told_pattern : ToldType "MatchesRegex" := by
  refine .of_schema PatternRule.Parameters.schema rfl makePattern_eq ?_
  rintro n ⟨s⟩ r resolve - - hp h
  obtain ⟨pattern, hpattern, rfl⟩ := buildPattern_eq_ok_iff.mp h
  obtain rfl : pattern.text = s := Pattern.text_of_ofText hpattern
  refine toldInside_of_held rfl ⟨Pattern.compiled_of_ofText hpattern, trivial, fun hempty => ?_⟩
  obtain ⟨⟨-, hmissing⟩, -⟩ := hp.params
  rw [hempty] at hmissing
  cases hmissing

/-- Rules for choices that are read are told. -/
lemma told_oneOf : ToldType "IsIn" :=
  .plain OneOfRule.schema rfl (fun _ => rfl) fun _ _ hr => ⟨hr.params.1, trivial, trivial⟩

/-- Rules against values that are read are told. -/
lemma told_noneOf : ToldType "IsNotIn" :=
  .plain NoneOfRule.schema rfl (fun _ => rfl) fun _ _ hr => ⟨hr.params.1.1, trivial, trivial⟩

/-- Rules for optional values that are read are told. -/
lemma told_optional : ToldType "IsOptional" := by
  refine .plain OptionalRule.schema rfl (fun _ => rfl) fun n r hr => ?_
  obtain ⟨hdefault, -⟩ := hr.params
  refine ⟨fun v hv => (hdefault v hv).1, fun hempty => ?_, trivial⟩
  have hmissing := (hdefault (.string "") hempty).2
  cases hmissing

/-- Rules for lists that are built are told. -/
lemma ToldType.list {typeName : String} {toRule : List Rule → Rule}
    (hfind : Registry.builtin.find? typeName =
      some ⟨Builtin.listParams, Builtin.makeList typeName toRule⟩)
    (hheld : ∀ rs, (toRule rs).held = rs) (htold : ∀ rs, (toRule rs).Told) :
    ToldType typeName := by
  refine .of_schema ListParameters.schema hfind (makeList_eq typeName toRule) ?_
  intro n p r resolve hgives hagrees hp h
  obtain ⟨rs, hrs, rfl⟩ := map_eq_ok_iff.mp h
  obtain ⟨⟨hchain, -⟩, -⟩ := hp.params
  refine Rule.forall_parts_iff.mpr ⟨htold rs, ?_⟩
  rw [hheld]
  exact gives_chain hgives resolve p.chain rs hagrees hchain hrs

/-- Rules for maps that are built are told. -/
lemma told_map : ToldType "IsStringMap" := by
  refine .of_schema MapParameters.schema rfl makeMap_eq ?_
  intro n p r resolve hgives hagrees hp h
  obtain ⟨f?, hf, rfl⟩ := map_eq_ok_iff.mp h
  obtain ⟨hform, -⟩ := hp.params
  have htold := (gives_form hgives).option resolve p.form f? hagrees
    (fun d hd => (hform d hd).1) hf
  refine Rule.forall_parts_iff.mpr
    ⟨⟨fun f hf => (htold f hf).1, fun f hf => (htold f hf).2.1, trivial⟩, ?_⟩
  cases f? with
  | none => exact fun _ ht => absurd ht List.not_mem_nil
  | some f => exact (htold f rfl).2.2

/-- Rules with options that are built are told. -/
lemma told_or : ToldType "Or" := by
  refine .of_schema OrParameters.schema rfl makeOr_eq ?_
  intro n p r resolve hgives hagrees hp h
  obtain ⟨rss, hrss, rfl⟩ := map_eq_ok_iff.mp h
  obtain ⟨⟨hoptions, -⟩, -⟩ := hp.params
  have htold := gives_options hgives resolve p.options rss hagrees hoptions hrss
  refine Rule.forall_parts_iff.mpr ⟨⟨trivial, trivial, trivial⟩, fun r hr => ?_⟩
  obtain ⟨rs, hrs, hr⟩ := List.mem_flatten.mp hr
  exact htold rs hrs r hr

/-- Rules with cases that are built are told: their cases are those of a map. -/
lemma told_switch : ToldType "Switch" := by
  refine .of_schema SwitchParameters.schema rfl makeSwitch_eq ?_
  intro n p r resolve hgives hagrees hp h
  obtain ⟨rcs, hrcs, h⟩ := bind_eq_ok_iff.mp h
  obtain ⟨rs?, hrs, rfl⟩ := map_eq_ok_iff.mp h
  obtain ⟨-, ⟨⟨hdistinct, hcases⟩, -⟩, hfallback, -⟩ := hp.params
  have hsorted : cases.Sound n p.cases.sorted :=
    fun c hc => hcases c (p.cases.sorted_perm.mem_iff.mp hc)
  have htold := gives_cases hgives resolve _ rcs hagrees hsorted hrcs
  have htoldFallback := (gives_chain hgives).option resolve p.fallback rs? hagrees
    (fun ds hds => (hfallback ds hds).1) hrs
  have hnames : Dict.Distinct rcs := by
    rw [Dict.Distinct, keys_of_resolveCases hrcs]
    exact (p.cases.sorted_perm.map Prod.fst).nodup_iff.mpr hdistinct
  refine Rule.forall_parts_iff.mpr ⟨⟨hnames, trivial, trivial⟩, fun r hr => ?_⟩
  rcases List.mem_append.mp hr with hr | hr
  · obtain ⟨c, hc, hr⟩ := List.mem_flatMap.mp hr
    exact htold c hc r hr
  · cases rs? with
    | none => exact absurd hr List.not_mem_nil
    | some rs => exact htoldFallback rs rfl r hr

/-- Every built-in type makes rules that are told. -/
lemma toldType_of_mem : ∀ e ∈ Builtin.definitions, ToldType e.1 := by
  simp only [Builtin.definitions, List.forall_mem_cons]
  exact ⟨told_text,
    .plain IntegerRule.schema rfl (fun _ => rfl) fun _ _ _ => ⟨trivial, trivial, trivial⟩,
    .plain FloatRule.schema rfl (fun _ => rfl) fun _ _ _ => ⟨trivial, trivial, trivial⟩,
    .plain BooleanRule.schema rfl (fun _ => rfl) fun _ _ _ => ⟨trivial, trivial, trivial⟩,
    told_bytes, told_hex,
    .plain UuidRule.schema rfl (fun _ => rfl) fun _ _ _ => ⟨trivial, trivial, trivial⟩,
    .plain TimeRule.schema rfl (fun _ => rfl) fun _ _ _ => ⟨trivial, trivial, trivial⟩,
    told_pattern, told_oneOf, told_noneOf, .constant rfl rfl ⟨trivial, trivial, trivial⟩,
    told_optional,
    .plain NilRule.schema rfl (fun _ => rfl) fun _ _ _ => ⟨trivial, trivial, trivial⟩,
    .constant rfl rfl ⟨trivial, trivial, trivial⟩,
    .list rfl (fun _ => rfl) fun _ => ⟨trivial, trivial, trivial⟩,
    .list rfl (fun _ => rfl) fun _ => ⟨trivial, trivial, trivial⟩,
    told_map, told_or, told_switch, List.forall_mem_nil _⟩

/-- **The rules that sound descriptions mean are told by their own descriptions.**

**Proof sketch.** Each built-in type makes rules that are told once the registry does so of what
nests less deep. -/
theorem gives_told (n : Nat) : rule.Gives n ToldInside := gives_rule toldType_of_mem n

end Translation

/-- **A form that is loaded from a well-formed map is told by its description**, and so are all
rules inside it. -/
theorem Registry.told_of_load [PatternEngine] {description : Dict Value}
    (hdescription : (Value.map description).WellFormed) {f : Form}
    (h : Registry.builtin.load description = .ok f) :
    f.WellFormed ∧ f.errorMsg ≠ some "" ∧ ∀ s ∈ f.parts, s.Told := by
  obtain ⟨d, hd, hf⟩ := Registry.load_eq_ok_iff.mp h
  have hsound := FormDescription.schema.sound_of_read? hdescription (Nat.le_refl _) hd
  obtain ⟨hwf, hmsg, hrules⟩ := Translation.gives_form (Translation.gives_told _)
    Registry.builtin.resolve d f (fun _ _ => rfl) ⟨_, Nat.lt_succ_self _, hsound⟩ hf
  refine ⟨hwf, hmsg, ?_⟩
  rw [f.parts_eq_flatMap, List.forall_mem_flatMap]
  exact hrules

end Intake
