import Intake.Proofs.Form.Vacuous
import Intake.Proofs.Pattern.Standard
import Intake.Proofs.Schema.Rebuild

set_option autoImplicit false

/-!
# Rules that are resolved from their descriptions

A description does not tell everything that a rule built in code may hold: a length beyond the
integers of 64 bits with a sign is written as a float, and an empty text is missing for the reader.
Every other rule is rebuilt from its description, at any depth. The empty pattern comes back as the
one that stands for no pattern, and that does the same where the engine is lawful.

## Main definitions

* `Rule.WellFormed` — no map in a rule repeats a key, and patterns are compiled.
* `Rule.Resolvable` — nothing in a rule is lost on a reader of its description.
* `Rule.MayBeBlank` — an empty pattern may stand for no pattern.
* `Rule.Told` — a rule, apart from those that it holds, is told by its description.
* `Rule.ComesThrough` — its parameters come through a passage.

## Main results

* `Rule.rebuilt_of_parts` — a rule is rebuilt if all rules inside it are told and come through.
* `Rule.resolve_describe` — the description of a rule resolves to a rule that does the same.
-/

namespace Intake

/-! ### Conditions -/

/-- No input of an example of a form repeats a key. -/
def Form.WellFormed (f : Form) : Prop :=
  (∀ e ∈ f.examples, (Value.map e.value).WellFormed) ∧
    ∀ field ∈ f.fields, ∀ e ∈ field.examples, e.value.WellFormed

/-- No map in a rule repeats a key, and neither do the cases of a switch, and a pattern is what its
text compiles to. What the rules inside it hold does not count. -/
def Rule.WellFormed [PatternEngine] : Rule → Prop
  | .pattern r => r.pattern.Compiled
  | .oneOf r => ∀ v ∈ r.choices, v.WellFormed
  | .noneOf r => ∀ v ∈ r.values, v.WellFormed
  | .optional r => ∀ v ∈ r.default, v.WellFormed
  | .map form _ => ∀ f ∈ form, f.WellFormed
  | .switch _ cases _ _ => Dict.Distinct cases
  | _ => True

/-- A length is an integer of 64 bits with a sign. -/
def LengthFits (length : Option UInt64) : Prop := ∀ n ∈ length, n.toNat < 2 ^ 63

/-- Nothing in a rule is lost on a reader of its description: no length beyond the integers of 64
bits with a sign, no empty default and no form with an empty message. What the rules inside it hold
does not count. -/
def Rule.Resolvable : Rule → Prop
  | .text r => LengthFits r.minLength ∧ LengthFits r.maxLength
  | .bytes r => LengthFits r.minLength ∧ LengthFits r.maxLength
  | .hex r => LengthFits r.minLength ∧ LengthFits r.maxLength
  | .optional r => r.default ≠ some (.string "")
  | .map form _ => ∀ f ∈ form, f.errorMsg ≠ some ""
  | _ => True

/-- A pattern that is empty matches every text, and so does the one that stands for no pattern: an
empty pattern is described as none. What the rules inside it hold does not count. -/
def Rule.MayBeBlank [PatternEngine] : Rule → Prop
  | .pattern r => r.pattern.text = "" → (∀ s, r.pattern.occursIn s = true) ∧
      ∃ p, Pattern.ofText ".*" = .ok p ∧ ∀ s, p.occursIn s = true
  | _ => True

/-- Empty patterns may stand for no pattern where the engine is lawful. -/
lemma Rule.mayBeBlank_of_lawful [PatternEngine] (hengine : PatternEngine.Lawful) {r : Rule}
    (hwf : r.WellFormed) : r.MayBeBlank := by
  cases r with
  | pattern r =>
    intro hempty
    have hcompiled : Pattern.ofText "" = .ok r.pattern := hempty ▸ hwf
    exact ⟨hengine.empty _ hcompiled, hengine.any⟩
  | text | integer | float | boolean | bytes | hex | uuid | time | oneOf | noneOf | required
  | optional | nil | anything | list | textList | map | or | switch | custom => trivial

/-- A rule is told by its description. What the rules inside it hold does not count. -/
structure Rule.Told [PatternEngine] (r : Rule) : Prop where
  wellFormed : r.WellFormed
  resolvable : r.Resolvable
  mayBeBlank : r.MayBeBlank

/-- The values in a rule come through as they are, and so do the bounds on floats, unless no number
is beyond them. What the rules inside it hold does not count. -/
def Rule.ComesThrough (P : Passage) : Rule → Prop
  | .float r =>
    (∀ x ∈ r.min, P.Keeps (.float x) ∨ x ≠ Binary64.infinity false) ∧
      ∀ x ∈ r.max, P.Keeps (.float x) ∨ x ≠ Binary64.infinity true
  | .oneOf r => ∀ v ∈ r.choices, P.Keeps v
  | .noneOf r => ∀ v ∈ r.values, P.Keeps v
  | .optional r => ∀ v ∈ r.default, P.Keeps v
  | _ => True

/-- Everything comes through where nothing changes. -/
lemma Rule.comesThrough_direct (r : Rule) : r.ComesThrough .direct := by
  cases r with
  | float r => exact ⟨fun _ _ => .inl rfl, fun _ _ => .inl rfl⟩
  | oneOf | noneOf | optional => exact fun _ _ => rfl
  | text | integer | boolean | bytes | hex | uuid | time | pattern | required | nil | anything
  | list | textList | map | or | switch | custom => trivial

variable {P : Passage}

/-! ### Parameters -/

namespace Parameter

variable {name key : String}

/-- Lengths that fit are carried as they are. -/
lemma carries_length {x : Option UInt64} (h : LengthFits x) :
    (length name key).Carries P x x := by
  delta length
  refine Reading.carries_option Reading.length_solid ?_
  cases x with
  | none => exact .none
  | some n =>
    have hn : n.toNat < 2 ^ 63 := h n rfl
    have hvalue : Reading.length.value n = .int (Int64.ofInt n.toNat) := by
      have hdatum : (toDatum n).toValue =
          .ok (Value.ofUnsigned (UInt64.ofNat (n.toNat : Int).toNat)) := rfl
      rw [Reading.value, hdatum, Int.toNat_natCast, UInt64.ofNat_toNat, Value.ofUnsigned_of_lt hn]
      rfl
    exact .some (Reading.carries_of_sound (n := 0) hn (hvalue ▸ P.keeps_int _))

/-- Integers are carried as they are. -/
lemma carries_integer (x : Option Int64) : (integer name).Carries P x x := by
  delta integer
  refine Reading.carries_option Reading.integer_solid ?_
  cases x with
  | none => exact .none
  | some n => exact .some (Reading.carries_of_sound (n := 0) trivial (P.keeps_int _))

/-- A bound is carried as it is, or it is missing because it is not finite. -/
lemma exists_carries_float (x : Option Binary64) :
    ∃ x', (float name).Carries P x x' ∧
      (x' = x ∨ x' = none ∧ ∀ b ∈ x, ¬P.Keeps (.float b) ∧ b.isFinite = false) := by
  delta float
  cases x with
  | none => exact ⟨none, Reading.carries_option_none, .inl rfl⟩
  | some b =>
    have hvalue : Reading.float.value b = .float b := rfl
    by_cases hkeeps : P.Keeps (.float b)
    · have hb : Reading.float.Carries P b b :=
        Reading.carries_of_sound (n := 0) trivial hkeeps
      exact ⟨some b, hb.option (hb.not_missing Reading.float_solid), .inl rfl⟩
    · obtain hsame | ⟨hfinite, hnull⟩ := P.float b
      · exact absurd hsame hkeeps
      refine ⟨none, Reading.carries_option_missing (n := 0) trivial ?_, .inr ⟨rfl, ?_⟩⟩
      · rw [hvalue, hnull]
        rfl
      · rintro _ ⟨⟩
        exact ⟨hkeeps, hfinite⟩

/-- Encodings are carried as they are. -/
lemma carries_encoding (e : ByteEncoding) : encoding.Carries P e e :=
  carries_of_sound (n := 0) _ ⟨trivial, by cases e <;> rfl⟩ (P.keeps_string e.name)

/-- Formats are carried as they are. -/
lemma carries_format (f : TimeFormat) : format.Carries P f f :=
  carries_of_sound (n := 0) _ ⟨trivial, by cases f <;> rfl⟩ (P.keeps_string f.name)

/-- The text of a pattern is carried as it is, unless it is empty: then the one that stands for no
pattern takes its place. -/
lemma exists_carries_pattern [PatternEngine] {s : String} (h : ∃ p, Pattern.ofText s = .ok p)
    (hblank : s = "" → ∃ p, Pattern.ofText ".*" = .ok p) :
    ∃ s', pattern.Carries P s s' ∧ (s' = s ∨ s = "" ∧ s' = ".*") := by
  have hs : Reading.regexp.Carries P s s :=
    Reading.carries_of_sound (n := 0) h (P.keeps_string s)
  have hthrough : P.through (Reading.regexp.value s) = .string s := P.string s
  delta pattern
  by_cases hempty : s = ""
  · have hany : Reading.regexp.accept? (.string ".*") = some ".*" :=
      acceptAs?_regexp_eq_some_iff.mpr ⟨rfl, hblank hempty⟩
    refine ⟨".*", Reading.carries_orDefault_missing (n := 0) h rfl ?_ hany, .inr ⟨hempty, rfl⟩⟩
    rw [hthrough, hempty]
    rfl
  · refine ⟨s, hs.orDefault ?_ nofun, .inl rfl⟩
    rw [hthrough]
    exact Bool.eq_false_iff.mpr (mt String.isEmpty_iff.mp hempty)

/-- Values that come through are carried as they are. -/
lemma carries_any {vs : List Value} (hwf : ∀ v ∈ vs, v.WellFormed) (h : ∀ v ∈ vs, P.Keeps v) :
    List.Forall₂ (Reading.any.Carries P) vs vs := by
  rw [List.forall₂_same]
  intro v hv
  have hvalue : Reading.any.value v = v := Reading.value_dynamic (hwf v hv)
  exact Reading.carries_of_sound (n := 0) (hwf v hv) (hvalue.symm ▸ h v hv)

/-- A default that comes through is carried as it is, unless it is null: then it is missing. -/
lemma exists_carries_default {x : Option Value} (hwf : ∀ v ∈ x, v.WellFormed)
    (h : ∀ v ∈ x, P.Keeps v) (hempty : x ≠ some (.string "")) :
    ∃ x', default.Carries P x x' ∧ (x' = x ∨ x = some .null ∧ x' = none) := by
  delta default
  cases x with
  | none => exact ⟨none, Reading.carries_option_none, .inl rfl⟩
  | some v =>
    have hvalue : Reading.anything.value v = v := Reading.value_dynamic (hwf v rfl)
    have hthrough : P.through (Reading.anything.value v) = v := hvalue.symm ▸ h v rfl
    have hv : Reading.anything.Carries P v v :=
      Reading.carries_of_sound (n := 0) (hwf v rfl) (hvalue.symm ▸ h v rfl)
    by_cases hnull : v = .null
    · refine ⟨none, Reading.carries_option_missing (n := 0) (hwf v rfl) ?_,
        .inr ⟨congrArg some hnull, rfl⟩⟩
      rw [hthrough, hnull]
      rfl
    · refine ⟨some v, hv.option ?_, .inl rfl⟩
      rw [hthrough]
      cases v with
      | null => exact absurd rfl hnull
      | string s =>
        exact Bool.eq_false_iff.mpr fun hs => hempty (by rw [String.isEmpty_iff.mp hs])
      | bool | int | float | bytes | list | map => rfl

/-- The form of the values of a map is carried as a description of a form. -/
lemma carries_innerForm {d? d?' : Option FormDescription}
    (h : Option.Rel (FormDescription.schema.Carries P) d? d?') : innerForm.Carries P d? d?' := by
  delta innerForm
  refine Reading.carries_option (Reading.ofSchema_solid _) ?_
  cases h with
  | none => exact .none
  | some hd => exact .some hd.reading

/-- Cases are carried chain by chain, under their names. -/
lemma carries_cases {dcs dcs' : Dict (List RuleDescription)} (hdistinct : dcs.Distinct)
    (h : List.Forall₂ (Translation.CaseCarried P) dcs dcs') : cases.Carries P dcs dcs' := by
  have hdictionary : (Reading.dictionary .chainOfRules MetaForm.chain rfl rfl
      check_chain_ne_null).Carries P dcs dcs' := Reading.carries_dictionary hdistinct h
  delta cases
  exact hdictionary.orDefault hdictionary.dictionary_not_missing
    fun hout => absurd hout Bool.false_ne_true

/-- The chain behind all cases is carried rule by rule. -/
lemma carries_fallbackChain {ds? ds?' : Option (List RuleDescription)}
    (h : Option.Rel (Reading.chainOfRules.Carries P) ds? ds?') :
    fallbackChain.Carries P ds? ds?' := by
  delta fallbackChain
  exact Reading.carries_option (Reading.list_solid _ rfl) h

end Parameter

namespace Rule

open Translation

/-- Parameters of described parts are written when the parts are described. -/
lemma writeDescribed_eq_ok_iff {α β : Type} [Record β] {described : Except SchemaError α}
    {f : α → β} {params : Dict Value} :
    writeDescribed described f = .ok params ↔
      ∃ a, described = .ok a ∧ writeParameters (f a) = .ok params := by
  cases described <;> simp [writeDescribed]

section Rebuilt

variable [PatternEngine]

/-! ### Rules that hold no rules -/

/-- Rules for text whose lengths fit are rebuilt. -/
lemma rebuilt_text {r : TextRule} (h : (Rule.text r).Resolvable) : (Rule.text r).Rebuilt P :=
  .plain TextRule.schema rfl rfl
    ⟨rfl, Parameter.carries_length h.1, Parameter.carries_length h.2, trivial⟩ (.refl _)

/-- Rules for integers are rebuilt. -/
lemma rebuilt_integer (r : IntegerRule) : (Rule.integer r).Rebuilt P :=
  .plain IntegerRule.schema rfl rfl
    ⟨rfl, Parameter.carries_flag r.convert, Parameter.carries_integer r.min,
      Parameter.carries_integer r.max, trivial⟩ (.refl _)

/-- Rules for floats are rebuilt if their bounds come through, or bound nothing. -/
lemma rebuilt_float {r : FloatRule} (h : (Rule.float r).ComesThrough P) :
    (Rule.float r).Rebuilt P := by
  obtain ⟨hmin, hmax⟩ := h
  obtain ⟨min', hcmin, hleast⟩ := Parameter.exists_carries_float (P := P) r.min
  obtain ⟨max', hcmax, hmost⟩ := Parameter.exists_carries_float (P := P) r.max
  have hlower : LowerAlike r.min min' := by
    refine hleast.imp_right (And.imp_right fun hlost x hx y => ?_)
    obtain ⟨hkeeps, hfinite⟩ := hlost x hx
    exact Binary64.not_lt_of_not_finite hfinite ((hmin x hx).resolve_left hkeeps) y
  have hupper : UpperAlike r.max max' := by
    refine hmost.imp_right (And.imp_right fun hlost x hx y => ?_)
    obtain ⟨hkeeps, hfinite⟩ := hlost x hx
    exact Binary64.lt_of_not_finite hfinite ((hmax x hx).resolve_left hkeeps) y
  have hcarries : FloatRule.schema.Carries P r ⟨r.convert, min', max'⟩ :=
    ⟨rfl, Parameter.carries_flag r.convert, hcmin, hcmax, trivial⟩
  exact .plain FloatRule.schema rfl rfl hcarries (.float r.convert hlower hupper)

/-- Rules for booleans are rebuilt. -/
lemma rebuilt_boolean (r : BooleanRule) : (Rule.boolean r).Rebuilt P :=
  .plain BooleanRule.schema rfl rfl ⟨rfl, Parameter.carries_flag r.convert, trivial⟩ (.refl _)

/-- Rules for bytes whose lengths fit are rebuilt. -/
lemma rebuilt_bytes {r : BytesRule} (h : (Rule.bytes r).Resolvable) : (Rule.bytes r).Rebuilt P :=
  .plain BytesRule.schema rfl rfl
    ⟨rfl, Parameter.carries_encoding r.encoding, Parameter.carries_length h.1,
      Parameter.carries_length h.2, trivial⟩ (.refl _)

/-- Rules for hexadecimal text whose lengths fit are rebuilt. -/
lemma rebuilt_hex {r : HexRule} (h : (Rule.hex r).Resolvable) : (Rule.hex r).Rebuilt P :=
  .plain HexRule.schema rfl rfl
    ⟨rfl, Parameter.carries_flag r.convertToBinary, Parameter.carries_flag r.strict,
      Parameter.carries_length h.1, Parameter.carries_length h.2, trivial⟩ (.refl _)

/-- Rules for universal identifiers are rebuilt. -/
lemma rebuilt_uuid (r : UuidRule) : (Rule.uuid r).Rebuilt P :=
  .plain UuidRule.schema rfl rfl ⟨rfl, Parameter.carries_flag r.convertToBinary, trivial⟩ (.refl _)

/-- Rules for times are rebuilt. -/
lemma rebuilt_time (r : TimeRule) : (Rule.time r).Rebuilt P :=
  .plain TimeRule.schema rfl rfl
    ⟨rfl, Parameter.carries_format r.format, Parameter.carries_flag r.toUtc,
      Parameter.carries_flag r.raw, trivial⟩ (.refl _)

/-- Rules with a pattern are rebuilt. The empty pattern comes back as the one that stands for no
pattern. -/
lemma rebuilt_pattern {r : PatternRule} (hwf : (Rule.pattern r).WellFormed)
    (h : (Rule.pattern r).MayBeBlank) : (Rule.pattern r).Rebuilt P := by
  obtain ⟨p⟩ := r
  have hcompiled : Pattern.ofText p.text = .ok p := hwf
  obtain ⟨s', hcarries, hs'⟩ := Parameter.exists_carries_pattern (P := P) ⟨p, hcompiled⟩
    fun hempty => (h hempty).2.imp fun _ => And.left
  have hparams : PatternRule.Parameters.schema.Carries P ⟨p.text⟩ ⟨s'⟩ := ⟨rfl, hcarries, trivial⟩
  have hfind : Registry.builtin.find? "MatchesRegex" =
      some ⟨Builtin.patternParams, Builtin.makePattern⟩ := rfl
  refine .of_schema PatternRule.Parameters.schema hfind makePattern_eq fun d hd => ?_
  refine ⟨_, _, hparams, hd, fun _ _ _ _ => ?_⟩
  obtain rfl | ⟨hempty, rfl⟩ := hs'
  · exact ⟨_, buildPattern_eq_ok_iff.mpr ⟨p, hcompiled, rfl⟩, .refl _⟩
  · obtain ⟨hp, q, hq, hany⟩ := h hempty
    exact ⟨_, buildPattern_eq_ok_iff.mpr ⟨q, hq, rfl⟩, .pattern hany hp⟩

/-- Rules for choices that come through are rebuilt. -/
lemma rebuilt_oneOf {r : OneOfRule} (hwf : (Rule.oneOf r).WellFormed)
    (h : (Rule.oneOf r).ComesThrough P) : (Rule.oneOf r).Rebuilt P := by
  have hlist : (Reading.list .any rfl).Carries P r.choices r.choices :=
    Reading.carries_list (Parameter.carries_any hwf h)
  exact .plain OneOfRule.schema rfl rfl ⟨rfl, hlist.require, trivial⟩ (.refl _)

/-- Rules against values that come through are rebuilt. -/
lemma rebuilt_noneOf {r : NoneOfRule} (hwf : (Rule.noneOf r).WellFormed)
    (h : (Rule.noneOf r).ComesThrough P) : (Rule.noneOf r).Rebuilt P :=
  .plain NoneOfRule.schema rfl rfl
    ⟨rfl, Parameter.carries_listOrDefault (Parameter.carries_any hwf h), trivial⟩ (.refl _)

/-- Rules for optional values are rebuilt if their default is told and comes through. Those with a
generator are not described. -/
lemma rebuilt_optional {r : OptionalRule} (hwf : (Rule.optional r).WellFormed)
    (hresolvable : (Rule.optional r).Resolvable) (h : (Rule.optional r).ComesThrough P) :
    (Rule.optional r).Rebuilt P := by
  obtain ⟨default, generator⟩ := r
  cases generator with
  | some generate =>
    intro d hd
    cases hd
  | none =>
    obtain ⟨default', hcarries, hdefault⟩ :=
      Parameter.exists_carries_default (P := P) hwf h hresolvable
    have hparams : OptionalRule.schema.Carries P ⟨default, none⟩ ⟨default', none⟩ :=
      ⟨rfl, hcarries, trivial⟩
    refine .plain OptionalRule.schema rfl rfl hparams ?_
    obtain rfl | ⟨rfl, rfl⟩ := hdefault
    · exact .refl _
    · exact .optional_null

/-- Rules for missing values are rebuilt. -/
lemma rebuilt_nil (r : NilRule) : (Rule.nil r).Rebuilt P :=
  .plain NilRule.schema rfl rfl ⟨rfl, Parameter.carries_flag r.allowNull, trivial⟩ (.refl _)

/-! ### Rules that hold rules -/

/-- Rules for lists are rebuilt when the rules of their chains are. -/
lemma rebuilt_list {typeName : String} {toRule : List Rule → Rule}
    (hfind : Registry.builtin.find? typeName =
      some ⟨Builtin.listParams, Builtin.makeList typeName toRule⟩)
    (hdescribe : ∀ rs, (toRule rs).describe .builtin =
      (writeDescribed (Rule.describeChain .builtin rs) ListParameters.mk).map
        (RuleDescription.mk typeName))
    (halike : ∀ rs rs', List.Forall₂ Rule.Alike rs rs' → (toRule rs).Alike (toRule rs'))
    {rs : List Rule} (h : ∀ r ∈ rs, r.Rebuilt P) : (toRule rs).Rebuilt P := by
  refine .of_schema ListParameters.schema hfind (makeList_eq typeName toRule) fun d hd => ?_
  rw [hdescribe] at hd
  obtain ⟨params, hparams, rfl⟩ := map_eq_ok_iff.mp hd
  obtain ⟨ds, hds, hwritten⟩ := writeDescribed_eq_ok_iff.mp hparams
  obtain ⟨ds', hcarried, hbuilt⟩ := rebuilds_chain h ds hds
  refine ⟨⟨ds⟩, ⟨ds'⟩, ⟨rfl, Parameter.carries_listOrElse hcarried, trivial⟩,
    map_eq_ok_iff.mpr ⟨params, hwritten, rfl⟩, fun n resolve hagrees hsound => ?_⟩
  obtain ⟨⟨hchain, -⟩, -⟩ := hsound.params
  obtain ⟨rs', hrs', hsame⟩ := hbuilt n resolve hagrees hchain
  exact ⟨toRule rs', map_eq_ok_iff.mpr ⟨rs', hrs', rfl⟩, halike rs' rs hsame⟩

/-- Rules for maps are rebuilt when the rules of their forms are. Those with a shape are not
described. -/
lemma rebuilt_map {form : Option Form} {shape : Option Shape}
    (hwf : (Rule.map form shape).WellFormed) (hresolvable : (Rule.map form shape).Resolvable)
    (h : ∀ f ∈ form, ∀ r ∈ f.rules, r.Rebuilt P) : (Rule.map form shape).Rebuilt P := by
  cases shape with
  | some shape =>
    intro d hd
    cases hd
  | none =>
    have hfind : Registry.builtin.find? "IsStringMap" =
        some ⟨Builtin.mapParams, Builtin.makeMap⟩ := rfl
    refine .of_schema MapParameters.schema hfind makeMap_eq fun d hd => ?_
    have hdescribe : (Rule.map form none).describe .builtin =
        (writeDescribed (Rule.describeInner .builtin form) MapParameters.mk).map
          (RuleDescription.mk "IsStringMap") := rfl
    rw [hdescribe, describeInner_eq] at hd
    obtain ⟨params, hparams, rfl⟩ := map_eq_ok_iff.mp hd
    obtain ⟨d?, hd?, hwritten⟩ := writeDescribed_eq_ok_iff.mp hparams
    have hform : ∀ f ∈ form, Translation.form.Rebuilds (FormDescription.schema.Carries P)
        Form.Alike f := fun f hf =>
      rebuilds_form (hresolvable f hf) (hwf f hf).1 (hwf f hf).2 (h f hf)
    obtain ⟨d?', hcarried, hbuilt⟩ := Rebuilds.option hform d? hd?
    refine ⟨⟨d?⟩, ⟨d?'⟩, ⟨rfl, Parameter.carries_innerForm hcarried, trivial⟩,
      map_eq_ok_iff.mpr ⟨params, hwritten, rfl⟩, fun n resolve hagrees hsound => ?_⟩
    obtain ⟨hsound, -⟩ := hsound.params
    obtain ⟨f?, hf?, hsame⟩ := hbuilt n resolve hagrees fun d hd => (hsound d hd).1
    exact ⟨.map f? none, map_eq_ok_iff.mpr ⟨f?, hf?, rfl⟩, .map hsame none⟩

/-- Rules with options are rebuilt when the rules of their options are. -/
lemma rebuilt_or {rss : List (List Rule)} (h : ∀ rs ∈ rss, ∀ r ∈ rs, r.Rebuilt P) :
    (Rule.or rss).Rebuilt P := by
  have hfind : Registry.builtin.find? "Or" = some ⟨Builtin.orParams, Builtin.makeOr⟩ := rfl
  refine .of_schema OrParameters.schema hfind makeOr_eq fun d hd => ?_
  have hdescribe : (Rule.or rss).describe .builtin =
      (writeDescribed (Rule.describeOptions .builtin rss) OrParameters.mk).map
        (RuleDescription.mk "Or") := rfl
  rw [hdescribe] at hd
  obtain ⟨params, hparams, rfl⟩ := map_eq_ok_iff.mp hd
  obtain ⟨dss, hdss, hwritten⟩ := writeDescribed_eq_ok_iff.mp hparams
  obtain ⟨dss', hcarried, hbuilt⟩ := rebuilds_options h dss hdss
  refine ⟨⟨dss⟩, ⟨dss'⟩, ⟨rfl, Parameter.carries_listOrDefault hcarried, trivial⟩,
    map_eq_ok_iff.mpr ⟨params, hwritten, rfl⟩, fun n resolve hagrees hsound => ?_⟩
  obtain ⟨⟨hoptions, -⟩, -⟩ := hsound.params
  obtain ⟨rss', hrss', hsame⟩ := hbuilt n resolve hagrees hoptions
  exact ⟨.or rss', map_eq_ok_iff.mpr ⟨rss', hrss', rfl⟩, .or hsame⟩

/-- Rules with cases are rebuilt when the rules of their cases and of their fallback are. The cases
come back in the order of their names. -/
lemma rebuilt_switch {key : String} {cases : List (String × List Rule)}
    {fallback : Option (List Rule)} {exhaustive : Bool}
    (hwf : (Rule.switch key cases fallback exhaustive).WellFormed)
    (hcases : ∀ c ∈ cases, ∀ r ∈ c.2, r.Rebuilt P)
    (hfallback : ∀ rs ∈ fallback, ∀ r ∈ rs, r.Rebuilt P) :
    (Rule.switch key cases fallback exhaustive).Rebuilt P := by
  have hfind : Registry.builtin.find? "Switch" =
      some ⟨Builtin.switchParams, Builtin.makeSwitch⟩ := rfl
  refine .of_schema SwitchParameters.schema hfind makeSwitch_eq fun d hd => ?_
  cases hdcs : Rule.describeCases .builtin cases with
  | error e =>
    rw [Rule.describe, hdcs] at hd
    cases hd
  | ok dcs =>
    rw [describe_switch_of_ok hdcs, describeFallback_eq] at hd
    obtain ⟨params, hparams, rfl⟩ := map_eq_ok_iff.mp hd
    obtain ⟨ds?, hds, hwritten⟩ := writeDescribed_eq_ok_iff.mp hparams
    obtain ⟨dcs', hcasesCarried, hcasesBuilt⟩ := rebuilds_cases hcases dcs hdcs
    obtain ⟨ds?', hfallbackCarried, hfallbackBuilt⟩ :=
      Rebuilds.option (fun rs hrs => rebuilds_chainOfRules (hfallback rs hrs)) ds? hds
    have hkey : Parameter.switchKey.Carries P key key :=
      Parameter.carries_of_sound (n := 0) _ trivial (P.keeps_string key)
    have hdistinct : dcs.Distinct := by
      rw [Dict.Distinct, keys_of_describeCases hdcs]
      exact hwf
    have hswitch : SwitchParameters.schema.Carries P ⟨key, dcs, ds?, exhaustive⟩
        ⟨key, dcs', ds?', exhaustive⟩ :=
      ⟨rfl, hkey, Parameter.carries_cases hdistinct hcasesCarried,
        Parameter.carries_fallbackChain hfallbackCarried, Parameter.carries_flag exhaustive,
        trivial⟩
    refine ⟨_, _, hswitch, map_eq_ok_iff.mpr ⟨params, hwritten, rfl⟩,
      fun n resolve hagrees hsound => ?_⟩
    obtain ⟨-, ⟨⟨-, hcasesSound⟩, -⟩, hfallbackSound, -⟩ := hsound.params
    obtain ⟨rcs, hrcs, hsame⟩ := hcasesBuilt n resolve hagrees hcasesSound
    obtain ⟨rs?, hrs, hsameFallback⟩ :=
      hfallbackBuilt n resolve hagrees fun ds hds => (hfallbackSound ds hds).1
    obtain ⟨rcs', hsorted, hperm⟩ :=
      (isTraversal_resolveCases resolve).exists_perm dcs'.sorted_perm hrcs
    exact ⟨.switch key rcs' rs? exhaustive, bind_eq_ok_iff.mpr ⟨rcs', hsorted,
      map_eq_ok_iff.mpr ⟨rs?, hrs, rfl⟩⟩, .switch_perm key exhaustive hwf hperm hsame hsameFallback⟩

/-! ### Any rule -/

/-- **A rule is rebuilt if all rules inside it are told by their descriptions and come through.**

**Proof sketch.** By induction over the rules inside: each kind of rule is rebuilt if it is told and
comes through itself and the rules that it holds are rebuilt. -/
theorem rebuilt_of_parts (r : Rule) (h : ∀ s ∈ r.parts, s.Told ∧ s.ComesThrough P) :
    r.Rebuilt P := by
  refine Rule.of_parts (fun r hown hheld => ?_) r h
  obtain ⟨⟨hwf, hresolvable, hblank⟩, hthrough⟩ := hown
  cases r with
  | text r => exact rebuilt_text hresolvable
  | integer r => exact rebuilt_integer r
  | float r => exact rebuilt_float hthrough
  | boolean r => exact rebuilt_boolean r
  | bytes r => exact rebuilt_bytes hresolvable
  | hex r => exact rebuilt_hex hresolvable
  | uuid r => exact rebuilt_uuid r
  | time r => exact rebuilt_time r
  | pattern r => exact rebuilt_pattern hwf hblank
  | oneOf r => exact rebuilt_oneOf hwf hthrough
  | noneOf r => exact rebuilt_noneOf hwf hthrough
  | required => exact .constant rfl rfl
  | optional r => exact rebuilt_optional hwf hresolvable hthrough
  | nil r => exact rebuilt_nil r
  | anything => exact .constant rfl rfl
  | list chain => exact rebuilt_list rfl (fun _ => rfl) (fun _ _ => .list) hheld
  | textList chain => exact rebuilt_list rfl (fun _ => rfl) (fun _ _ => .textList) hheld
  | map form shape =>
    refine rebuilt_map hwf hresolvable fun f hf => ?_
    obtain rfl : form = some f := hf
    exact hheld
  | or options =>
    exact rebuilt_or fun rs hrs r hr => hheld r (List.mem_flatten_of_mem hrs hr)
  | switch key cases fallback exhaustive =>
    refine rebuilt_switch hwf (fun c hc r hr => ?_) fun rs hrs r hr => ?_
    · exact hheld r (List.mem_append_left _ (List.mem_flatMap_of_mem hc hr))
    · obtain rfl : fallback = some rs := hrs
      exact hheld r (List.mem_append_right _ hr)
  | custom r =>
    intro d hd
    cases hd

end Rebuilt

/-- **The description of a rule resolves to a rule that does the same**, for every value, beside any
values and in any context, if no rule inside it has a length beyond the integers of 64 bits with a
sign, an empty default or a form with an empty message. All that is asked of the engine is that the
patterns which stand for no pattern match every text.

**Proof sketch.** Nothing changes on the way from the describer to the resolver, so the rule is
rebuilt from its own description. -/
theorem resolve_describe [PatternEngine] (hengine : PatternEngine.Lawful) {r : Rule}
    (hwf : ∀ s ∈ r.parts, s.WellFormed) (hresolvable : ∀ s ∈ r.parts, s.Resolvable)
    {d : RuleDescription} (h : r.describe .builtin = .ok d) :
    ∃ s, Registry.builtin.resolve d = .ok s ∧
      ∀ values context v, s.check values context v = r.check values context v := by
  have htold : ∀ s ∈ r.parts, s.Told ∧ s.ComesThrough .direct := by
    intro s hs
    have hblank : s.MayBeBlank := mayBeBlank_of_lawful hengine (hwf s hs)
    exact ⟨⟨hwf s hs, hresolvable s hs, hblank⟩, s.comesThrough_direct⟩
  obtain ⟨-, s, hs, halike⟩ := rebuilt_of_parts r htold d h
  rw [Passage.entries_direct] at hs
  refine ⟨s, hs, fun values context v => ?_⟩
  rw [halike]

section Samples

/-- The empty pattern. -/
def blankPattern : Pattern := ⟨"", PatternTree.empty.occursIn⟩

/-- A rule for lists of what a sibling says: texts that are not empty, or maps with a flag. -/
def nestedSample : Rule :=
  .list [.switch "kind"
    [("text", [.text ⟨some 1, none⟩, .pattern ⟨blankPattern⟩]),
      ("flag", [.ofForm
        (Form.new [.new "on" [.orDefault (.bool true), .boolean .plain]]).strictly])]
    (some [.oneOf ⟨[.int 1, .null]⟩]) true]

/-- The description of the cases: under every name a chain. -/
def nestedCases : Value := .map
  [("text", .list
      [.map [("type", .string "IsString"), ("params", .map [("minLength", .int 1)])],
        .map [("type", .string "MatchesRegex"), ("params", .map [("regexp", .string "")])]]),
    ("flag", .list [.map [("type", .string "IsStringMap"), ("params", .map [("form", .map
      [("strict", .bool true), ("fields", .list [.map [("name", .string "on"),
        ("validators", .list
          [.map [("type", .string "IsOptional"), ("params", .map [("default", .bool true)])],
            .map [("type", .string "IsBoolean"),
              ("params", .map [("convert", .bool false)])]])]])])])]])]

/-- The description of the rule. -/
def nestedDescription : RuleDescription :=
  ⟨"IsList", [("validators", .list [.map [("type", .string "Switch"), ("params", .map
    [("key", .string "kind"), ("cases", nestedCases),
      ("default", .list [.map [("type", .string "IsIn"),
        ("params", .map [("choices", .list [.int 1, .null])])]]),
      ("exhaustive", .bool true)])]])]⟩

/-- The sample has this description. -/
lemma describe_nested : nestedSample.describe .builtin = .ok nestedDescription := rfl

/-- The empty pattern is compiled. -/
lemma blank_compiled : blankPattern.Compiled := rfl

/-- No map in the sample repeats a key, and its pattern is compiled. -/
lemma nested_wellFormed : ∀ s ∈ nestedSample.parts, s.WellFormed := by
  simp [nestedSample, Rule.parts, chainParts, caseParts, fallbackParts, innerParts, Form.new,
    Form.strictly, Form.parts, Field.new, Field.allParts, Rule.ofForm, Rule.orDefault,
    OptionalRule.withDefault, Rule.WellFormed, Form.WellFormed, Value.WellFormed, Dict.Distinct,
    Dict.keys, blank_compiled]

/-- Nothing in the sample is lost. -/
lemma nested_resolvable : ∀ s ∈ nestedSample.parts, s.Resolvable := by
  simp [nestedSample, Rule.parts, chainParts, caseParts, fallbackParts, innerParts, Form.new,
    Form.strictly, Form.parts, Field.new, Field.allParts, Rule.ofForm, Rule.orDefault,
    OptionalRule.withDefault, Rule.Resolvable, LengthFits]

/-- The description of a rule in which others nest, one with the empty pattern, resolves to a rule
that does the same. -/
theorem nested_resolve_describe :
    PatternEngine.Lawful ∧ (∀ s ∈ nestedSample.parts, s.WellFormed) ∧
      (∀ s ∈ nestedSample.parts, s.Resolvable) ∧
      nestedSample.describe .builtin = .ok nestedDescription ∧
        ∃ s, Registry.builtin.resolve nestedDescription = .ok s ∧
          ∀ values context v, s.check values context v = nestedSample.check values context v :=
  ⟨standardEngine_lawful, nested_wellFormed, nested_resolvable, describe_nested,
    resolve_describe standardEngine_lawful nested_wellFormed nested_resolvable describe_nested⟩

/-- A rule for maps without keys, with an empty message. -/
def blankMessage : Rule := .ofForm { (Form.new []).strictly with errorMsg := some "" }

/-- The description of the rule. -/
def blankMessageDescription : RuleDescription :=
  ⟨"IsStringMap", [("form", .map [("strict", .bool true), ("errorMsg", .string ""),
    ("fields", .list [])])]⟩

/-- A rule for texts of more characters than integers of 64 bits with a sign count. -/
def longText : TextRule := ⟨some 0x8000000000000000, none⟩

/-- The length is written as a float, which is too large to be read as an integer. -/
lemma long_not_resolved : ∃ d, (Rule.text longText).describe .builtin = .ok d ∧
    ∀ s, Registry.builtin.resolve d ≠ .ok s := by
  have hlost : (writeParameters longText).toOption.any (fun params =>
      (readParameters "IsString" Builtin.textParams params :
        Except SchemaError TextRule).toOption.isNone) = true := by decide +kernel
  cases hparams : writeParameters longText with
  | error e =>
    rw [hparams] at hlost
    cases hlost
  | ok params =>
    rw [hparams] at hlost
    have hdescribe : (Rule.text longText).describe .builtin =
        (writeParameters longText).map (RuleDescription.mk "IsString") := rfl
    refine ⟨⟨"IsString", params⟩, by rw [hdescribe, hparams]; rfl, fun s hs => ?_⟩
    rw [resolve_eq (d := ⟨"IsString", params⟩) rfl] at hs
    obtain ⟨r, hr, -⟩ := map_eq_ok_iff.mp hs
    simp [Except.toOption, hr] at hlost

/-- **An empty default, a length beyond the integers of 64 bits with a sign and an empty message are
lost.** The first rule gives the empty text for null, and what its description resolves to gives
null. The description of the second one does not resolve. The third one rejects a map without a
message, and what its description resolves to has the common one. -/
theorem not_resolve_describe :
    ((Rule.orDefault (.string "")).describe .builtin =
        .ok ⟨"IsOptional", [("default", .string "")]⟩ ∧
      Registry.builtin.resolve ⟨"IsOptional", [("default", .string "")]⟩ = .ok .orNull ∧
      (Rule.orDefault (.string "")).check [] none .null = .ok (.string "") ∧
      Rule.orNull.check [] none .null = .ok .null) ∧
    (∃ d, (Rule.text longText).describe .builtin = .ok d ∧
      ∀ s, Registry.builtin.resolve d ≠ .ok s) ∧
    blankMessage.describe .builtin = .ok blankMessageDescription ∧
      Registry.builtin.resolve blankMessageDescription = .ok (.ofForm (Form.new []).strictly) ∧
      ∃ errors, blankMessage.check [] none (.map [("x", .null)]) = .error (.form ⟨"", errors⟩) ∧
        (Rule.ofForm (Form.new []).strictly).check [] none (.map [("x", .null)]) =
          .error (.form ⟨FormError.defaultMessage, errors⟩) := by
  refine ⟨⟨rfl, ?_, rfl, rfl⟩, long_not_resolved, rfl, ?_, _, rfl, rfl⟩
  · exact resolve_eq (d := ⟨"IsOptional", [("default", .string "")]⟩) rfl
  · exact resolve_eq (d := blankMessageDescription) rfl

end Samples

end Rule

end Intake
