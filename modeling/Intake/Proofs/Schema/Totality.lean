import Intake.Proofs.Schema.Descriptions

set_option autoImplicit false

/-!
# What a form passes becomes a record

The form of a schema decides alone. Whatever it passes is coerced by the shape of the record and
read by its codec, at any depth, so the only failures of parameters are those that the form reports.

## Main definitions

* `Reading.Total`, `Parameter.Total`, `Schema.Total` — what the rules pass becomes an element or a
  record.

## Main results

* `Schema.Total.exists_read?` — what the form of a total schema passes is read.
* `Schema.Total.exists_coerce` — what it leaves becomes a record.
* `FormDescription.total`, `SwitchParameters.total`, … — the schemas of descriptions and of the
  parameters of rules are total.
-/

namespace Intake

/-! ### Readings -/

section Reading

variable {β : Type} [DataCodec β]

/-- Every well-formed value that the rules pass becomes an element. -/
def Reading.Total (R : Reading β) : Prop :=
  ∀ v w, v.WellFormed → Rule.checkNested R.chain [] none v = .ok w → ∃ b, R.accept? v = some b

/-- A reading of a single rule is total when what this rule passes becomes an element. -/
lemma Reading.total_of_rule {R : Reading β} {r : Rule} (hchain : R.chain = [r])
    (h : ∀ v w, v.WellFormed → r.check [] none v = .ok w → ∃ b, R.accept? v = some b) :
    R.Total := by
  intro v w hv hw
  rw [hchain, checkNested_singleton] at hw
  exact h v w hv hw

/-- Lists are total when their items are. -/
lemma Reading.list_total {R : Reading β} (hR : R.Total) (hconvert : R.convert = false) :
    (R.list hconvert).Total := by
  refine total_of_rule rfl fun v w hv hw => ?_
  obtain ⟨items, ws, rfl, rfl, hitems⟩ := check_list_eq_ok_iff.mp hw
  have haccept : ∀ x ∈ items, ∃ b, acceptAs? β R.chain R.target false x = some b := by
    intro x hx
    obtain ⟨y, -, hy⟩ := exists_of_mem_forall₂ hitems hx
    exact hconvert ▸ hR x y (Value.wellFormed_list_iff.mp hv x hx) hy
  obtain ⟨bs, hbs⟩ := exists_forall₂ haccept
  exact ⟨bs, acceptAs?_list_eq_some_iff.mpr ⟨items, rfl, hbs⟩⟩

/-- Dictionaries are total when their elements are. -/
lemma Reading.dictionary_total {R : Reading β} (hR : R.Total) {r : Rule} (hchain : R.chain = [r])
    (hconvert : R.convert = false) (hrule : ∀ v w, r.check [] none v = .ok w → w ≠ .null) :
    (R.dictionary r hchain hconvert hrule).Total := by
  have hclosed : r.Closed := R.closed r (hchain ▸ List.mem_singleton_self r)
  refine total_of_rule rfl fun v w hv hw => ?_
  obtain ⟨entries, checked, rfl, rfl, hchecked⟩ :=
    (check_ofForm_eq_ok_iff (closed_wildcard hclosed)).mp hw
  obtain ⟨hdistinct, hvalues⟩ := Value.wellFormed_map_iff.mp hv
  have hentries := (validate_wildcard_eq_ok_iff hclosed hrule hdistinct).mp hchecked
  have haccept : ∀ e ∈ entries, ∃ b : String × β,
      b.1 = e.1 ∧ acceptAs? β [r] R.target false e.2 = some b.2 := by
    intro e he
    obtain ⟨y, -, -, hy⟩ := exists_of_mem_forall₂ hentries he
    rw [← checkNested_singleton] at hy
    obtain ⟨b, hb⟩ := hR e.2 y.2 (hvalues e he) (hchain ▸ hy)
    exact ⟨(e.1, b), rfl, hchain ▸ hconvert ▸ hb⟩
  obtain ⟨bs, hbs⟩ := exists_forall₂ haccept
  exact ⟨bs, (acceptAs?_dictionary_eq_some_iff hclosed hrule hv).mpr ⟨entries, rfl, hbs⟩⟩

end Reading

namespace Reading

/-- Flags are total. -/
lemma flag_total : flag.Total := by
  refine total_of_rule rfl fun v w _ hw => ?_
  cases v with
  | bool b => exact ⟨b, acceptAs?_flag_eq_some_iff.mpr rfl⟩
  | null | int | float | string | bytes | list | map => cases hw

/-- Integers are total. -/
lemma integer_total : integer.Total := by
  refine total_of_rule rfl fun v w _ hw => ?_
  obtain ⟨n, hn, -⟩ := check_integer_eq_ok_iff.mp hw
  exact ⟨n, acceptAs?_integer_eq_some_iff.mpr hn⟩

/-- Lengths are total: an integer that is not negative is a length. -/
lemma length_total : length.Total := by
  refine total_of_rule rfl fun v w _ hw => ?_
  obtain ⟨n, hn, hleast, -⟩ := check_integer_eq_ok_iff.mp hw
  exact ⟨_, acceptAs?_length_eq_some_iff.mpr ⟨n, hn, hleast 0 rfl, rfl⟩⟩

/-- Floats are total. -/
lemma float_total : float.Total := by
  refine total_of_rule rfl fun v w _ hw => ?_
  obtain ⟨x, hx, -⟩ := check_float_eq_ok_iff.mp hw
  exact ⟨x, acceptAs?_float_eq_some_iff.mpr hx⟩

/-- Texts are total. -/
lemma text_total : text.Total := by
  refine total_of_rule rfl fun v w _ hw => ?_
  cases v with
  | string s => exact ⟨s, acceptAs?_text_eq_some_iff.mpr rfl⟩
  | null | bool | int | float | bytes | list | map => cases hw

/-- Texts of patterns are total. -/
lemma regexp_total [PatternEngine] : regexp.Total := by
  intro v w _ hw
  cases v with
  | string s =>
    have hw : Rule.checkNested [.anyText, Builtin.isPattern] [] none (.string s) = .ok w := hw
    rw [checkNested_regexp] at hw
    cases hpattern : Pattern.ofText s with
    | error error =>
      rw [hpattern] at hw
      cases hw
    | ok p => exact ⟨s, acceptAs?_regexp_eq_some_iff.mpr ⟨rfl, p, hpattern⟩⟩
  | null | bool | int | float | bytes | list | map => cases hw

/-- Only a text equals a text. -/
lemma eq_string_of_equal {s : String} {v : Value} (h : (Value.string s).equal v = true) :
    v = .string s := by
  cases v with
  | string t =>
    simp only [Value.equal, beq_iff_eq] at h
    rw [h]
  | null | bool | int | float | bytes | list | map => cases h

/-- Names are total when each of them names something. -/
lemma named_total {β : Type} [DataCodec β] {names : List String} {name : β → String}
    {hdatum : ∀ b, toDatum b = .unitVariant (name b)}
    {haccept : ∀ b, acceptAs? β [.oneOf ⟨names.map .string⟩] .string false (.string (name b)) =
      some b} (hnames : ∀ s ∈ names, ∃ b, name b = s) :
    (Reading.named names name hdatum haccept).Total := by
  refine total_of_rule rfl fun v w _ hw => ?_
  rw [Rule.check, OneOfRule.check] at hw
  split_ifs at hw with hany
  obtain ⟨choice, hchoice, hequal⟩ := List.any_eq_true.mp hany
  obtain ⟨s, hs, rfl⟩ := List.mem_map.mp hchoice
  obtain ⟨b, rfl⟩ := hnames s hs
  exact ⟨b, eq_string_of_equal hequal ▸ haccept b⟩

/-- Dynamic values are total. -/
lemma dynamic_total {chain : List Rule} {hchain : ∀ v, Rule.checkNested chain [] none v = .ok v}
    {hclosed : ∀ r ∈ chain, r.Closed} {hkeeps : ∀ r ∈ chain, r.KeepsPresence} :
    (Reading.dynamic chain hchain hclosed hkeeps).Total := fun v _ hv _ =>
  ⟨v, acceptAs?_eq_some_iff.mpr ⟨v, hchain v, readAs?_any hv _⟩⟩

/-- Maps of any content are total. -/
lemma anyMap_total : anyMap.Total := by
  refine total_of_rule rfl fun v w hv hw => ?_
  obtain ⟨-, entries, rfl⟩ := check_anyMap_eq_ok hw
  exact ⟨entries, acceptAs?_anyMap (Value.wellFormed_map_iff.mp hv).2⟩

end Reading

/-! ### Parameters -/

namespace Parameter

/-- A chain of which something is left passes what its first rule passes on. -/
lemma exists_checkNested {γ : Type} {c : Column γ} {r : Rule} {rest : List Rule}
    (hc : c.chain = r :: rest)
    (hrest : ∀ r ∈ rest, r.KeepsPresence) {v w : Value} (hr : r.check [] none v = .ok w)
    (hw : w ≠ .null) {s : Option Value} (hs : c.settled? v = some s) :
    ∃ x, Rule.checkNested rest [] none w = .ok x := by
  rw [c.settled?_of_first hc hrest hr hw, Option.map_eq_some_iff] at hs
  obtain ⟨x, hx, -⟩ := hs
  exact ⟨x, toOption_eq_some_iff.mp hx⟩

variable {β : Type} [DataCodec β]

/-- Every well-formed value of which the rules of a parameter leave something becomes
an element. -/
def Total (p : Parameter β) : Prop :=
  ∀ v s, v.WellFormed → p.toColumn.settled? v = some s → ∃ b, p.toColumn.read? v = some b

variable {R : Reading β} {hgiven : R.KeepsGiven} {name key : String} {required : Bool}
  {fallback : β}

/-- A parameter with a well-formed default is total. -/
lemma orDefault_total (hR : R.Total) {d : Value} {hd : OptionalRule.isMissing d = false}
    {hdefault : R.KeepsDefault d}
    {leftOut : β → Bool} {hleft : ∀ x, leftOut x = true → R.accept? d = some x}
    (hwf : d.WellFormed) :
    (orDefault R hgiven name key required fallback hd hdefault leftOut hleft).Total := by
  intro v s hv hs
  rw [read?_orDefault]
  obtain ⟨x, hx⟩ :=
    exists_checkNested rfl R.keeps (check_orDefault hd v) (orIfMissing_ne_null hd v) hs
  rw [Value.orIfMissing]
  split_ifs at hx ⊢ with hmissing
  · exact hR d x hwf hx
  · exact hR v x hv hx

/-- A value that is not missing passes the chain behind the rule for missing values. -/
lemma exists_checkNested_orNull {γ : Type} {c : Column γ} (hc : c.chain = .orNull :: R.chain)
    {v : Value} (hmissing : ¬OptionalRule.isMissing v = true) {s : Option Value}
    (hs : c.settled? v = some s) :
    ∃ x, Rule.checkNested R.chain [] none v = .ok x := by
  have hcheck := check_orNull v
  rw [if_neg hmissing] at hcheck
  exact exists_checkNested hc R.keeps hcheck (ne_null_of_not_missing (by simpa using hmissing)) hs

/-- A parameter with a fallback is total. -/
lemma orElse_total (hR : R.Total) {hfallback : ofDatum? (toDatum fallback) = some fallback}
    {hsound : ∀ n, R.Sound n fallback ∧ OptionalRule.isMissing (R.value fallback) = false}
    {leftOut : β → Bool} {hleft : ∀ x, leftOut x = true → x = fallback} :
    (orElse R hgiven name key fallback hfallback hsound leftOut hleft).Total := by
  intro v s hv hs
  rw [read?_orElse]
  split_ifs with hmissing
  · exact ⟨fallback, rfl⟩
  · obtain ⟨x, hx⟩ := exists_checkNested_orNull rfl hmissing hs
    exact hR v x hv hx

/-- A parameter that may be missing is total. -/
lemma option_total (hR : R.Total) {target : Target}
    {ht : target = R.target ∨ target = .optional R.target} {leftOut : Option β → Bool}
    {hleft : ∀ x, leftOut x = true → x = none} :
    (option R hgiven name key target ht leftOut hleft).Total := by
  intro v s hv hs
  rw [read?_option]
  split_ifs with hmissing
  · exact ⟨none, rfl⟩
  · obtain ⟨x, hx⟩ := exists_checkNested_orNull rfl hmissing hs
    obtain ⟨b, hb⟩ := hR v x hv hx
    exact ⟨some b, by rw [hb, Option.map_some]⟩

/-- A parameter that must be given is total. -/
lemma require_total (hR : R.Total) {hnull : ∀ v b, R.accept? v = some b → v ≠ .null} :
    (require R hnull name key required fallback).Total := by
  intro v s hv hs
  rw [read?_require]
  by_cases hne : v = .null
  · subst hne
    rw [Column.settled?_of_error _ rfl (r := .required) (e := .missing) rfl] at hs
    cases hs
  · obtain ⟨x, hx⟩ := exists_checkNested rfl R.keeps (check_required hne) hne hs
    exact hR v x hv hx

/-- A parameter whose first rule gives no null is total. -/
lemma plain_total (hR : R.Total) {r : Rule} {rest : List Rule} {hchain : R.chain = r :: rest}
    {hfirst : ∀ v w, r.check [] none v = .ok w → w ≠ .null} :
    (plain R hchain hfirst name key required fallback).Total := by
  intro v s hv hs
  have hread := R.read?_column hchain hfirst name key required fallback v
  refine hread ▸ ?_
  cases hw : r.check [] none v with
  | error e =>
    rw [Column.settled?_of_error _ hchain hw] at hs
    cases hs
  | ok w =>
    have hrest : ∀ r ∈ rest, r.KeepsPresence := fun r' hr' =>
      R.keeps r' (hchain ▸ List.mem_cons_of_mem r hr')
    obtain ⟨x, hx⟩ := exists_checkNested hchain hrest hw (hfirst v w hw) hs
    refine hR v x hv ?_
    rw [hchain, Rule.checkNested, hw]
    exact hx

/-- A parameter that no rule checks is total. -/
lemma raw_total (name : String) : (raw name).Total := by
  intro v s hv _
  by_cases hnull : v = .null
  · subst hnull
    exact ⟨.null, rfl⟩
  · refine ⟨v, ?_⟩
    rw [Column.read?, Column.settled?, if_pos (by rfl), Option.bind_some,
      present?_of_ne_null hnull]
    exact readAs?_any hv false

end Parameter

/-! ### Schemas -/

/-- Values that the rules of all parameters pass make a record. -/
lemma Layout.exists_read? {α γ : Type} {L : Layout α γ} (hL : L.Forall fun _ _ p _ => p.Total)
    (make : γ) {input : Dict Value} (hinput : (Value.map input).WellFormed)
    (hfields : ∀ f ∈ L.fields, ∃ s, f.outcome? input = some s) :
    ∃ a, L.read? make (fun key => (input.find? key).getD .null) = some a := by
  induction L with
  | done => exact ⟨_, rfl⟩
  | field p get rest ih =>
    obtain ⟨hp, hrest⟩ := hL
    obtain ⟨⟨s, hs⟩, hfields⟩ := List.forall_mem_cons.mp hfields
    have hwf : ((input.find? p.key).getD .null).WellFormed := by
      cases hv : input.find? p.key with
      | none => trivial
      | some v => exact (Value.wellFormed_map_iff.mp hinput).2 _ (Dict.mem_of_find? hv)
    have houtcome := p.toColumn.outcome?_field input
    rw [hs, Option.map_some, eq_comm, Option.map_eq_some_iff] at houtcome
    obtain ⟨t, ht, -⟩ := houtcome
    obtain ⟨b, hb⟩ := hp _ t hwf ht
    obtain ⟨a, ha⟩ := ih hrest (make b) hfields
    exact ⟨a, by rw [read?, hb, Option.bind_some, ha]⟩

namespace Schema

variable {α : Type} [Record α] {S : Schema α}

/-- Every parameter of a schema is total. -/
def Total (S : Schema α) : Prop := S.layout.Forall fun _ _ p _ => p.Total

/-- What the form of a total schema passes is read. -/
theorem Total.exists_read? (hS : S.Total) {input checked : Dict Value}
    (hinput : (Value.map input).WellFormed) (h : S.form.validate input = .ok checked) :
    ∃ a, S.read? input = some a := by
  obtain ⟨hkeys, houtcome, -⟩ := (Form.validate_eq_ok_iff S.fieldwise).mp h
  rw [read?, if_pos hkeys]
  exact Layout.exists_read? hS S.make hinput fun f hf =>
    houtcome f (S.agrees.fields_perm.mem_iff.mpr hf)

/-- **What the form of a total schema leaves becomes a record.** -/
theorem Total.exists_coerce (hS : S.Total) {input checked : Dict Value}
    (hinput : (Value.map input).WellFormed) (h : S.form.validate input = .ok checked) :
    ∃ a : α, (Record.coerce (.map checked) : Except CoerceError α) = .ok a := by
  obtain ⟨a, ha⟩ := hS.exists_read? hinput h
  obtain ⟨other, hother, hcoerce⟩ := S.read?_eq_some_iff.mp ha
  obtain rfl : checked = other := Except.ok.inj (h.symm.trans hother)
  exact ⟨a, hcoerce⟩

/-- Records of a total schema are total. -/
lemma Total.reading (hS : S.Total) : (Reading.ofSchema S).Total := by
  refine Reading.total_of_rule rfl fun v w hv hw => ?_
  obtain ⟨entries, checked, rfl, rfl, hchecked⟩ := (check_ofForm_eq_ok_iff S.closed).mp hw
  obtain ⟨a, ha⟩ := hS.exists_read? hv hchecked
  exact ⟨a, S.acceptAs?_eq_some_iff.mpr ⟨entries, rfl, ha⟩⟩

end Schema

/-! ### Plain rules -/

namespace Parameter

/-- Flags are total parameters. -/
lemma flag_total {name key : String} {default fallback : Bool} {leftOut : Bool → Bool}
    {hleft : ∀ b, leftOut b = true → b = default} :
    (flag name key default fallback leftOut hleft).Total :=
  orDefault_total Reading.flag_total trivial

/-- Lengths are total parameters. -/
lemma length_total {name key : String} : (length name key).Total :=
  option_total Reading.length_total

/-- Integers are total parameters. -/
lemma integer_total {name : String} : (integer name).Total := option_total Reading.integer_total

/-- Floats are total parameters. -/
lemma float_total {name : String} : (float name).Total := option_total Reading.float_total

/-- A list that may be missing is a total parameter. -/
lemma listOrElse_total {β : Type} [DataCodec β] {R : Reading β} (hR : R.Total)
    {h : R.convert = false} {name : String} {leftOut : List β → Bool}
    {hleft : ∀ bs, leftOut bs = true → bs = []} :
    (listOrElse R h name leftOut hleft).Total :=
  orElse_total (Reading.list_total hR h)

/-- A list with a default is a total parameter. -/
lemma listOrDefault_total {β : Type} [DataCodec β] {R : Reading β} (hR : R.Total)
    {h : R.convert = false} {name : String} : (listOrDefault R h name).Total :=
  orDefault_total (Reading.list_total hR h) trivial

/-- Encodings are total parameters. -/
lemma encoding_total : encoding.Total :=
  orDefault_total (Reading.named_total fun s hs => by
    obtain ⟨e, -, he⟩ := List.mem_map.mp hs
    exact ⟨e, he⟩) trivial

/-- Formats are total parameters. -/
lemma format_total : format.Total :=
  orDefault_total (Reading.named_total fun s hs => by
    obtain ⟨f, -, hf⟩ := List.mem_map.mp hs
    exact ⟨f, hf⟩) trivial

end Parameter

/-- The schema of rules for text is total. -/
lemma TextRule.total : TextRule.schema.Total :=
  ⟨Parameter.length_total, Parameter.length_total, trivial⟩

/-- The schema of rules for integers is total. -/
lemma IntegerRule.total : IntegerRule.schema.Total :=
  ⟨Parameter.flag_total, Parameter.integer_total, Parameter.integer_total, trivial⟩

/-- The schema of rules for floats is total. -/
lemma FloatRule.total : FloatRule.schema.Total :=
  ⟨Parameter.flag_total, Parameter.float_total, Parameter.float_total, trivial⟩

/-- The schema of rules for booleans is total. -/
lemma BooleanRule.total : BooleanRule.schema.Total := ⟨Parameter.flag_total, trivial⟩

/-- The schema of rules for bytes is total. -/
lemma BytesRule.total : BytesRule.schema.Total :=
  ⟨Parameter.encoding_total, Parameter.length_total, Parameter.length_total, trivial⟩

/-- The schema of rules for hexadecimal text is total. -/
lemma HexRule.total : HexRule.schema.Total :=
  ⟨Parameter.flag_total, Parameter.flag_total, Parameter.length_total, Parameter.length_total,
    trivial⟩

/-- The schema of rules for universal identifiers is total. -/
lemma UuidRule.total : UuidRule.schema.Total := ⟨Parameter.flag_total, trivial⟩

/-- The schema of rules for times is total. -/
lemma TimeRule.total : TimeRule.schema.Total :=
  ⟨Parameter.format_total, Parameter.flag_total, Parameter.flag_total, trivial⟩

/-- The schema of the parameters of rules with a pattern is total. -/
lemma PatternRule.Parameters.total [PatternEngine] : PatternRule.Parameters.schema.Total :=
  ⟨Parameter.orDefault_total Reading.regexp_total trivial, trivial⟩

/-- The schema of rules for choices is total. -/
lemma OneOfRule.total : OneOfRule.schema.Total :=
  ⟨Parameter.require_total (Reading.list_total Reading.dynamic_total rfl), trivial⟩

/-- The schema of rules against values is total. -/
lemma NoneOfRule.total : NoneOfRule.schema.Total :=
  ⟨Parameter.listOrDefault_total Reading.dynamic_total, trivial⟩

/-- The schema of rules for optional values is total. -/
lemma OptionalRule.total : OptionalRule.schema.Total :=
  ⟨Parameter.option_total Reading.dynamic_total, trivial⟩

/-- The schema of rules for missing values is total. -/
lemma NilRule.total : NilRule.schema.Total := ⟨Parameter.flag_total, trivial⟩

/-! ### Descriptions -/

/-- The schema of examples of fields is total. -/
lemma FieldExample.total : FieldExample.schema.Total :=
  ⟨Parameter.raw_total _, Parameter.flag_total, trivial⟩

/-- The schema of examples of forms is total. -/
lemma FormExample.total : FormExample.schema.Total :=
  ⟨Parameter.require_total Reading.anyMap_total, Parameter.flag_total, trivial⟩

/-- The schema of descriptions of rules is total. -/
lemma RuleDescription.total : RuleDescription.schema.Total :=
  ⟨Parameter.require_total Reading.text_total,
    Parameter.orDefault_total Reading.anyMap_total Value.wellFormed_empty, trivial⟩

/-- The schema of descriptions of fields is total. -/
lemma FieldDescription.total : FieldDescription.schema.Total :=
  ⟨Parameter.require_total Reading.text_total,
    Parameter.listOrDefault_total RuleDescription.total.reading,
    Parameter.listOrElse_total FieldExample.total.reading, trivial⟩

/-- **The schema of descriptions of forms is total.** -/
theorem FormDescription.total : FormDescription.schema.Total :=
  ⟨Parameter.flag_total, Parameter.flag_total, Parameter.option_total Reading.text_total,
    Parameter.option_total Reading.text_total,
    Parameter.listOrElse_total FormExample.total.reading,
    Parameter.require_total (Reading.list_total FieldDescription.total.reading rfl), trivial⟩

/-- Chains of descriptions are total. -/
lemma Reading.chainOfRules_total : Reading.chainOfRules.Total :=
  Reading.list_total RuleDescription.total.reading rfl

/-- The schema of the parameters of rules for lists is total. -/
lemma ListParameters.total : ListParameters.schema.Total :=
  ⟨Parameter.listOrElse_total RuleDescription.total.reading, trivial⟩

/-- The schema of the parameters of rules for maps is total. -/
lemma MapParameters.total : MapParameters.schema.Total :=
  ⟨Parameter.option_total FormDescription.total.reading, trivial⟩

/-- The schema of the parameters of rules with options is total. -/
lemma OrParameters.total : OrParameters.schema.Total :=
  ⟨Parameter.listOrDefault_total Reading.chainOfRules_total, trivial⟩

/-- Cases are a total parameter. -/
lemma Parameter.cases_total : Parameter.cases.Total := by
  rw [Parameter.cases]
  exact orDefault_total (Reading.dictionary_total Reading.chainOfRules_total rfl rfl
    check_chain_ne_null) Value.wellFormed_empty

/-- The schema of the parameters of rules with cases is total. -/
lemma SwitchParameters.total : SwitchParameters.schema.Total :=
  ⟨Parameter.plain_total Reading.text_total,
    Parameter.cases_total, Parameter.option_total Reading.chainOfRules_total,
    Parameter.flag_total, trivial⟩

end Intake
