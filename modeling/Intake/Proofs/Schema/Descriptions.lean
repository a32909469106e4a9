import Intake.Proofs.Schema.Dictionary
import Intake.Proofs.Schema.Plain

set_option autoImplicit false

/-!
# Schemas of descriptions

Descriptions and the parameters in which they lie follow layouts as plain rules do, except that
their parameters are descriptions again.

## Main definitions

* `Parameter.raw`, `Parameter.plain` — parameters without a policy for missing values.
* `RuleDescription.schema`, `FormDescription.schema`, … — the schemas of descriptions.
* `ListParameters.schema`, `SwitchParameters.schema`, … — the schemas of parameters in which
  descriptions lie.

## Main results

* `Reading.read?_column` — a parameter whose first rule gives no null reads what is given.
-/

namespace Intake

/-! ### Parameters without a policy -/

/-- Rules of which the first gives no null read what is given. -/
lemma Reading.read?_column {β : Type} [DataCodec β] (R : Reading β) {r : Rule}
    {rest : List Rule} (hchain : R.chain = r :: rest)
    (hfirst : ∀ v w, r.check [] none v = .ok w → w ≠ .null) (name key : String) (required : Bool)
    (fallback : β) (v : Value) :
    (Column.mk name key R.chain R.target required R.convert fallback).read? v = R.accept? v := by
  have hrest : ∀ r ∈ rest, r.KeepsPresence := fun r' hr' =>
    R.keeps r' (hchain ▸ List.mem_cons_of_mem r hr')
  cases hw : r.check [] none v with
  | error e =>
    rw [Column.read?_of_error _ hchain hw, Reading.accept?, acceptAs?, hchain, Rule.checkNested,
      hw]
    rfl
  | ok w =>
    rw [Column.read?_of_first _ hchain hrest hw (hfirst v w hw), Reading.accept?, acceptAs?,
      acceptAs?, hchain, Rule.checkNested, hw]

namespace Parameter

/-- Any well-formed value, which no rule checks. -/
def raw (name : String) : Parameter Value where
  name := name
  key := name
  chain := []
  target := .any
  required := false
  convert := false
  fallback := .null
  closed := closed_nil
  leftOut _ := false
  Sound _ v := v.WellFormed
  sound_of_read? := by
    intro n v b hv h
    by_cases hnull : v = .null
    · subst hnull
      obtain rfl : Value.null = b := Option.some.inj h
      trivial
    · rw [Column.read?_of_unchecked rfl hnull, readAs?_any hv.wellFormed] at h
      exact Option.some.inj h ▸ hv.wellFormed
  read?_of_sound := by
    intro n v hv
    refine ⟨v, v.toValue_toDatum hv, hv, ?_⟩
    rw [if_neg Bool.false_ne_true]
    by_cases hnull : v = .null
    · subst hnull
      rfl
    · exact (Column.read?_of_unchecked rfl hnull).trans (readAs?_any hv false)

/-- A parameter whose first rule gives no null, so that it must be given. -/
def plain {β : Type} [DataCodec β] (R : Reading β) {r : Rule} {rest : List Rule}
    (hchain : R.chain = r :: rest) (hfirst : ∀ v w, r.check [] none v = .ok w → w ≠ .null)
    (name key : String) (required : Bool) (fallback : β) : Parameter β :=
  have hread := R.read?_column hchain hfirst name key required fallback
  { name := name
    key := key
    chain := R.chain
    target := R.target
    required := required
    convert := R.convert
    fallback := fallback
    closed := R.closed
    leftOut := fun _ => false
    Sound := R.Sound
    sound_of_read? := fun hv h => R.sound_of_accept? hv ((hread _).symm.trans h)
    read?_of_sound := by
      intro n b hb
      obtain ⟨w, hw, hwf, haccept⟩ := R.accept?_of_sound hb
      exact ⟨w, hw, hwf, (hread _).trans haccept⟩ }

/-! ### Parameters of descriptions -/

/-- A text that must be given. -/
def text (name : String) : Parameter String :=
  .require .text (fun v s h => by rw [acceptAs?_text_eq_some_iff.mp h]; exact nofun)
    name name true ""

/-- A text that may be missing. -/
def label (name key : String) : Parameter (Option String) :=
  .option .text Reading.text_keepsGiven name key (.optional .string) (.inr rfl) Option.isNone
    (fun _ => Option.isNone_iff_eq_none.mp)

/-- A flag that is left out unless it is set. -/
def mark (name key : String) : Parameter Bool :=
  .flag name key false false (! ·) (fun _ h => by simpa using h)

end Parameter

/-! ### Descriptions -/

/-- The layout of examples of fields. -/
def FieldExample.layout : Layout FieldExample (Value → Bool → FieldExample) :=
  .field (.raw "value") FieldExample.value <|
    .field (.writtenFlag "invalid" "invalid" false false) FieldExample.invalid .done

/-- The schema of examples of fields. -/
def FieldExample.schema : Schema FieldExample where
  form := MetaForm.fieldExample
  make := FieldExample.mk
  layout := FieldExample.layout
  dataName := "FieldExample"
  agrees.recovers := fun _ _ => ⟨rfl, rfl, trivial⟩

/-- The input of an example, which must be given. -/
def Parameter.example : Parameter (Dict Value) :=
  .require .anyMap (fun _ _ => Reading.anyMap_solid.ne_null) "value" "value" false []

/-- The layout of examples of forms. -/
def FormExample.layout : Layout FormExample (Dict Value → Bool → FormExample) :=
  .field .example FormExample.value <|
    .field (.writtenFlag "invalid" "invalid" false false) FormExample.invalid .done

/-- The schema of examples of forms. -/
def FormExample.schema : Schema FormExample where
  form := MetaForm.formExample
  make := FormExample.mk
  layout := FormExample.layout
  dataName := "FormExample"
  agrees.recovers := fun _ _ => ⟨rfl, rfl, trivial⟩

/-- The parameters of a rule, which are left out if there are none. -/
def Parameter.params : Parameter (Dict Value) :=
  .orDefault .anyMap Reading.anyMap_solid.keepsGiven "params" "params" false [] (d := .map [])
    rfl (Reading.keepsDefault_of_accept? (acceptAs?_anyMap nofun)
      fun n => ⟨⟨⟨List.nodup_nil, trivial⟩, Nat.zero_le n⟩, rfl⟩) List.isEmpty
    (fun entries h => by
      rw [List.isEmpty_iff.mp h]
      exact acceptAs?_anyMap nofun)

/-- The layout of descriptions of rules. -/
def RuleDescription.layout : Layout RuleDescription (String → Dict Value → RuleDescription) :=
  .field (.text "type") RuleDescription.typeName <|
    .field .params RuleDescription.params .done

/-- The schema of descriptions of rules. -/
def RuleDescription.schema : Schema RuleDescription where
  form := MetaForm.rule
  make := RuleDescription.mk
  layout := RuleDescription.layout
  dataName := "ValidatorDescription"
  agrees.toDatum_eq r := congrArg
    (fun fields => Datum.record (fieldDatum "type" r.typeName :: fields)) (List.append_nil _).symm
  agrees.recovers := fun _ _ => ⟨rfl, rfl, trivial⟩

/-- Examples, which are left out if there are none. -/
def Parameter.examples {α : Type} [Record α] (S : Schema α) : Parameter (List α) :=
  .listOrElse (.ofSchema S) rfl "examples" List.isEmpty (fun _ => List.isEmpty_iff.mp)

/-- Descriptions of rules. -/
def Reading.rule : Reading RuleDescription := .ofSchema RuleDescription.schema

/-- The layout of descriptions of fields. -/
def FieldDescription.layout : Layout FieldDescription
    (String → List RuleDescription → List FieldExample → FieldDescription) :=
  .field (.text "name") FieldDescription.name <|
    .field (.listOrDefault .rule rfl "validators") FieldDescription.chain <|
    .field (.examples FieldExample.schema) FieldDescription.examples .done

/-- The schema of descriptions of fields. -/
def FieldDescription.schema : Schema FieldDescription where
  form := MetaForm.field
  make := FieldDescription.mk
  layout := FieldDescription.layout
  dataName := "FieldDescription"
  agrees.toDatum_eq d := congrArg
    (fun fields => Datum.record
      (fieldDatum "name" d.name :: fieldDatum "validators" d.chain :: fields))
    (List.append_nil _).symm
  agrees.recovers := fun _ _ _ => ⟨rfl, rfl, rfl, trivial⟩

/-- The fields of a form, which must be given. -/
def Parameter.fieldDescriptions : Parameter (List FieldDescription) :=
  .require (.list (.ofSchema FieldDescription.schema) rfl)
    (fun _ _ => (Reading.list_solid _ rfl).ne_null) "fields" "fields" false []

/-- The layout of descriptions of forms. -/
def FormDescription.layout : Layout FormDescription (Bool → Bool → Option String →
    Option String → List FormExample → List FieldDescription → FormDescription) :=
  .field (.mark "strict" "strict") FormDescription.strict <|
    .field (.mark "sanitize_keys" "sanitizeKeys") FormDescription.sanitizeKeys <|
    .field (.label "name" "name") FormDescription.name <|
    .field (.label "error_msg" "errorMsg") FormDescription.errorMsg <|
    .field (.examples FormExample.schema) FormDescription.examples <|
    .field .fieldDescriptions FormDescription.fields .done

/-- The schema of descriptions of forms. -/
def FormDescription.schema : Schema FormDescription where
  form := MetaForm.form
  make := FormDescription.mk
  layout := FormDescription.layout
  dataName := "FormDescription"
  agrees.fields_perm := (List.perm_append_singleton
    (Field.new "fields" [.required, MetaForm.listOf MetaForm.field]) MetaForm.form.fields.tail).symm
  agrees.toDatum_eq d := by
    simp only [FormDescription.layout, Layout.written, List.append_nil, ← List.append_assoc]
    rfl
  agrees.recovers := fun _ _ _ _ _ _ => ⟨rfl, rfl, rfl, rfl, rfl, rfl, trivial⟩

/-! ### Parameters in which descriptions lie -/

/-- Chains of descriptions. -/
def Reading.chainOfRules : Reading (List RuleDescription) := .list .rule rfl

/-- Chains are not null. -/
lemma check_chain_ne_null : ∀ v w, MetaForm.chain.check [] none v = .ok w → w ≠ .null := by
  intro v w h
  obtain ⟨items, ws, -, rfl, -⟩ := check_list_eq_ok_iff.mp h
  exact nofun

/-- The layout of the parameters of rules for lists. -/
def ListParameters.layout : Layout ListParameters (List RuleDescription → ListParameters) :=
  .field (.listOrElse .rule rfl "validators" (fun _ => false) nofun)
    ListParameters.chain .done

/-- The schema of the parameters of rules for lists. -/
def ListParameters.schema : Schema ListParameters where
  form := Builtin.listParams
  make := ListParameters.mk
  layout := ListParameters.layout
  dataName := "IsListParams"
  agrees.recovers := fun _ => ⟨rfl, trivial⟩

/-- The form of a rule for maps, if it has one. -/
def Parameter.innerForm : Parameter (Option FormDescription) :=
  .option (.ofSchema FormDescription.schema) (Reading.ofSchema_solid _).keepsGiven "form" "form"
    (.optional (.record (Record.shape FormDescription))) (.inr rfl) (fun _ => false) nofun

/-- The layout of the parameters of rules for maps. -/
def MapParameters.layout : Layout MapParameters (Option FormDescription → MapParameters) :=
  .field .innerForm MapParameters.form .done

/-- The schema of the parameters of rules for maps. -/
def MapParameters.schema : Schema MapParameters where
  form := Builtin.mapParams
  make := MapParameters.mk
  layout := MapParameters.layout
  dataName := "IsStringMapParams"
  agrees.recovers := fun _ => ⟨rfl, trivial⟩

/-- The layout of the parameters of rules with options. -/
def OrParameters.layout : Layout OrParameters (List (List RuleDescription) → OrParameters) :=
  .field (.listOrDefault .chainOfRules rfl "options") OrParameters.options .done

/-- The schema of the parameters of rules with options. -/
def OrParameters.schema : Schema OrParameters where
  form := Builtin.orParams
  make := OrParameters.mk
  layout := OrParameters.layout
  dataName := "OrParams"
  agrees.recovers := fun _ => ⟨rfl, trivial⟩

namespace Parameter

/-- The key that selects a case. -/
def switchKey : Parameter String :=
  .plain .text rfl
    (fun v w h hw => keepsPresence_anyText v w (by rintro rfl; cases h) h hw)
    "key" "key" true ""

/-- The cases of a switch. -/
def cases : Parameter (Dict (List RuleDescription)) :=
  have hclosed : MetaForm.chain.Closed := Reading.chainOfRules.closed _ (List.mem_singleton_self _)
  .orDefault (.dictionary .chainOfRules MetaForm.chain rfl rfl check_chain_ne_null)
    Reading.dictionary_keepsGiven "cases" "cases" false [] (d := .map []) rfl
    (Reading.keepsDefault_of_accept?
      ((acceptAs?_dictionary_eq_some_iff hclosed check_chain_ne_null (v := .map [])
        ⟨List.nodup_nil, trivial⟩).mpr ⟨[], rfl, .nil⟩)
      fun _ => ⟨⟨List.nodup_nil, nofun⟩, rfl⟩) (fun _ => false) nofun

/-- The chain for values without a case, if there is one. -/
def fallbackChain : Parameter (Option (List RuleDescription)) :=
  .option .chainOfRules (Reading.list_solid _ rfl).keepsGiven "default" "default"
    (.optional RuleDescription.chainTarget) (.inr rfl) (fun _ => false) nofun

end Parameter

/-- The layout of the parameters of rules with cases. -/
def SwitchParameters.layout : Layout SwitchParameters (String → Dict (List RuleDescription) →
    Option (List RuleDescription) → Bool → SwitchParameters) :=
  .field .switchKey SwitchParameters.key <|
    .field .cases SwitchParameters.cases <|
    .field .fallbackChain SwitchParameters.fallback <|
    .field (.writtenFlag "exhaustive" "exhaustive" true true) SwitchParameters.exhaustive .done

/-- The schema of the parameters of rules with cases. -/
def SwitchParameters.schema : Schema SwitchParameters where
  form := Builtin.switchParams
  make := SwitchParameters.mk
  layout := SwitchParameters.layout
  dataName := "SwitchParams"
  agrees.recovers := fun _ _ _ _ => ⟨rfl, rfl, rfl, rfl, trivial⟩

end Intake
