import Intake.Proofs.Schema.Descriptions
import Intake.Proofs.Schema.Samples

set_option autoImplicit false

/-!
# Records come back from what they are written as

A record that was made of a value is written as a value that makes the same record, whatever fields
were missing in the first value and took the defaults of their types.

## Main definitions

* `RecordType` — the types of records, with their carriers and outlines.

## Main results

* `RecordType.coerce_restore_of_coerce` — a record that was coerced is restored to a value that is
  coerced to the same record.
-/

namespace Intake

/-! ### Parameters -/

namespace Parameter

variable {β : Type} [DataCodec β] {R : Reading β}

/-- A parameter that may be missing is lossless when its elements are. -/
lemma lossless_option {hgiven : R.KeepsGiven} {name key : String} {target : Target}
    {ht : target = R.target ∨ target = .optional R.target} {leftOut : Option β → Bool}
    {hleft : ∀ x, leftOut x = true → x = none} (h : Intake.Lossless β R.target R.convert) :
    (option R hgiven name key target ht leftOut hleft).Lossless :=
  .of_none (.option ht h) rfl fun b hb => ⟨rfl, hleft b hb⟩

/-- A list that may be missing is lossless when its items are. -/
lemma lossless_listOrElse {hconvert : R.convert = false} {name : String} {leftOut : List β → Bool}
    {hleft : ∀ bs, leftOut bs = true → bs = []} (h : Intake.Lossless β R.target false) :
    (listOrElse R hconvert name leftOut hleft).Lossless :=
  .of_value (v := .list []) (.list h _) trivial rfl rfl fun b hb => ⟨rfl, hleft b hb⟩

/-- A list with a default is lossless when its items are. -/
lemma lossless_listOrDefault {hconvert : R.convert = false} {name : String}
    (h : Intake.Lossless β R.target false) : (listOrDefault R hconvert name).Lossless :=
  .of_value (v := .list []) (.list h _) trivial rfl rfl

/-- A flag is lossless when no value but its fallback is left out. -/
lemma lossless_flag {name key : String} {default fallback : Bool} {leftOut : Bool → Bool}
    {hleft : ∀ b, leftOut b = true → b = default} (h : ∀ b, leftOut b = true → b = fallback) :
    (flag name key default fallback leftOut hleft).Lossless :=
  .of_value (v := .bool fallback) (.bool _) trivial rfl rfl fun b hb => ⟨rfl, h b hb⟩

/-- A flag that is always written is lossless. -/
lemma lossless_writtenFlag {name key : String} {default fallback : Bool} :
    (writtenFlag name key default fallback).Lossless :=
  lossless_flag fun _ hb => absurd hb Bool.false_ne_true

/-- A flag that is left out unless it is set is lossless. -/
lemma lossless_mark {name key : String} : (mark name key).Lossless :=
  lossless_flag fun b hb => by simpa using hb

end Parameter

open Parameter

/-- Maps of dynamic values are lossless. -/
lemma lossless_anyMap : Lossless (Dict Value) (.map .any) false := .dictionary (.any _) _

/-! ### Rules -/

/-- The outline of rules for text. -/
def TextRule.outline : Outline TextRule :=
  TextRule.schema.outline ⟨lossless_option (.length _), lossless_option (.length _), trivial⟩

/-- The outline of rules for integers. -/
def IntegerRule.outline : Outline IntegerRule :=
  IntegerRule.schema.outline
    ⟨lossless_writtenFlag, lossless_option (.int _), lossless_option (.int _), trivial⟩

/-- The outline of rules for floats. -/
def FloatRule.outline : Outline FloatRule :=
  FloatRule.schema.outline
    ⟨lossless_writtenFlag, lossless_option (.float _), lossless_option (.float _), trivial⟩

/-- The outline of rules for booleans. -/
def BooleanRule.outline : Outline BooleanRule :=
  BooleanRule.schema.outline ⟨lossless_writtenFlag, trivial⟩

/-- The outline of rules for bytes. -/
def BytesRule.outline : Outline BytesRule :=
  BytesRule.schema.outline
    ⟨.of_value (v := .string ByteEncoding.base64.name) (.choice rfl (fun _ => rfl) (fun _ => rfl) _)
      trivial rfl rfl,
      lossless_option (.length _), lossless_option (.length _), trivial⟩

/-- The outline of rules for hexadecimal text. -/
def HexRule.outline : Outline HexRule :=
  HexRule.schema.outline
    ⟨lossless_writtenFlag, lossless_writtenFlag, lossless_option (.length _),
      lossless_option (.length _), trivial⟩

/-- The outline of rules for universal identifiers. -/
def UuidRule.outline : Outline UuidRule :=
  UuidRule.schema.outline ⟨lossless_writtenFlag, trivial⟩

/-- The outline of rules for times. -/
def TimeRule.outline : Outline TimeRule :=
  TimeRule.schema.outline
    ⟨.of_value (v := .string TimeFormat.internet.name) (.choice rfl (fun _ => rfl) (fun _ => rfl) _)
      trivial rfl rfl,
      lossless_writtenFlag, lossless_writtenFlag, trivial⟩

/-- The layout of the parameters of rules with a pattern, of which the record compiles nothing. -/
def PatternRule.Parameters.textLayout :
    Layout PatternRule.Parameters (String → PatternRule.Parameters) :=
  .field (.ofShape (FieldShape.new "regexp" .string).require "" (.of_required (.text _) rfl))
    PatternRule.Parameters.regexp .done

/-- The outline of the parameters of rules with a pattern. -/
def PatternRule.Parameters.outline : Outline PatternRule.Parameters where
  make := PatternRule.Parameters.mk
  layout := PatternRule.Parameters.textLayout
  outlines := .of_fields fun _ => ⟨rfl, trivial⟩
  lossless := ⟨lossless_ofShape, trivial⟩

/-- The outline of rules for choices. -/
def OneOfRule.outline : Outline OneOfRule :=
  OneOfRule.schema.outline ⟨.of_required (.list (.any _) _) rfl, trivial⟩

/-- The outline of rules against values. -/
def NoneOfRule.outline : Outline NoneOfRule :=
  NoneOfRule.schema.outline ⟨lossless_listOrDefault (.any _), trivial⟩

/-- The outline of rules for optional values. -/
def OptionalRule.outline : Outline OptionalRule :=
  OptionalRule.schema.outline ⟨lossless_option (.any _), trivial⟩

/-- The outline of rules for missing values. -/
def NilRule.outline : Outline NilRule :=
  NilRule.schema.outline ⟨lossless_writtenFlag, trivial⟩

/-! ### Descriptions and examples -/

/-- The outline of examples of fields. -/
def FieldExample.outline : Outline FieldExample :=
  FieldExample.schema.outline
    ⟨.of_value (v := .null) (.any _) trivial rfl rfl, lossless_writtenFlag, trivial⟩

/-- The outline of examples of forms. -/
def FormExample.outline : Outline FormExample :=
  FormExample.schema.outline
    ⟨.of_value (v := .map []) lossless_anyMap Value.wellFormed_empty rfl rfl,
      lossless_writtenFlag, trivial⟩

/-- The outline of descriptions of rules. -/
def RuleDescription.outline : Outline RuleDescription :=
  RuleDescription.schema.outline
    ⟨.of_required (.text _) rfl,
      .of_value (v := .map []) lossless_anyMap Value.wellFormed_empty rfl rfl
        fun _ hb => ⟨rfl, List.isEmpty_iff.mp hb⟩, trivial⟩

/-- Chains of descriptions are lossless. -/
lemma lossless_chain : Lossless (List RuleDescription) RuleDescription.chainTarget false :=
  .list (RuleDescription.outline.lossless_record _) _

/-- The outline of descriptions of fields. -/
def FieldDescription.outline : Outline FieldDescription :=
  FieldDescription.schema.outline
    ⟨.of_required (.text _) rfl,
      lossless_listOrDefault (RuleDescription.outline.lossless_record _),
      lossless_listOrElse (FieldExample.outline.lossless_record _), trivial⟩

/-- The outline of descriptions of forms. -/
def FormDescription.outline : Outline FormDescription :=
  FormDescription.schema.outline
    ⟨lossless_mark, lossless_mark, lossless_option (.text _), lossless_option (.text _),
      lossless_listOrElse (FormExample.outline.lossless_record _),
      .of_value (v := .list []) (.list (FieldDescription.outline.lossless_record _) _) trivial rfl
        rfl, trivial⟩

/-- The outline of the parameters of rules for lists. -/
def ListParameters.outline : Outline ListParameters :=
  ListParameters.schema.outline
    ⟨lossless_listOrElse (RuleDescription.outline.lossless_record _), trivial⟩

/-- The outline of the parameters of rules for maps. -/
def MapParameters.outline : Outline MapParameters :=
  MapParameters.schema.outline
    ⟨lossless_option (FormDescription.outline.lossless_record _), trivial⟩

/-- The outline of the parameters of rules with options. -/
def OrParameters.outline : Outline OrParameters :=
  OrParameters.schema.outline ⟨lossless_listOrDefault lossless_chain, trivial⟩

/-- The outline of the parameters of rules with cases. -/
def SwitchParameters.outline : Outline SwitchParameters :=
  SwitchParameters.schema.outline
    ⟨.of_required (.text _) rfl,
      .of_value (v := .map []) (.dictionary lossless_chain _) Value.wellFormed_empty rfl rfl,
      lossless_option lossless_chain, lossless_writtenFlag, trivial⟩

/-! ### All types of records -/

/-- The types of records: parameters of rules, descriptions with their examples, and samples. -/
inductive RecordType where
  | text | integer | float | boolean | bytes | hex | uuid | time | pattern | oneOf | noneOf
  | optional | nil | list | map | or | switch
  | rule | field | form | fieldExample | formExample
  | address | customer | zap | embedded | complex | item
  deriving DecidableEq, Repr

namespace RecordType

/-- The records of a type. -/
def Carrier : RecordType → Type
  | text => TextRule
  | integer => IntegerRule
  | float => FloatRule
  | boolean => BooleanRule
  | bytes => BytesRule
  | hex => HexRule
  | uuid => UuidRule
  | time => TimeRule
  | pattern => PatternRule.Parameters
  | oneOf => OneOfRule
  | noneOf => NoneOfRule
  | optional => OptionalRule
  | nil => NilRule
  | list => ListParameters
  | map => MapParameters
  | or => OrParameters
  | switch => SwitchParameters
  | rule => RuleDescription
  | field => FieldDescription
  | form => FormDescription
  | fieldExample => FieldExample
  | formExample => FormExample
  | address => Address
  | customer => Customer
  | zap => Zap
  | embedded => Embedded
  | complex => Complex
  | item => Item

/-- The shape and the codec of a type of records. -/
instance record : (T : RecordType) → Record T.Carrier
  | text => inferInstanceAs (Record TextRule)
  | integer => inferInstanceAs (Record IntegerRule)
  | float => inferInstanceAs (Record FloatRule)
  | boolean => inferInstanceAs (Record BooleanRule)
  | bytes => inferInstanceAs (Record BytesRule)
  | hex => inferInstanceAs (Record HexRule)
  | uuid => inferInstanceAs (Record UuidRule)
  | time => inferInstanceAs (Record TimeRule)
  | pattern => inferInstanceAs (Record PatternRule.Parameters)
  | oneOf => inferInstanceAs (Record OneOfRule)
  | noneOf => inferInstanceAs (Record NoneOfRule)
  | optional => inferInstanceAs (Record OptionalRule)
  | nil => inferInstanceAs (Record NilRule)
  | list => inferInstanceAs (Record ListParameters)
  | map => inferInstanceAs (Record MapParameters)
  | or => inferInstanceAs (Record OrParameters)
  | switch => inferInstanceAs (Record SwitchParameters)
  | rule => inferInstanceAs (Record RuleDescription)
  | field => inferInstanceAs (Record FieldDescription)
  | form => inferInstanceAs (Record FormDescription)
  | fieldExample => inferInstanceAs (Record FieldExample)
  | formExample => inferInstanceAs (Record FormExample)
  | address => inferInstanceAs (Record Address)
  | customer => inferInstanceAs (Record Customer)
  | zap => inferInstanceAs (Record Zap)
  | embedded => inferInstanceAs (Record Embedded)
  | complex => inferInstanceAs (Record Complex)
  | item => inferInstanceAs (Record Item)

/-- The outline of a type of records. -/
def outline : (T : RecordType) → Outline T.Carrier
  | text => TextRule.outline
  | integer => IntegerRule.outline
  | float => FloatRule.outline
  | boolean => BooleanRule.outline
  | bytes => BytesRule.outline
  | hex => HexRule.outline
  | uuid => UuidRule.outline
  | time => TimeRule.outline
  | pattern => PatternRule.Parameters.outline
  | oneOf => OneOfRule.outline
  | noneOf => NoneOfRule.outline
  | optional => OptionalRule.outline
  | nil => NilRule.outline
  | list => ListParameters.outline
  | map => MapParameters.outline
  | or => OrParameters.outline
  | switch => SwitchParameters.outline
  | rule => RuleDescription.outline
  | field => FieldDescription.outline
  | form => FormDescription.outline
  | fieldExample => FieldExample.outline
  | formExample => FormExample.outline
  | address => Address.outline
  | customer => Customer.outline
  | zap => Zap.outline
  | embedded => Embedded.outline
  | complex => Complex.outline
  | item => Item.outline

/-- **Coerced records come back.** Whatever value a record of any type was coerced from, the record
is restored to a value, and that value is coerced to the same record.

**Proof sketch.** A record follows a layout of lossless columns: each of them reads what it wrote,
be it the value that was given or the default that took its place. -/
theorem coerce_restore_of_coerce (T : RecordType) {source : Value} (hsource : source.WellFormed)
    {a : T.Carrier} (h : (Record.coerce source : Except CoerceError T.Carrier) = .ok a) :
    ∃ w, Record.restore a = .ok w ∧
      (Record.coerce w : Except CoerceError T.Carrier) = .ok a :=
  T.outline.exists_restore hsource h

/-- The sample map repeats no key. -/
lemma complexSource_wellFormed : complexSource.WellFormed := by decide

/-- The record that uses every feature comes back, with missing fields, text for bytes and nulls in
what it was coerced from. -/
theorem complex_coerce_restore_of_coerce :
    ∃ a : complex.Carrier, (Record.coerce complexSource : Except CoerceError _) = .ok a ∧
      ∃ w, Record.restore a = .ok w ∧
        (Record.coerce w : Except CoerceError complex.Carrier) = .ok a :=
  ⟨_, rfl, coerce_restore_of_coerce complex complexSource_wellFormed
    (show (Record.coerce complexSource : Except CoerceError complex.Carrier) = _ from rfl)⟩

end RecordType

end Intake
