import Intake.Proofs.Schema.Scalar
import Intake.Schema.Builtin

set_option autoImplicit false

/-!
# Schemas of plain rules

## Main definitions

* `Parameter.flag`, `Parameter.length`, … — the parameters that plain rules share.
* `TextRule.layout`, `IntegerRule.layout`, … — the layouts of plain rules.
* `TextRule.schema`, `IntegerRule.schema`, … — the schemas of plain rules, which prove that the
  form, the shape and the codec of each follow its layout.
-/

namespace Intake

/-! ### Parameters -/

namespace Parameter

/-- A flag with a default, which is left out by some records. -/
def flag (name key : String) (default fallback : Bool) (leftOut : Bool → Bool)
    (hleft : ∀ b, leftOut b = true → b = default) : Parameter Bool :=
  .orDefault .flag Reading.flag_solid.keepsGiven name key false fallback (d := .bool default) rfl
    (Reading.keepsDefault_of_accept? (acceptAs?_flag_eq_some_iff.mpr rfl)
      fun _ => ⟨trivial, rfl⟩) leftOut
    fun b h => acceptAs?_flag_eq_some_iff.mpr (congrArg Value.bool (hleft b h).symm)

/-- A flag with a default, which is always written. -/
def writtenFlag (name key : String) (default fallback : Bool) : Parameter Bool :=
  .flag name key default fallback (fun _ => false) nofun

/-- An optional length. -/
def length (name key : String) : Parameter (Option UInt64) :=
  .option .length Reading.length_solid.keepsGiven name key .int (.inl rfl) (fun _ => false) nofun

/-- An optional integer. -/
def integer (name : String) : Parameter (Option Int64) :=
  .option .integer Reading.integer_solid.keepsGiven name name .int (.inl rfl) (fun _ => false) nofun

/-- An optional float. -/
def float (name : String) : Parameter (Option Binary64) :=
  .option .float Reading.float_solid.keepsGiven name name .float (.inl rfl) (fun _ => false) nofun

/-- An encoding of bytes. -/
def encoding : Parameter ByteEncoding :=
  .orDefault
    (.named (ByteEncoding.all.map ByteEncoding.name) ByteEncoding.name (fun _ => rfl)
      (by rintro (_ | _ | _) <;> rfl))
    (Reading.named_keepsGiven (by rintro (_ | _ | _) <;> rfl)) "encoding" "encoding" false
    BytesRule.plain.encoding (d := .string ByteEncoding.base64.name) rfl
    (Reading.keepsDefault_of_accept? (b := .base64) rfl fun _ => ⟨trivial, rfl⟩)
    (fun _ => false) nofun

/-- A format of times. -/
def format : Parameter TimeFormat :=
  .orDefault
    (.named (TimeFormat.all.map TimeFormat.name) TimeFormat.name (fun _ => rfl)
      (by rintro (_ | _ | _ | _ | _) <;> rfl))
    (Reading.named_keepsGiven (by rintro (_ | _ | _ | _ | _) <;> rfl)) "format" "format" false
    TimeRule.plain.format (d := .string TimeFormat.internet.name) rfl
    (Reading.keepsDefault_of_accept? (b := .internet) rfl fun _ => ⟨trivial, rfl⟩)
    (fun _ => false) nofun

/-- The text of a pattern, with a default that need not compile. -/
def pattern [PatternEngine] : Parameter String :=
  .orDefault .regexp Reading.regexp_keepsGiven "regexp" "regexp" true "" (d := .string ".*") rfl
    (fun s h _ => by
      obtain ⟨hs, hcompiles⟩ := acceptAs?_regexp_eq_some_iff.mp h
      obtain rfl : ".*" = s := Value.string.inj hs
      exact ⟨hcompiles, rfl⟩)
    (fun _ => false) nofun

/-- Values to choose from, which must be given. -/
def choices : Parameter (List Value) :=
  .require (.list .any rfl) (fun _ _ => (Reading.list_solid .any rfl).ne_null) "choices" "choices"
    true []

/-- A list that may be missing. -/
def listOrElse {β : Type} [DataCodec β] (R : Reading β) (h : R.convert = false) (name : String)
    (leftOut : List β → Bool) (hleft : ∀ bs, leftOut bs = true → bs = []) :
    Parameter (List β) :=
  .orElse (R.list h) (R.list_solid h).keepsGiven name name [] rfl (fun _ => ⟨nofun, rfl⟩) leftOut
    hleft

/-- A list with the empty one as its default. -/
def listOrDefault {β : Type} [DataCodec β] (R : Reading β) (h : R.convert = false)
    (name : String) : Parameter (List β) :=
  .orDefault (R.list h) (R.list_solid h).keepsGiven name name false [] (d := .list []) rfl
    (Reading.keepsDefault_of_accept? (acceptAs?_list_eq_some_iff.mpr ⟨[], rfl, .nil⟩)
      fun _ => ⟨nofun, rfl⟩) (fun _ => false) nofun

/-- The default of an optional value. -/
def default : Parameter (Option Value) :=
  .option .anything Reading.anything_keepsGiven "default" "default" .any (.inl rfl)
    (fun _ => false) nofun

end Parameter

/-! ### Rules for text and numbers -/

/-- The layout of rules for text. -/
def TextRule.layout : Layout TextRule (Option UInt64 → Option UInt64 → TextRule) :=
  .field (.length "min_length" "minLength") TextRule.minLength <|
    .field (.length "max_length" "maxLength") TextRule.maxLength .done

/-- The schema of rules for text. -/
def TextRule.schema : Schema TextRule where
  form := Builtin.textParams
  make := TextRule.mk
  layout := TextRule.layout
  dataName := "IsString"
  agrees.recovers := fun _ _ => ⟨rfl, rfl, trivial⟩

/-- The layout of rules for integers. -/
def IntegerRule.layout : Layout IntegerRule (Bool → Option Int64 → Option Int64 → IntegerRule) :=
  .field (.writtenFlag "convert" "convert" false false) IntegerRule.convert <|
    .field (.integer "min") IntegerRule.min <| .field (.integer "max") IntegerRule.max .done

/-- The schema of rules for integers. -/
def IntegerRule.schema : Schema IntegerRule where
  form := Builtin.integerParams
  make := IntegerRule.mk
  layout := IntegerRule.layout
  dataName := "IsInteger"
  agrees.recovers := fun _ _ _ => ⟨rfl, rfl, rfl, trivial⟩

/-- The layout of rules for floats. -/
def FloatRule.layout : Layout FloatRule (Bool → Option Binary64 → Option Binary64 → FloatRule) :=
  .field (.writtenFlag "convert" "convert" false false) FloatRule.convert <|
    .field (.float "min") FloatRule.min <| .field (.float "max") FloatRule.max .done

/-- The schema of rules for floats. -/
def FloatRule.schema : Schema FloatRule where
  form := Builtin.floatParams
  make := FloatRule.mk
  layout := FloatRule.layout
  dataName := "IsFloat"
  agrees.recovers := fun _ _ _ => ⟨rfl, rfl, rfl, trivial⟩

/-- The layout of rules for booleans. -/
def BooleanRule.layout : Layout BooleanRule (Bool → BooleanRule) :=
  .field (.writtenFlag "convert" "convert" false false) BooleanRule.convert .done

/-- The schema of rules for booleans. -/
def BooleanRule.schema : Schema BooleanRule where
  form := Builtin.booleanParams
  make := BooleanRule.mk
  layout := BooleanRule.layout
  dataName := "IsBoolean"
  agrees.recovers := fun _ => ⟨rfl, trivial⟩

/-! ### Rules for bytes and times -/

/-- The layout of rules for bytes. -/
def BytesRule.layout :
    Layout BytesRule (ByteEncoding → Option UInt64 → Option UInt64 → BytesRule) :=
  .field .encoding BytesRule.encoding <|
    .field (.length "min_length" "minLength") BytesRule.minLength <|
    .field (.length "max_length" "maxLength") BytesRule.maxLength .done

/-- The schema of rules for bytes. -/
def BytesRule.schema : Schema BytesRule where
  form := Builtin.bytesParams
  make := BytesRule.mk
  layout := BytesRule.layout
  dataName := "IsBytes"
  agrees.recovers := fun _ _ _ => ⟨rfl, rfl, rfl, trivial⟩

/-- The layout of rules for hexadecimal text. -/
def HexRule.layout : Layout HexRule (Bool → Bool → Option UInt64 → Option UInt64 → HexRule) :=
  .field (.writtenFlag "convert_to_binary" "convertToBinary" false false)
      HexRule.convertToBinary <|
    .field (.writtenFlag "strict" "strict" false false) HexRule.strict <|
    .field (.length "min_length" "minLength") HexRule.minLength <|
    .field (.length "max_length" "maxLength") HexRule.maxLength .done

/-- The schema of rules for hexadecimal text. -/
def HexRule.schema : Schema HexRule where
  form := Builtin.hexParams
  make := HexRule.mk
  layout := HexRule.layout
  dataName := "IsHex"
  agrees.recovers := fun _ _ _ _ => ⟨rfl, rfl, rfl, rfl, trivial⟩

/-- The layout of rules for universal identifiers. -/
def UuidRule.layout : Layout UuidRule (Bool → UuidRule) :=
  .field (.writtenFlag "convert_to_binary" "convertToBinary" false false)
    UuidRule.convertToBinary .done

/-- The schema of rules for universal identifiers. -/
def UuidRule.schema : Schema UuidRule where
  form := Builtin.uuidParams
  make := UuidRule.mk
  layout := UuidRule.layout
  dataName := "IsUuid"
  agrees.recovers := fun _ => ⟨rfl, trivial⟩

/-- The layout of rules for times. -/
def TimeRule.layout : Layout TimeRule (TimeFormat → Bool → Bool → TimeRule) :=
  .field .format TimeRule.format <|
    .field (.writtenFlag "to_utc" "toUTC" false false) TimeRule.toUtc <|
    .field (.writtenFlag "raw" "raw" false false) TimeRule.raw .done

/-- The schema of rules for times. -/
def TimeRule.schema : Schema TimeRule where
  form := Builtin.timeParams
  make := TimeRule.mk
  layout := TimeRule.layout
  dataName := "IsTime"
  agrees.recovers := fun _ _ _ => ⟨rfl, rfl, rfl, trivial⟩

/-! ### Rules for choices and presence -/

/-- The layout of the parameters of rules with a pattern. -/
def PatternRule.Parameters.layout [PatternEngine] :
    Layout PatternRule.Parameters (String → PatternRule.Parameters) :=
  .field .pattern PatternRule.Parameters.regexp .done

/-- The schema of the parameters of rules with a pattern. -/
def PatternRule.Parameters.schema [PatternEngine] : Schema PatternRule.Parameters where
  form := Builtin.patternParams
  make := PatternRule.Parameters.mk
  layout := PatternRule.Parameters.layout
  dataName := "MatchesRegexParams"
  agrees.recovers := fun _ => ⟨rfl, trivial⟩
  agrees.names := List.nodup_singleton _
  agrees.keys := List.nodup_singleton _
  agrees.named := show Field.wildcardName ∉ ["regexp"] by decide

/-- The layout of rules for choices. -/
def OneOfRule.layout : Layout OneOfRule (List Value → OneOfRule) :=
  .field .choices OneOfRule.choices .done

/-- The schema of rules for choices. -/
def OneOfRule.schema : Schema OneOfRule where
  form := Builtin.oneOfParams
  make := OneOfRule.mk
  layout := OneOfRule.layout
  dataName := "IsIn"
  agrees.recovers := fun _ => ⟨rfl, trivial⟩

/-- The layout of rules against values. -/
def NoneOfRule.layout : Layout NoneOfRule (List Value → NoneOfRule) :=
  .field (.listOrDefault .any rfl "values") NoneOfRule.values .done

/-- The schema of rules against values. -/
def NoneOfRule.schema : Schema NoneOfRule where
  form := Builtin.noneOfParams
  make := NoneOfRule.mk
  layout := NoneOfRule.layout
  dataName := "IsNotIn"
  agrees.recovers := fun _ => ⟨rfl, trivial⟩

/-- The layout of rules for optional values, which have no generator. -/
def OptionalRule.layout : Layout OptionalRule (Option Value → OptionalRule) :=
  .field .default OptionalRule.default .done

/-- The schema of rules for optional values, which have no generator. -/
def OptionalRule.schema : Schema OptionalRule where
  form := Builtin.optionalParams
  make := (fun default => ⟨default, none⟩)
  layout := OptionalRule.layout
  dataName := "IsOptional"
  agrees.recovers := fun _ => ⟨rfl, trivial⟩

/-- The layout of rules for missing values. -/
def NilRule.layout : Layout NilRule (Bool → NilRule) :=
  .field (.writtenFlag "allow_null" "allowNull" true true) NilRule.allowNull .done

/-- The schema of rules for missing values. -/
def NilRule.schema : Schema NilRule where
  form := Builtin.nilParams
  make := NilRule.mk
  layout := NilRule.layout
  dataName := "IsNil"
  agrees.recovers := fun _ => ⟨rfl, trivial⟩

end Intake
