import Intake.Proofs.Schema.Unchecked
import Intake.Record.Samples

set_option autoImplicit false

/-!
# Outlines of the sample records

The columns of a sample record are the fields of its shape, which no rule checks. The fields of an
embedded record stand among those of the record.

## Main definitions

* `Parameter.ofShape` — the parameter of a field of a shape.
* `Address.outline`, `Customer.outline`, … — the outlines of the sample records.
-/

namespace Intake

/-- The column of a field of a shape. -/
def Column.ofShape {β : Type} (f : FieldShape) (fallback : β) : Column β where
  name := f.name
  key := f.sourceKey
  chain := []
  target := f.target
  required := f.required
  convert := f.convert
  fallback := fallback

namespace Parameter

variable {β : Type} [DataCodec β]

/-- The parameter of a field of a shape, which is always written. -/
def ofShape (f : FieldShape) (fallback : β)
    (h : (Column.ofShape f fallback).Lossless fun _ => false) : Parameter β :=
  .unchecked (.ofShape f fallback) _ h

/-- The parameter of a field of a shape is lossless. -/
lemma lossless_ofShape {f : FieldShape} {fallback : β}
    {h : (Column.ofShape f fallback).Lossless fun _ => false} :
    (ofShape f fallback h).Lossless :=
  lossless_unchecked h

end Parameter

open Parameter (lossless_ofShape)

/-! ### Records without embedded records -/

/-- The layout of addresses. -/
def Address.layout : Layout Address (String → Option Int64 → Address) :=
  .field (.ofShape (FieldShape.new "street" .string).require "" (.of_required (.text _) rfl))
      Address.street <|
    .field (.ofShape ((FieldShape.new "zip_code" .int).readFrom "zipCode") none
      (.of_none (.option (.inl rfl) (.int _)) rfl)) Address.zipCode .done

/-- The outline of addresses. -/
def Address.outline : Outline Address where
  make := Address.mk
  layout := Address.layout
  outlines := .of_fields fun _ _ => ⟨rfl, rfl, trivial⟩
  lossless := ⟨lossless_ofShape, lossless_ofShape, trivial⟩

/-- The layout of customers. -/
def Customer.layout : Layout Customer (String → List Address → Customer) :=
  .field (.ofShape (FieldShape.new "name" .string).require "" (.of_required (.text _) rfl))
      Customer.name <|
    .field (.ofShape (FieldShape.new "addresses" (.list (.record (Record.shape Address)))) []
      (.of_value (v := .list []) (.list (Address.outline.lossless_record _) _) trivial rfl rfl))
      Customer.addresses .done

/-- The outline of customers. -/
def Customer.outline : Outline Customer where
  make := Customer.mk
  layout := Customer.layout
  outlines := .of_fields fun _ _ => ⟨rfl, rfl, trivial⟩
  lossless := ⟨lossless_ofShape, lossless_ofShape, trivial⟩

/-- The layout of single texts. -/
def Zap.layout : Layout Zap (String → Zap) :=
  .field (.ofShape (.new "zap" .string) ""
    (.of_value (v := .string "") (.text _) trivial rfl rfl)) Zap.zap .done

/-- The outline of single texts. -/
def Zap.outline : Outline Zap where
  make := Zap.mk
  layout := Zap.layout
  outlines := .of_fields fun _ => ⟨rfl, trivial⟩
  lossless := ⟨lossless_ofShape, trivial⟩

/-! ### An embedded record -/

/-- The name in an embedded record. -/
def Parameter.embeddedName : Parameter String :=
  .ofShape (.new "name" .string) "" (.of_value (v := .string "") (.text _) trivial rfl rfl)

/-- The labels in an embedded record. -/
def Parameter.embeddedLabels : Parameter (Dict String) :=
  .ofShape (.new "labels" (.map .string)) []
    (.of_value (v := .map []) (.dictionary (.text _) _) Value.wellFormed_empty rfl rfl)

/-- The layout of embedded records. -/
def Embedded.layout : Layout Embedded (String → Dict String → Embedded) :=
  .field .embeddedName Embedded.name <| .field .embeddedLabels Embedded.labels .done

/-- The outline of embedded records. -/
def Embedded.outline : Outline Embedded where
  make := Embedded.mk
  layout := Embedded.layout
  outlines := .of_fields fun _ _ => ⟨rfl, rfl, trivial⟩
  lossless := ⟨lossless_ofShape, lossless_ofShape, trivial⟩

/-- The layout of what stands beside the embedded record. -/
def Complex.restLayout : Layout Complex (String → Int64 → Binary64 → List UInt8 → List Zap →
    Option Zap → Value → Complex) :=
  .field (.ofShape (FieldShape.new "foo" .string).require "" (.of_required (.text _) rfl))
      Complex.foo <|
    .field (.ofShape ((FieldShape.new "bar" .int).readFrom "Bar").converting 0
      (.of_value (v := .int 0) (.int _) trivial rfl rfl)) Complex.bar <|
    .field (.ofShape (FieldShape.new "ratio" .float).converting (Binary64.zero false)
      (.of_value (v := .float (Binary64.zero false)) (.float _) trivial rfl rfl)) Complex.ratio <|
    .field (.ofShape (FieldShape.new "payload" .bytes).converting []
      (.of_value (v := .bytes []) (.bytes _) trivial rfl rfl)) Complex.payload <|
    .field (.ofShape (.new "zap_list" (.list (.record (Record.shape Zap)))) []
      (.of_value (v := .list []) (.list (Zap.outline.lossless_record _) _) trivial rfl rfl))
      Complex.zapList <|
    .field (.ofShape (.new "maybe" (.optional (.record (Record.shape Zap)))) none
      (.of_none (.option (.inr rfl) (Zap.outline.lossless_record _)) rfl)) Complex.maybe <|
    .field (.ofShape (.new "anything" .any) .null
      (.of_value (v := .null) (.any _) trivial rfl rfl)) Complex.anything .done

/-- The layout of the record that uses every feature, the fields of the embedded record first. -/
def Complex.layout : Layout Complex (String → Dict String → String → Int64 → Binary64 →
    List UInt8 → List Zap → Option Zap → Value → Complex) :=
  .field .embeddedName (fun r => r.embedded.name) <|
    .field .embeddedLabels (fun r => r.embedded.labels) Complex.restLayout

/-- The outline of the record that uses every feature. -/
def Complex.outline : Outline Complex where
  make := fun name labels => Complex.mk ⟨name, labels⟩
  layout := Complex.layout
  outlines :=
    { ofDatum?_record := fun _ => rfl
      recovers := fun _ _ _ _ _ _ _ _ _ =>
        ⟨rfl, rfl, rfl, rfl, rfl, rfl, rfl, rfl, rfl, trivial⟩
      flattened := rfl
      embedsRecords := ⟨fun _ => ⟨nofun, nofun, trivial⟩, nofun, nofun, nofun, nofun, nofun, nofun,
        nofun, trivial⟩
      read_eq_ok_iff := fun hrecord => read_spliced_eq_ok_iff Embedded.layout.data
        Complex.restLayout.data rfl rfl Embedded.layout.not_spliced_of_mem_data
        Complex.restLayout.not_spliced_of_mem_data (by decide) hrecord "Complex"
      toDatum_eq := fun _ => rfl
      names := by decide
      keys := by decide }
  lossless := ⟨lossless_ofShape, lossless_ofShape, lossless_ofShape, lossless_ofShape,
    lossless_ofShape, lossless_ofShape, lossless_ofShape, lossless_ofShape, lossless_ofShape,
    trivial⟩

/-- The layout of items. -/
def Item.layout : Layout Item
    (String → Int64 → Option Binary64 → List UInt8 → List String → Item) :=
  .field (.ofShape ((FieldShape.new "label" .string).readFrom "itemLabel").require ""
      (.of_required (.text _) rfl)) Item.label <|
    .field (.ofShape (FieldShape.new "count" .int).converting 0
      (.of_value (v := .int 0) (.int _) trivial rfl rfl)) Item.count <|
    .field (.ofShape (FieldShape.new "weight" (.optional .float)).converting none
      (.of_none (.option (.inr rfl) (.float _)) rfl)) Item.weight <|
    .field (.ofShape (.new "data" .bytes) []
      (.of_value (v := .bytes []) (.bytes _) trivial rfl rfl)) Item.data <|
    .field (.ofShape (.new "tags" (.list .string)) []
      (.of_value (v := .list []) (.list (.text _) _) trivial rfl rfl)) Item.tags .done

/-- The outline of items. -/
def Item.outline : Outline Item where
  make := Item.mk
  layout := Item.layout
  outlines := .of_fields fun _ _ _ _ _ => ⟨rfl, rfl, rfl, rfl, rfl, trivial⟩
  lossless := ⟨lossless_ofShape, lossless_ofShape, lossless_ofShape, lossless_ofShape,
    lossless_ofShape, trivial⟩

end Intake
