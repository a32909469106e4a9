import Intake.Record.Basic

set_option autoImplicit false

/-!
# Sample records

Small records that use every feature of shapes: other keys, required fields, conversions, lists,
options and embedded records. Every missing field takes the plain value of its type.

## Main definitions

* `Address`, `Customer`, `Zap`, `Embedded`, `Complex`, `Item`.
-/

namespace Intake

/-- A street with a code. -/
structure Address where
  street : String
  zipCode : Option Int64

instance : Record Address where
  dataType := .record "Address" [.of "street" "", .of "zip_code" (none : Option Int64)]
  toDatum r := .record [fieldDatum "street" r.street, fieldDatum "zip_code" r.zipCode]
  ofDatum? := ofRecord? <| nextField? fun street => nextField? fun zipCode =>
    endOfRecord? ⟨street, zipCode⟩
  shape := ⟨"Address",
    [(FieldShape.new "street" .string).require,
      (FieldShape.new "zip_code" .int).readFrom "zipCode"]⟩

/-- A name with addresses. -/
structure Customer where
  name : String
  addresses : List Address

instance : Record Customer where
  dataType := .record "Customer" [.of "name" "", .of "addresses" ([] : List Address)]
  toDatum r := .record [fieldDatum "name" r.name, fieldDatum "addresses" r.addresses]
  ofDatum? := ofRecord? <| nextField? fun name => nextField? fun addresses =>
    endOfRecord? ⟨name, addresses⟩
  shape := ⟨"Customer",
    [(FieldShape.new "name" .string).require,
      .new "addresses" (.list (.record (Record.shape Address)))]⟩

/-- A single text. -/
structure Zap where
  zap : String

instance : Record Zap where
  dataType := .record "Zap" [.of "zap" ""]
  toDatum r := .record [fieldDatum "zap" r.zap]
  ofDatum? := ofRecord? <| nextField? fun zap => endOfRecord? ⟨zap⟩
  shape := ⟨"Zap", [.new "zap" .string]⟩

/-- A name with labels, to be embedded in another record. -/
structure Embedded where
  name : String
  labels : Dict String

instance : Record Embedded where
  dataType := .record "Embedded" [.of "name" "", .of "labels" ([] : Dict String)]
  toDatum r := .record [fieldDatum "name" r.name, fieldDatum "labels" r.labels]
  ofDatum? := ofRecord? <| nextField? fun name => nextField? fun labels =>
    endOfRecord? ⟨name, labels⟩
  shape := ⟨"Embedded", [.new "name" .string, .new "labels" (.map .string)]⟩

/-- A record that uses every feature. -/
structure Complex where
  embedded : Embedded
  foo : String
  bar : Int64
  ratio : Binary64
  payload : List UInt8
  zapList : List Zap
  maybe : Option Zap
  anything : Value

instance : Record Complex where
  dataType := .record "Complex"
    [⟨"embedded", DataCodec.dataType Embedded, none, true⟩, .of "foo" "", .of "bar" (0 : Int64),
      .of "ratio" (Binary64.zero false), .of "payload" ([] : List UInt8),
      .of "zap_list" ([] : List Zap), .of "maybe" (none : Option Zap), .of "anything" Value.null]
  toDatum r := .record
    [fieldDatum "name" r.embedded.name, fieldDatum "labels" r.embedded.labels,
      fieldDatum "foo" r.foo, fieldDatum "bar" r.bar, fieldDatum "ratio" r.ratio,
      fieldDatum "payload" r.payload, fieldDatum "zap_list" r.zapList, fieldDatum "maybe" r.maybe,
      fieldDatum "anything" r.anything]
  ofDatum? := ofRecord? <| nextField? fun name => nextField? fun labels => nextField? fun foo =>
    nextField? fun bar => nextField? fun ratio => nextField? fun payload =>
    nextField? fun zapList => nextField? fun maybe => nextField? fun anything =>
    endOfRecord? ⟨⟨name, labels⟩, foo, bar, ratio, payload, zapList, maybe, anything⟩
  shape := ⟨"Complex",
    [(FieldShape.new "embedded" (.record (Record.shape Embedded))).embed,
      (FieldShape.new "foo" .string).require,
      ((FieldShape.new "bar" .int).readFrom "Bar").converting,
      (FieldShape.new "ratio" .float).converting, (FieldShape.new "payload" .bytes).converting,
      .new "zap_list" (.list (.record (Record.shape Zap))),
      .new "maybe" (.optional (.record (Record.shape Zap))), .new "anything" .any]⟩

/-- A record of scalars with conversions. -/
structure Item where
  label : String
  count : Int64
  weight : Option Binary64
  data : List UInt8
  tags : List String

instance : Record Item where
  dataType := .record "Item"
    [.of "label" "", .of "count" (0 : Int64), .of "weight" (none : Option Binary64),
      .of "data" ([] : List UInt8), .of "tags" ([] : List String)]
  toDatum r := .record
    [fieldDatum "label" r.label, fieldDatum "count" r.count, fieldDatum "weight" r.weight,
      fieldDatum "data" r.data, fieldDatum "tags" r.tags]
  ofDatum? := ofRecord? <| nextField? fun label => nextField? fun count => nextField? fun weight =>
    nextField? fun data => nextField? fun tags => endOfRecord? ⟨label, count, weight, data, tags⟩
  shape := ⟨"Item",
    [((FieldShape.new "label" .string).readFrom "itemLabel").require,
      (FieldShape.new "count" .int).converting,
      (FieldShape.new "weight" (.optional .float)).converting, .new "data" .bytes,
      .new "tags" (.list .string)]⟩

end Intake
