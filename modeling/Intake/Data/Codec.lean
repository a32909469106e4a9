import Intake.Data.Type

set_option autoImplicit false

/-!
# Types that travel as data

A codec says which type of data carries a type, how its elements are written as data of that type
and how they are taken from such data again.

## Main definitions

* `DataCodec` — codecs, with those of scalars, options, lists, dictionaries and dynamic values.
* `ofRecord?`, `nextField?`, `endOfRecord?` — what codecs of records are made of.
-/

namespace Intake

/-- A type whose elements travel as data. -/
class DataCodec (α : Type) where
  dataType : DataType
  toDatum : α → Datum
  ofDatum? : Datum → Option α

export DataCodec (toDatum ofDatum?)

instance : DataCodec Bool where
  dataType := .bool
  toDatum := .bool
  ofDatum?
    | .bool b => some b
    | _ => none

instance : DataCodec Int64 where
  dataType := .int .i64
  toDatum n := .int .i64 n.toInt
  ofDatum?
    | .int .i64 n => some (Int64.ofInt n)
    | _ => none

/-- Unsigned words are lengths. -/
instance : DataCodec UInt64 where
  dataType := .int .usize
  toDatum n := .int .usize n.toNat
  ofDatum?
    | .int .usize n => some (UInt64.ofNat n.toNat)
    | _ => none

instance : DataCodec UInt8 where
  dataType := .int .u8
  toDatum n := .int .u8 n.toNat
  ofDatum?
    | .int .u8 n => some (UInt8.ofNat n.toNat)
    | _ => none

instance : DataCodec Binary64 where
  dataType := .float64
  toDatum := .float64
  ofDatum?
    | .float64 x => some x
    | _ => none

instance : DataCodec String where
  dataType := .text
  toDatum := .text
  ofDatum?
    | .text s => some s
    | _ => none

/-- Dynamic values are read as the data that they are written as. -/
instance : DataCodec Value where
  dataType := .dynamic
  toDatum := Value.toDatum
  ofDatum? d :=
    match d.toValue with
    | .ok v => some v
    | .error _ => none

/-- Each of some data as an element; nothing if one of them is none. -/
def eachOfDatum? {α : Type} [DataCodec α] : List Datum → Option (List α)
  | [] => some []
  | d :: rest =>
    match ofDatum? d, eachOfDatum? rest with
    | some a, some as => some (a :: as)
    | _, _ => none

/-- Each of some entries with a key as an entry; nothing if one of them is none. -/
def entriesOfDatum? {α : Type} [DataCodec α] :
    List (Option Datum × Option Datum) → Option (Dict α)
  | [] => some []
  | (some (.text k), some d) :: rest =>
    match ofDatum? d, entriesOfDatum? rest with
    | some a, some es => some ((k, a) :: es)
    | _, _ => none
  | _ => none

instance {α : Type} [DataCodec α] : DataCodec (Option α) where
  dataType := .option (DataCodec.dataType α)
  toDatum
    | none => .absent
    | some a => .present (toDatum a)
  ofDatum?
    | .absent => some none
    | .present d => (ofDatum? d).map some
    | _ => none

instance {α : Type} [DataCodec α] : DataCodec (List α) where
  dataType := .list (DataCodec.dataType α)
  toDatum as := .list (as.map toDatum)
  ofDatum?
    | .list ds => eachOfDatum? ds
    | _ => none

/-- A dictionary with text keys. -/
instance (priority := high) {α : Type} [DataCodec α] : DataCodec (Dict α) where
  dataType := .map .text (DataCodec.dataType α)
  toDatum es := .map (es.map fun e => (some (.text e.1), some (toDatum e.2)))
  ofDatum?
    | .map entries => entriesOfDatum? entries
    | _ => none

/-! ### Records -/

/-- A record, taken field by field. -/
def ofRecord? {α : Type} (fields : List (String × Datum) → Option α) : Datum → Option α
  | .record ds => fields ds
  | _ => none

/-- The next field is taken before those after it. -/
def nextField? {α β : Type} [DataCodec β] (rest : β → List (String × Datum) → Option α) :
    List (String × Datum) → Option α
  | [] => none
  | (_, d) :: ds => (ofDatum? d).bind fun b => rest b ds

/-- There are no fields but those that were taken. -/
def endOfRecord? {α : Type} (a : α) : List (String × Datum) → Option α
  | [] => some a
  | _ :: _ => none

/-- A field of a record that has a codec, with the value that it takes when it is missing. -/
def RecordField.of {α : Type} [DataCodec α] (name : String) (fallback : α) : RecordField :=
  .withFallback name (DataCodec.dataType α) (toDatum fallback)

/-- A field on its way out. -/
def fieldDatum {α : Type} [DataCodec α] (name : String) (a : α) : String × Datum :=
  (name, toDatum a)

end Intake
