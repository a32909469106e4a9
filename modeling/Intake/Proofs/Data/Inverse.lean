import Intake.Proofs.Data.Records
import Intake.Proofs.Data.Values
import Intake.Proofs.Value.Loading
import Mathlib.Algebra.Group.Int.Defs

set_option autoImplicit false

/-!
# Data that come back from their values

Data are written as a value by what they are and read from it by their type. Three things do not
come back. An integer without a sign is written as a float if 64 bits with a sign do not hold it. A
variant with data is written as a map, and only the name of a variant is read. A key that is an
integer is written as text, and no integer is read from text. All other data come back, as long as
their type tells them apart.

## Main definitions

* `DataType.Holds` — data of a type.
* `DataType.Regular` — types that tell their data apart by the values that these are written as.
* `Datum.Kept` — data without integers beyond the limit, variants with data and integers as keys.
* `DataType.Returns` — data that are read back from what they are written as.

## Main results

* `DataType.returns_list`, `DataType.returns_record`, … — composites of what comes back come back.
* `DataType.read_toValue` — data that are kept are read back.
-/

namespace Intake

/-! ### Data of a type -/

/-- A key is of a type of keys. -/
def KeyType.Holds : KeyType → Datum → Prop
  | .text, d => ∃ s, d = .text s
  | .int type, d => ∃ n, d = .int type n ∧ type.holds n = true

mutual

/-- Data are of a type. -/
def DataType.Holds : DataType → Datum → Prop
  | .bool, d => ∃ b, d = .bool b
  | .int type, d => ∃ n, d = .int type n ∧ type.holds n = true
  | .float32, d => ∃ word, d = .float32 word
  | .float64, d => ∃ x, d = .float64 x
  | .char, d => ∃ c, d = .char c
  | .text, d => ∃ s, d = .text s
  | .unit, d => d = .unit
  | .dynamic, d => ∃ v : Value, d = v.toDatum ∧ v.WellFormed
  | .option type, d => d = .absent ∨ ∃ x, d = .present x ∧ type.Holds x
  | .list type, d => ∃ ds, d = .list ds ∧ ∀ x ∈ ds, type.Holds x
  | .array length type, d => ∃ ds, d = .tuple ds ∧ ds.length = length ∧ ∀ x ∈ ds, type.Holds x
  | .tuple types, d => ∃ ds, d = .tuple ds ∧ EachHolds types ds
  | .map key type, d =>
    ∃ es : List (Datum × Datum), d = .map (es.map fun e => (some e.1, some e.2)) ∧
      (es.map Prod.fst).Nodup ∧ ∀ e ∈ es, key.Holds e.1 ∧ type.Holds e.2
  | .namedUnit _, d => d = .unit
  | .wrapper _ type, d => type.Holds d
  | .namedTuple _ types, d => ∃ ds, d = .tuple ds ∧ EachHolds types ds
  | .choice _ variants, d => AnyHolds variants d
  | .record _ fields, d => ∃ es, d = .record es ∧ FieldsHold fields es
termination_by structural type => type

/-- Data are of types, one for one. -/
def EachHolds : List DataType → List Datum → Prop
  | [], ds => ds = []
  | type :: types, ds => ∃ d rest, ds = d :: rest ∧ type.Holds d ∧ EachHolds types rest
termination_by structural types => types

/-- Data are of a variant. -/
def VariantType.Holds : VariantType → Datum → Prop
  | .unit name, d => d = .unitVariant name
  | .wrapper name type, d => ∃ x, d = .wrapperVariant name x ∧ type.Holds x
  | .tuple name types, d => ∃ ds, d = .tupleVariant name ds ∧ EachHolds types ds
  | .record name fields, d => ∃ es, d = .recordVariant name es ∧ FieldsHold fields es
termination_by structural variant => variant

/-- Data are of one of the variants. -/
def AnyHolds : List VariantType → Datum → Prop
  | [], _ => False
  | variant :: variants, d => variant.Holds d ∨ AnyHolds variants d
termination_by structural variants => variants

/-- Data are under the names of fields and of their types, one for one. -/
def FieldsHold : List RecordField → List (String × Datum) → Prop
  | [], es => es = []
  | ⟨name, type, _, _⟩ :: fields, es =>
    ∃ d rest, es = (name, d) :: rest ∧ type.Holds d ∧ FieldsHold fields rest
termination_by structural fields => fields

end

/-! ### Types that tell their data apart -/

/-- Some data of a type are written as null. -/
def DataType.nullable : DataType → Bool
  | .unit | .dynamic | .option _ | .namedUnit _ => true
  | .wrapper _ type => type.nullable
  | _ => false

mutual

/-- A type tells its data apart by the values that they are written as: what stands in an option is
never written as null, no record repeats the name of a field or splices one, and no choice repeats
the name of a variant. Numbers of 32 bits are left out, since they are read as numbers of 64
bits. -/
def DataType.Regular : DataType → Prop
  | .float32 => False
  | .option type => type.nullable = false ∧ type.Regular
  | .list type | .array _ type | .map _ type | .wrapper _ type => type.Regular
  | .tuple types | .namedTuple _ types => EachRegular types
  | .choice _ variants => (variants.map VariantType.name).Nodup
  | .record _ fields => (fields.map RecordField.name).Nodup ∧ FieldsRegular fields
  | _ => True
termination_by structural type => type

/-- Every type tells its data apart. -/
def EachRegular : List DataType → Prop
  | [] => True
  | type :: types => type.Regular ∧ EachRegular types
termination_by structural types => types

/-- No field is spliced, and the type of each tells its data apart. -/
def FieldsRegular : List RecordField → Prop
  | [] => True
  | ⟨_, type, _, spliced⟩ :: fields => spliced = false ∧ type.Regular ∧ FieldsRegular fields
termination_by structural fields => fields

end

/-- No field of a record that tells its data apart is spliced. -/
lemma flat_of_regular {fields : List RecordField} (h : FieldsRegular fields) :
    ∀ f ∈ fields, f.spliced = false := by
  induction fields with
  | nil => simp
  | cons f rest ih =>
    obtain ⟨name, type, fallback, spliced⟩ := f
    exact List.forall_mem_cons.mpr ⟨h.1, ih h.2.2⟩

/-! ### Data that are kept -/

/-- A key of a map is no integer. -/
def KeyKept : Option Datum → Prop
  | some (.int _ _) => False
  | _ => True

mutual

/-- Data hold no integer without a sign beyond 64 bits with one, no variant with data and no entry
under an integer. -/
def Datum.Kept : Datum → Prop
  | .int type n => type = .u64 ∨ type = .usize → n < 2 ^ 63
  | .present d => d.Kept
  | .list items => ItemsKept items
  | .tuple items => ItemsKept items
  | .map entries => EntriesKept entries
  | .record fields => FieldsKept fields
  | .wrapperVariant _ _ | .tupleVariant _ _ | .recordVariant _ _ => False
  | _ => True
termination_by structural d => d

/-- Every item is kept. -/
def ItemsKept : List Datum → Prop
  | [] => True
  | d :: rest => d.Kept ∧ ItemsKept rest
termination_by structural items => items

/-- Every entry is kept. -/
def EntriesKept : List (Option Datum × Option Datum) → Prop
  | [] => True
  | (key, value) :: rest => KeyKept key ∧ PartKept value ∧ EntriesKept rest
termination_by structural entries => entries

/-- What is there is kept. -/
def PartKept : Option Datum → Prop
  | none => True
  | some d => d.Kept
termination_by structural value => value

/-- The data of every field are kept. -/
def FieldsKept : List (String × Datum) → Prop
  | [] => True
  | (_, d) :: rest => d.Kept ∧ FieldsKept rest
termination_by structural fields => fields

end

/-- Items are kept one by one. -/
lemma itemsKept_iff {ds : List Datum} : ItemsKept ds ↔ ∀ d ∈ ds, d.Kept := by
  induction ds with
  | nil => simp [ItemsKept]
  | cons d rest ih => simp [ItemsKept, ih]

/-- Entries with keys and values are kept one by one. -/
lemma entriesKept_map_iff {es : List (Datum × Datum)} :
    EntriesKept (es.map fun e => (some e.1, some e.2)) ↔
      ∀ e ∈ es, KeyKept (some e.1) ∧ e.2.Kept := by
  induction es with
  | nil => simp [EntriesKept]
  | cons e rest ih => simp [EntriesKept, PartKept, ih, and_assoc]

/-! ### Scalars -/

/-- Data are read back as data of a type from what they are written as. -/
def DataType.Returns (type : DataType) (d : Datum) : Prop :=
  ∀ v, d.toValue = .ok v → type.read v = .ok d

/-- The types of at most 64 bits start within 64 bits with a sign. -/
lemma IntType.le_least (type : IntType) (h : type ≠ .i128) : -2 ^ 63 ≤ type.least := by
  revert h
  cases type <;> decide

/-- The types of at most 64 bits, one of them for the sign, end within 64 bits with a sign. -/
lemma IntType.greatest_lt (type : IntType)
    (h : type ≠ .i128 ∧ type ≠ .u128 ∧ type ≠ .u64 ∧ type ≠ .usize) :
    type.greatest < 2 ^ 63 := by
  revert h
  cases type <;> decide

/-- An integer without a sign that is not beyond the limit is written as itself. -/
lemma ofUnsigned_toNat {n : Int} (hpos : 0 ≤ n) (hlt : n < 2 ^ 63) :
    Value.ofUnsigned (UInt64.ofNat n.toNat) = .int (Int64.ofInt n) := by
  have hsize : UInt64.size = 18446744073709551616 := rfl
  have hnat : (UInt64.ofNat n.toNat).toNat = n.toNat := UInt64.toNat_ofNat_of_lt' (by omega)
  rw [Value.ofUnsigned_of_lt (by omega), hnat, Int.toNat_of_nonneg hpos]

/-- An integer that is written as a value and not beyond the limit is written as itself. -/
lemma valueOfInt_eq_ok {type : IntType} {n : Int} (hn : type.holds n = true)
    (hlimit : type = .u64 ∨ type = .usize → n < 2 ^ 63) {v : Value}
    (h : valueOfInt type n = .ok v) : v = .int (Int64.ofInt n) ∧ -2 ^ 63 ≤ n ∧ n < 2 ^ 63 := by
  obtain ⟨hleast, hgreatest⟩ : type.least ≤ n ∧ n ≤ type.greatest := by
    simpa [IntType.holds] using hn
  have hwide : type ≠ .i128 ∧ type ≠ .u128 := by
    constructor <;> (rintro rfl; cases h)
  have hlow : -2 ^ 63 ≤ n := le_trans (type.le_least hwide.1) hleast
  by_cases hunsigned : type = .u64 ∨ type = .usize
  · have hlt := hlimit hunsigned
    have hpos : 0 ≤ n := by rcases hunsigned with rfl | rfl <;> exact hleast
    have hv := ofUnsigned_toNat hpos hlt
    refine ⟨?_, hlow, hlt⟩
    rcases hunsigned with rfl | rfl <;> exact (Except.ok.inj h).symm.trans hv
  · obtain ⟨hlong, hsize⟩ := not_or.mp hunsigned
    have hhigh := type.greatest_lt ⟨hwide.1, hwide.2, hlong, hsize⟩
    refine ⟨?_, hlow, lt_of_le_of_lt hgreatest hhigh⟩
    cases type
    case i128 => exact absurd rfl hwide.1
    case u128 => exact absurd rfl hwide.2
    case u64 => exact absurd rfl hlong
    case usize => exact absurd rfl hsize
    all_goals exact (Except.ok.inj h).symm

namespace DataType

/-- Data come back if the value that they are written as is read as them. -/
lemma returns_of_toValue {type : DataType} {d : Datum} {v : Value} (hv : d.toValue = .ok v)
    (hread : type.read v = .ok d) : type.Returns d := by
  intro w hw
  obtain rfl : v = w := Except.ok.inj (hv.symm.trans hw)
  exact hread

/-- Integers that are not beyond the limit come back. -/
lemma returns_int {type : IntType} {n : Int} (hn : type.holds n = true)
    (hlimit : type = .u64 ∨ type = .usize → n < 2 ^ 63) :
    (DataType.int type).Returns (.int type n) := by
  intro v hv
  obtain ⟨rfl, hlow, hhigh⟩ := valueOfInt_eq_ok hn hlimit hv
  have hint : (Int64.ofInt n).toInt = n := Int64.toInt_ofInt_of_le (by omega) (by omega)
  rw [read, hint, readInteger, if_pos hn]

/-- Characters come back. -/
lemma returns_char (c : Char) : char.Returns (.char c) := by
  refine returns_of_toValue rfl ?_
  show readChar (String.singleton c) = .ok (.char c)
  rw [readChar, String.toList_singleton]

/-- Well-formed values come back. -/
lemma returns_dynamic {v : Value} (hv : v.WellFormed) : dynamic.Returns v.toDatum :=
  returns_of_toValue (v.toValue_toDatum hv) (read_dynamic hv)

/-! ### Options -/

/-- Null is not read as data of a type whose data are not written as null. -/
lemma read_null_ne_ok : ∀ type : DataType, type.nullable = false → ∀ d, type.read .null ≠ .ok d
  | .bool, _ | .int _, _ | .float32, _ | .float64, _ | .char, _ | .text, _ | .list _, _
  | .array _ _, _ | .tuple _, _ | .map _ _, _ | .namedTuple _ _, _ | .choice _ _, _
  | .record _ _, _ => nofun
  | .wrapper _ type, h => read_null_ne_ok type h

/-- An option around a type whose data are not written as null comes back. -/
lemma returns_present {type : DataType} {d : Datum} (hnull : type.nullable = false)
    (h : type.Returns d) : (option type).Returns (.present d) := by
  intro v hv
  have hread : type.read v = .ok d := h v hv
  have hne : v ≠ .null := by
    rintro rfl
    exact read_null_ne_ok type hnull d hread
  have hstep : (option type).read v = (type.read v).map .present := by
    cases v with
    | null => exact absurd rfl hne
    | _ => rfl
  rw [hstep, hread]
  rfl

/-! ### Lists -/

/-- Items come back one by one. -/
lemma forall₂_read {type : DataType} {ds : List Datum} (h : ∀ d ∈ ds, type.Returns d)
    {vs : List Value} (hvs : Datum.itemValues ds = .ok vs) :
    List.Forall₂ (fun v d => type.read v = .ok d) vs ds := by
  have hitems := (List.forall₂_and_left (p := type.Returns) ds vs).mpr
    ⟨h, itemValues_eq_ok_iff.mp hvs⟩
  exact (hitems.imp fun d v hd => hd.1 v hd.2).flip

/-- A list whose items come back comes back. -/
lemma returns_list {type : DataType} {ds : List Datum} (h : ∀ d ∈ ds, type.Returns d) :
    (list type).Returns (.list ds) := by
  intro v hv
  obtain ⟨vs, hvs, rfl⟩ := map_eq_ok_iff.mp hv
  have hread : readEach type.read vs = .ok ds := readEach_eq_ok_iff.mpr (forall₂_read h hvs)
  rw [read, hread]
  rfl

/-- As many items as asked for are read one by one. -/
lemma readExactly_eq_ok {f : Value → Except ValueError Datum} {vs : List Value} {ds : List Datum}
    (h : List.Forall₂ (fun v d => f v = .ok d) vs ds) (words : String) (done : Nat) :
    readExactly f words ds.length done vs = .ok (ds, []) := by
  induction h generalizing done with
  | nil => rfl
  | cons hd _ ih =>
    rw [List.length_cons, readExactly, hd]
    dsimp only
    rw [ih]
    rfl

/-- An array whose items come back comes back. -/
lemma returns_array {type : DataType} {ds : List Datum} (h : ∀ d ∈ ds, type.Returns d) :
    (array ds.length type).Returns (.tuple ds) := by
  intro v hv
  obtain ⟨vs, hvs, rfl⟩ := map_eq_ok_iff.mp hv
  rw [read, readExactly_eq_ok (forall₂_read h hvs)]
  rfl

/-- Items are read by the types of a tuple one by one. -/
lemma readTuple_eq_ok {types : List DataType} {ds : List Datum}
    (h : List.Forall₂ Returns types ds) {vs : List Value} (hvs : Datum.itemValues ds = .ok vs)
    (words : String) (done : Nat) : readTuple types words done vs = .ok (ds, []) := by
  replace hvs := itemValues_eq_ok_iff.mp hvs
  induction h generalizing vs done with
  | nil =>
    cases hvs
    rfl
  | cons hd _ ih =>
    cases hvs with
    | cons hv hrest =>
      rw [readTuple, hd _ hv]
      dsimp only
      rw [ih (done + 1) hrest]
      rfl

/-- A tuple whose items come back comes back. -/
lemma returns_tuple {types : List DataType} {ds : List Datum} (h : List.Forall₂ Returns types ds) :
    (tuple types).Returns (.tuple ds) := by
  intro v hv
  obtain ⟨vs, hvs, rfl⟩ := map_eq_ok_iff.mp hv
  rw [read, readTuple_eq_ok h hvs]
  rfl

/-- A named tuple whose items come back comes back. -/
lemma returns_namedTuple {types : List DataType} {ds : List Datum}
    (h : List.Forall₂ Returns types ds) (name : String) :
    (namedTuple name types).Returns (.tuple ds) := by
  intro v hv
  obtain ⟨vs, hvs, rfl⟩ := map_eq_ok_iff.mp hv
  rw [read, readTuple_eq_ok h hvs]
  rfl

/-! ### Maps and records -/

/-- Data under distinct names are written one by one. -/
lemma forall₂_of_fieldValues {es : Dict Datum} (hdistinct : es.Distinct) {n : Dict Value}
    (h : Datum.fieldValues es [] = .ok n) :
    List.Forall₂ (fun e w => w.1 = e.1 ∧ e.2.toValue = .ok w.2) es n := by
  obtain ⟨hall, rfl⟩ := (fieldValues_eq_ok_iff hdistinct (by simp)).mp h
  have hvalues : ∀ e ∈ es, ∃ v, e.2.toValue.toOption = some v := by
    intro e he
    obtain ⟨v, hv⟩ := hall e he
    exact ⟨v, toOption_eq_some_iff.mpr hv⟩
  have hgather : List.Forall₂ (fun (e : String × Datum) (w : String × Value) =>
      w.1 = e.1 ∧ e.2.toValue.toOption = some w.2) es _ :=
    Dict.gather_of_forall_iff.mp ⟨hvalues, rfl⟩
  exact hgather.imp fun e w hw => ⟨hw.1, toOption_eq_some_iff.mp hw.2⟩

/-- Data under text keys are written as fields are. -/
lemma entryValues_keyedData (es : Dict Datum) (done : Dict Value) :
    Datum.entryValues (keyedData es) none done = Datum.fieldValues es done := by
  induction es generalizing done with
  | nil => rfl
  | cons e rest ih =>
    obtain ⟨k, d⟩ := e
    have hcons : keyedData ((k, d) :: rest) = (some (.text k), some d) :: keyedData rest := rfl
    have hkey : Datum.keyText? (some (.text k)) = .ok (some k) := rfl
    rw [hcons, Datum.entryValues, hkey, Datum.fieldValues]
    dsimp only [Datum.valueAt?, Option.or]
    cases d.toValue with
    | error e => rfl
    | ok v => exact ih (done.insert k v)

/-- A map under text keys whose values come back comes back. -/
lemma returns_map {type : DataType} {es : Dict Datum} (hdistinct : es.Distinct)
    (h : ∀ e ∈ es, type.Returns e.2) : (map .text type).Returns (.map (keyedData es)) := by
  intro v hv
  obtain ⟨n, hn, rfl⟩ := map_eq_ok_iff.mp hv
  rw [entryValues_keyedData] at hn
  have hentries := (List.forall₂_and_left (p := fun e => type.Returns e.2) es n).mpr
    ⟨h, forall₂_of_fieldValues hdistinct hn⟩
  have hread : readEntries .text type.read n = .ok (keyedData es) := by
    refine readEntries_eq_ok_iff.mpr ⟨es, ?_, rfl⟩
    exact (hentries.imp fun e w hw => ⟨hw.2.1.symm, hw.1 w.2 hw.2.2⟩).flip
  rw [read, hread]
  rfl

/-- A record whose fields come back comes back.

**Proof sketch.** The fields are written under their names, which are distinct, so each field finds
what it was written as. -/
lemma returns_record {fields : List RecordField} (hflat : ∀ f ∈ fields, f.spliced = false)
    (hnames : (fields.map RecordField.name).Nodup) {es : Dict Datum}
    (h : List.Forall₂ (fun f e => e.1 = f.name ∧ f.type.Returns e.2) fields es) (name : String) :
    (record name fields).Returns (.record es) := by
  intro v hv
  obtain ⟨n, hn, rfl⟩ := map_eq_ok_iff.mp hv
  have hkeys : es.keys = fields.map RecordField.name := by
    clear hflat hnames hv hn
    induction h with
    | nil => rfl
    | cons hd _ ih => rw [Dict.keys_cons, List.map_cons, hd.1, ih]
  have hdistinct : es.Distinct := by rwa [Dict.Distinct, hkeys]
  have hwritten := forall₂_of_fieldValues hdistinct hn
  have hrecord : Dict.Distinct n := by
    rwa [Dict.Distinct, Dict.keys_eq_of_forall₂ (fun _ _ => And.left) hwritten]
  have hfound : ∀ e ∈ es, ∃ v, Dict.find? n e.1 = some v ∧ e.2.toValue = .ok v := by
    intro e he
    obtain ⟨⟨_, v⟩, hmem, rfl, hv⟩ := exists_of_mem_forall₂ hwritten he
    exact ⟨v, Dict.find?_of_mem hrecord hmem, hv⟩
  have hread : List.Forall₂ (fun f e => e.1 = f.name ∧ f.readAt n = .ok e.2) fields es := by
    refine List.Forall₂.flip (((List.forall₂_and_left es fields).mpr ⟨hfound, h.flip⟩).imp ?_)
    rintro e f ⟨⟨v, hfind, hv⟩, hkey, hreturns⟩
    refine ⟨hkey, ?_⟩
    rw [RecordField.readAt, ← hkey, hfind]
    exact hreturns v hv
  have hgather := Dict.gather_of_forall_iff.mpr
    (hread.imp fun f e he => (⟨he.1, toOption_eq_some_iff.mpr he.2⟩ :
      e.1 = f.name ∧ f.datum? n = some e.2))
  refine (read_record_eq_ok_iff hflat hnames hrecord name).mpr ⟨?_, congrArg Datum.record hgather.2⟩
  intro f hf
  obtain ⟨e, -, he⟩ := exists_of_mem_forall₂ hread hf
  exact ⟨e.2, he.2⟩

/-- Keys that are kept are texts. -/
lemma exists_texts {key : KeyType} {es : List (Datum × Datum)}
    (h : ∀ e ∈ es, key.Holds e.1 ∧ KeyKept (some e.1)) :
    ∃ fs : Dict Datum, es = fs.map fun e => (.text e.1, e.2) := by
  induction es with
  | nil => exact ⟨[], rfl⟩
  | cons e rest ih =>
    obtain ⟨⟨hkey, hkept⟩, hrest⟩ := List.forall_mem_cons.mp h
    obtain ⟨fs, rfl⟩ := ih hrest
    obtain ⟨d, x⟩ := e
    cases key with
    | text =>
      obtain ⟨s, rfl⟩ := hkey
      exact ⟨(s, x) :: fs, rfl⟩
    | int type =>
      obtain ⟨n, rfl, -⟩ := hkey
      exact hkept.elim

/-- A map whose keys are kept and whose values come back comes back. -/
lemma returns_map_of_kept {key : KeyType} {type : DataType} {es : List (Datum × Datum)}
    (hdistinct : (es.map Prod.fst).Nodup) (hkeys : ∀ e ∈ es, key.Holds e.1 ∧ KeyKept (some e.1))
    (h : ∀ e ∈ es, type.Returns e.2) :
    (map key type).Returns (.map (es.map fun e => (some e.1, some e.2))) := by
  obtain ⟨fs, rfl⟩ := exists_texts hkeys
  have hdata : (fs.map fun e => ((.text e.1, e.2) : Datum × Datum)).map
      (fun e => (some e.1, some e.2)) = keyedData fs := by
    rw [List.map_map]
    rfl
  rw [hdata]
  cases key with
  | text =>
    have hfs : fs.Distinct := by
      rw [List.map_map] at hdistinct
      exact List.Nodup.of_map Datum.text (by rwa [Dict.keys, List.map_map])
    exact returns_map hfs fun e he => h _ (List.mem_map_of_mem he)
  | int type =>
    -- a text is no integer, so there is no entry
    cases fs with
    | nil => exact returns_of_toValue rfl rfl
    | cons e rest =>
      obtain ⟨n, hn, -⟩ := (hkeys _ List.mem_cons_self).1
      cases hn

/-! ### Choices -/

/-- Data of a choice that are kept name a variant without data. -/
lemma exists_unit_of_anyHolds {variants : List VariantType} {d : Datum}
    (h : AnyHolds variants d) (hd : d.Kept) :
    ∃ name, VariantType.unit name ∈ variants ∧ d = .unitVariant name := by
  induction variants with
  | nil => exact h.elim
  | cons variant rest ih =>
    rcases h with hvariant | hrest
    · cases variant with
      | unit name => exact ⟨name, List.mem_cons_self, hvariant⟩
      | wrapper name type =>
        obtain ⟨x, rfl, -⟩ := hvariant
        exact hd.elim
      | tuple name types =>
        obtain ⟨ds, rfl, -⟩ := hvariant
        exact hd.elim
      | record name fields =>
        obtain ⟨es, rfl, -⟩ := hvariant
        exact hd.elim
    · obtain ⟨name, hmem, rfl⟩ := ih hrest
      exact ⟨name, List.mem_cons_of_mem _ hmem, rfl⟩

/-- A variant is found by its name. -/
lemma find?_variant {variants : List VariantType} (hnames : (variants.map VariantType.name).Nodup)
    {variant : VariantType} (h : variant ∈ variants) :
    variants.find? (fun x => decide (x.name = variant.name)) = some variant := by
  induction variants with
  | nil => cases h
  | cons x rest ih =>
    obtain ⟨hx, hrest⟩ := List.nodup_cons.mp hnames
    rcases List.mem_cons.mp h with rfl | hmem
    · simp
    · have hne : x.name ≠ variant.name := fun heq => hx (heq ▸ List.mem_map_of_mem hmem)
      simp [hne, ih hrest hmem]

/-- The name of a variant without data comes back. -/
lemma returns_unitVariant {variants : List VariantType}
    (hnames : (variants.map VariantType.name).Nodup) {name : String}
    (h : VariantType.unit name ∈ variants) (choiceName : String) :
    (choice choiceName variants).Returns (.unitVariant name) := by
  refine returns_of_toValue rfl ?_
  have hfind : variants.find? (fun x => decide (x.name = name)) = some (.unit name) :=
    find?_variant hnames h
  rw [read, hfind]

/-! ### All types -/

mutual

/-- Data that are kept come back. -/
theorem returns_of_holds : ∀ (type : DataType) (d : Datum), type.Regular → type.Holds d →
    d.Kept → type.Returns d
  | .bool, _, _, h, _ => by
    obtain ⟨b, rfl⟩ := h
    exact returns_of_toValue rfl rfl
  | .int _, _, _, h, hd => by
    obtain ⟨n, rfl, hn⟩ := h
    exact returns_int hn hd
  | .float32, _, hregular, _, _ => hregular.elim
  | .float64, _, _, h, _ => by
    obtain ⟨x, rfl⟩ := h
    exact returns_of_toValue rfl rfl
  | .char, _, _, h, _ => by
    obtain ⟨c, rfl⟩ := h
    exact returns_char c
  | .text, _, _, h, _ => by
    obtain ⟨s, rfl⟩ := h
    exact returns_of_toValue rfl rfl
  | .unit, _, _, h, _ => by
    obtain rfl := h
    exact returns_of_toValue rfl rfl
  | .dynamic, _, _, h, _ => by
    obtain ⟨v, rfl, hv⟩ := h
    exact returns_dynamic hv
  | .option type, _, hregular, h, hd => by
    rcases h with rfl | ⟨x, rfl, hx⟩
    · exact returns_of_toValue rfl rfl
    · exact returns_present hregular.1 (returns_of_holds type x hregular.2 hx hd)
  | .list type, _, hregular, h, hd => by
    obtain ⟨ds, rfl, hds⟩ := h
    have hkept : ∀ x ∈ ds, x.Kept := itemsKept_iff.mp hd
    exact returns_list fun x hx => returns_of_holds type x hregular (hds x hx) (hkept x hx)
  | .array _ type, _, hregular, h, hd => by
    obtain ⟨ds, rfl, rfl, hds⟩ := h
    have hkept : ∀ x ∈ ds, x.Kept := itemsKept_iff.mp hd
    exact returns_array fun x hx => returns_of_holds type x hregular (hds x hx) (hkept x hx)
  | .tuple types, _, hregular, h, hd => by
    obtain ⟨ds, rfl, hds⟩ := h
    exact returns_tuple (forall₂_returns types ds hregular hds hd)
  | .map _ type, _, hregular, h, hd => by
    obtain ⟨es, rfl, hdistinct, hes⟩ := h
    have hkept : ∀ e ∈ es, KeyKept (some e.1) ∧ e.2.Kept := entriesKept_map_iff.mp hd
    exact returns_map_of_kept hdistinct (fun e he => ⟨(hes e he).1, (hkept e he).1⟩)
      fun e he => returns_of_holds type e.2 hregular (hes e he).2 (hkept e he).2
  | .namedUnit _, _, _, h, _ => by
    obtain rfl := h
    exact returns_of_toValue rfl rfl
  | .wrapper _ type, d, hregular, h, hd => returns_of_holds type d hregular h hd
  | .namedTuple name types, _, hregular, h, hd => by
    obtain ⟨ds, rfl, hds⟩ := h
    exact returns_namedTuple (forall₂_returns types ds hregular hds hd) name
  | .choice name _, _, hregular, h, hd => by
    obtain ⟨variant, hvariant, rfl⟩ := exists_unit_of_anyHolds h hd
    exact returns_unitVariant hregular hvariant name
  | .record name fields, _, hregular, h, hd => by
    obtain ⟨es, rfl, hes⟩ := h
    exact returns_record (flat_of_regular hregular.2) hregular.1
      (forall₂_fieldReturns fields es hregular.2 hes hd) name
termination_by structural type => type

/-- Items that are kept come back. -/
theorem forall₂_returns : ∀ (types : List DataType) (ds : List Datum), EachRegular types →
    EachHolds types ds → ItemsKept ds → List.Forall₂ Returns types ds
  | [], _, _, h, _ => by
    obtain rfl := h
    exact .nil
  | type :: types, _, hregular, h, hd => by
    obtain ⟨d, rest, rfl, hfirst, hrest⟩ := h
    exact .cons (returns_of_holds type d hregular.1 hfirst hd.1)
      (forall₂_returns types rest hregular.2 hrest hd.2)
termination_by structural types => types

/-- Fields that are kept come back. -/
theorem forall₂_fieldReturns : ∀ (fields : List RecordField) (es : List (String × Datum)),
    FieldsRegular fields → FieldsHold fields es → FieldsKept es →
      List.Forall₂ (fun f e => e.1 = f.name ∧ f.type.Returns e.2) fields es
  | [], _, _, h, _ => by
    obtain rfl := h
    exact .nil
  | ⟨_, type, _, _⟩ :: fields, _, hregular, h, hd => by
    obtain ⟨d, rest, rfl, hfirst, hrest⟩ := h
    exact .cons ⟨rfl, returns_of_holds type d hregular.2.1 hfirst hd.1⟩
      (forall₂_fieldReturns fields rest hregular.2.2 hrest hd.2)
termination_by structural fields => fields

end

/-- **Data come back from the value that they are written as.** Whatever value data of a type are
written as, reading it by the type gives the data again, floats by their words and entries and
fields in their order. The type has to tell its data apart, so no option stands around a type whose
data may be written as null, and the data have to be free of integers without a sign beyond 64 bits
with one, of variants with data and of entries under integers.

**Proof sketch.** By induction over the type, each composite from its parts. A list, an array or a
tuple is written and read item by item; a map and a record are written under distinct names, so
every entry and every field finds its own value; a variant without data is found by its name. Data
that are not absent are read as such because no type that an option stands around reads null. -/
theorem read_toValue {type : DataType} {d : Datum} {v : Value} (htype : type.Regular)
    (hd : type.Holds d) (hkept : d.Kept) (hv : d.toValue = .ok v) : type.read v = .ok d :=
  returns_of_holds type d htype hd hkept v hv

section Sample

/-- Records with a count, a note, a mode, numbers under names and a wrapped pair. -/
def recordSample : DataType :=
  .record "Record" [.plain "count" (.int .u64), .plain "note" (.option .text),
    .plain "mode" (.choice "Mode" [.unit "fast", .wrapper "custom" .float64]),
    .plain "sizes" (.map .text .float64),
    .plain "pair" (.wrapper "Pair" (.tuple [.int .i8, .unit]))]

/-- The zero below zero and a NaN under names out of order. -/
def sizesSample : Datum :=
  .map [(some (.text "b"), some (.float64 ⟨0x8000000000000000⟩)),
    (some (.text "a"), some (.float64 ⟨0x7ff8000000000001⟩))]

/-- A record at the limit of its count, without a note. -/
def limitSample : Datum :=
  .record [("count", .int .u64 9223372036854775807), ("note", .absent),
    ("mode", .unitVariant "fast"), ("sizes", sizesSample),
    ("pair", .tuple [.int .i8 (-128), .unit])]

/-- It comes back. -/
theorem limit_read_toValue :
    recordSample.Regular ∧ recordSample.Holds limitSample ∧ limitSample.Kept ∧
      ∃ v, limitSample.toValue = .ok v ∧ recordSample.read v = .ok limitSample := by
  have hregular : recordSample.Regular := by
    simp [recordSample, RecordField.plain, Regular, FieldsRegular, EachRegular, nullable,
      VariantType.name]
  have hsizes : (map .text .float64).Holds sizesSample := by
    refine ⟨[(.text "b", .float64 ⟨0x8000000000000000⟩),
      (.text "a", .float64 ⟨0x7ff8000000000001⟩)], rfl, by simp, ?_⟩
    simp [KeyType.Holds, Holds]
  have hpair : (tuple [.int .i8, .unit]).Holds (.tuple [.int .i8 (-128), .unit]) :=
    ⟨_, rfl, _, _, rfl, ⟨_, rfl, by decide⟩, _, _, rfl, rfl, rfl⟩
  have hholds : recordSample.Holds limitSample :=
    ⟨_, rfl, _, _, rfl, ⟨_, rfl, by decide⟩, _, _, rfl, .inl rfl, _, _, rfl, .inl rfl, _, _, rfl,
      hsizes, _, _, rfl, hpair, rfl⟩
  have hkept : limitSample.Kept := by
    simp [limitSample, sizesSample, Datum.Kept, FieldsKept, ItemsKept, EntriesKept, PartKept,
      KeyKept]
  obtain ⟨v, hv⟩ : ∃ v, limitSample.toValue = .ok v := ⟨_, rfl⟩
  exact ⟨hregular, hholds, hkept, v, hv, read_toValue hregular hholds hkept hv⟩

end Sample

/-- **Not all data come back.** Lost are an integer without a sign beyond 64 bits with one, which is
written as a float, an entry under an integer, a variant with data, and an option with data that are
written as null. -/
theorem not_returns_lost :
    ((int .u64).Holds (.int .u64 (2 ^ 63)) ∧ ¬ (int .u64).Returns (.int .u64 (2 ^ 63))) ∧
      ((map (.int .i64) .bool).Holds (.map [(some (.int .i64 2), some (.bool true))]) ∧
        ¬ (map (.int .i64) .bool).Returns (.map [(some (.int .i64 2), some (.bool true))])) ∧
      ((choice "Shape" [.wrapper "square" (.int .u32)]).Holds
          (.wrapperVariant "square" (.int .u32 2)) ∧
        ¬ (choice "Shape" [.wrapper "square" (.int .u32)]).Returns
          (.wrapperVariant "square" (.int .u32 2))) ∧
      ((option (.namedUnit "Unit")).Holds (.present .unit) ∧
        ¬ (option (.namedUnit "Unit")).Returns (.present .unit)) := by
  refine ⟨⟨⟨_, rfl, by decide⟩, fun h => ?_⟩, ⟨?_, fun h => ?_⟩, ⟨?_, fun h => ?_⟩, ?_, fun h => ?_⟩
  · have hnat : (UInt64.ofNat (2 ^ 63 : Int).toNat).toNat = 2 ^ 63 := by decide
    have hbeyond : ¬ (UInt64.ofNat (2 ^ 63 : Int).toNat).toNat < Nat.pow 2 63 := by decide
    have hvalue : (Datum.int .u64 (2 ^ 63)).toValue = .ok (.float (Binary64.ofNat (2 ^ 63))) := by
      rw [Datum.toValue, valueOfInt, Value.ofUnsigned, if_neg hbeyond, hnat]
    cases h _ hvalue
  · exact ⟨[(.int .i64 2, .bool true)], rfl, by simp, by simp [KeyType.Holds, Holds]; decide⟩
  · cases h _ rfl
  · exact .inl ⟨_, rfl, _, rfl, by decide⟩
  · cases h _ rfl
  · exact .inr ⟨_, rfl, rfl⟩
  · cases h _ rfl

end DataType

end Intake
