import Intake.Data.Reader
import Intake.Proofs.Pairwise
import Intake.Proofs.Result
import Intake.Proofs.Value.Dict

set_option autoImplicit false

/-!
# Lists, dictionaries and records as data

Lists are read and written item by item, and dictionaries entry by entry. A map is read into a
record field by field, and a record is written field by field, when no name occurs twice. The fields
of a spliced record at the start count as fields of the record.

## Main definitions

* `keyedData` — data under text keys.
* `RecordField.readAt` — the datum that a field reads from a map.

## Main results

* `readEach_eq_ok_iff`, `itemValues_eq_ok_iff` — lists, read and written.
* `readEntries_eq_ok_iff` — dictionaries, read.
* `read_record_eq_ok_iff`, `read_spliced_eq_ok_iff` — a map as a record.
* `fieldValues_eq_ok_iff` — the fields of a record as a map.
-/

namespace Intake

/-! ### Lists and dictionaries -/

/-- Items are read one by one. -/
lemma readEach_eq_ok_iff {f : Value → Except ValueError Datum} {items : List Value}
    {ds : List Datum} :
    readEach f items = .ok ds ↔ List.Forall₂ (fun v d => f v = .ok d) items ds := by
  induction items generalizing ds with
  | nil => simp [readEach, eq_comm]
  | cons v rest ih =>
    rw [readEach, List.forall₂_cons_left_iff]
    cases f v with
    | error r => simp
    | ok w => simp [map_cons_eq_ok_iff, ih]

/-- Items are written one by one. -/
lemma itemValues_eq_ok_iff {ds : List Datum} {ws : List Value} :
    Datum.itemValues ds = .ok ws ↔ List.Forall₂ (fun d w => d.toValue = .ok w) ds ws := by
  induction ds generalizing ws with
  | nil => simp [Datum.itemValues, eq_comm]
  | cons d rest ih =>
    rw [Datum.itemValues, List.forall₂_cons_left_iff]
    cases d.toValue with
    | error r => simp
    | ok w => simp [map_cons_eq_ok_iff, ih]

/-- Data under text keys. -/
def keyedData (es : Dict Datum) : List (Option Datum × Option Datum) :=
  es.map fun e => (some (.text e.1), some e.2)

/-- Entries with text keys are read one by one. -/
lemma readEntries_eq_ok_iff {f : Value → Except ValueError Datum} {entries : Dict Value}
    {ds : List (Option Datum × Option Datum)} :
    readEntries .text f entries = .ok ds ↔
      ∃ es, List.Forall₂ (fun e x => x.1 = e.1 ∧ f e.2 = .ok x.2) entries es ∧
        ds = keyedData es := by
  induction entries generalizing ds with
  | nil => simp [readEntries, keyedData, eq_comm]
  | cons e rest ih =>
    obtain ⟨k, v⟩ := e
    have hkey : KeyType.text.read k = .ok (.text k) := rfl
    rw [readEntries, hkey]
    simp only [List.forall₂_cons_left_iff]
    cases f v with
    | error r => simp
    | ok x =>
      simp only [map_cons_eq_ok_iff, ih, Except.ok.injEq, Prod.exists]
      constructor
      · rintro ⟨_, ⟨es, hes, rfl⟩, rfl⟩
        exact ⟨_, ⟨k, x, es, ⟨rfl, rfl⟩, hes, rfl⟩, rfl⟩
      · rintro ⟨_, ⟨_, _, es, ⟨rfl, rfl⟩, hes, rfl⟩, rfl⟩
        exact ⟨_, ⟨es, hes, rfl⟩, rfl⟩

/-! ### Fields -/

/-- The datum that a field reads from a map, or the one that stands for a missing value. -/
def RecordField.readAt (f : RecordField) (record : Dict Value) : Except ValueError Datum :=
  match record.find? f.name with
  | some v => f.type.read v
  | none => f.missing

/-- The datum that a field reads from a map, if it does not fail. -/
def RecordField.datum? (record : Dict Value) (f : RecordField) : Option Datum :=
  (f.readAt record).toOption

/-! ### Reading -/

/-- The first field decides on the entries of its name. -/
lemma readNamed_cons {f : RecordField} (h : f.spliced = false) (rest : List RecordField)
    (key : String) (v : Value) :
    readNamed (f :: rest) key v =
      if f.name = key then some (f.type.read v) else readNamed rest key v := by
  obtain ⟨name, type, fallback, spliced⟩ := f
  obtain rfl : spliced = false := h
  simp only [readNamed, and_true]

/-- A spliced field decides on no entry. -/
lemma readNamed_cons_of_spliced {f : RecordField} (h : f.spliced = true) (rest : List RecordField)
    (key : String) (v : Value) : readNamed (f :: rest) key v = readNamed rest key v := by
  obtain ⟨name, type, fallback, spliced⟩ := f
  obtain rfl : spliced = true := h
  simp only [readNamed, Bool.true_eq_false, and_false, if_false]

/-- The value under the name of a field is read as the field wants it. -/
lemma readNamed_of_mem {fields : List RecordField} (hflat : ∀ f ∈ fields, f.spliced = false)
    (hnames : (fields.map RecordField.name).Nodup) {f : RecordField} (hf : f ∈ fields)
    (v : Value) : readNamed fields f.name v = some (f.type.read v) := by
  induction fields with
  | nil => cases hf
  | cons g rest ih =>
    obtain ⟨hg, hflat⟩ := List.forall_mem_cons.mp hflat
    obtain ⟨hname, hnames⟩ := List.nodup_cons.mp hnames
    rcases List.mem_cons.mp hf with rfl | hmem
    · rw [readNamed_cons hg, if_pos rfl]
    · have hne : g.name ≠ f.name := fun heq => hname (heq ▸ List.mem_map_of_mem hmem)
      rw [readNamed_cons hg, if_neg hne, ih hflat hnames hmem]

/-- An entry that is read stands under the name of a field. -/
lemma exists_of_readNamed {fields : List RecordField} (hflat : ∀ f ∈ fields, f.spliced = false)
    {key : String} {v : Value} {x : Except ValueError Datum}
    (h : readNamed fields key v = some x) : ∃ f ∈ fields, f.name = key ∧ f.type.read v = x := by
  induction fields with
  | nil => cases h
  | cons g rest ih =>
    obtain ⟨hg, hflat⟩ := List.forall_mem_cons.mp hflat
    rw [readNamed_cons hg] at h
    split_ifs at h with hkey
    · exact ⟨g, List.mem_cons_self, hkey, Option.some.inj h⟩
    · obtain ⟨f, hf, hread⟩ := ih hflat h
      exact ⟨f, List.mem_cons_of_mem _ hf, hread⟩

/-- The datum that a reader of named fields reads from an entry, if it does not fail. -/
def known? (f : String → Value → Option (Except ValueError Datum)) (e : String × Value) :
    Option Datum :=
  (f e.1 e.2).bind Except.toOption

/-- The entries that a reader of named fields does not know. -/
def unknown (f : String → Value → Option (Except ValueError Datum)) (entries : Dict Value) :
    Dict Value :=
  entries.filter fun e => (f e.1 e.2).isNone

/-- Entries are read one by one, and those that the reader does not know are left over. -/
lemma readKnown_eq_ok_iff {f : String → Value → Option (Except ValueError Datum)}
    {entries : Dict Value} {p : Dict Datum × Dict Value} :
    readKnown f entries = .ok p ↔
      (∀ e ∈ entries, ∀ x, f e.1 e.2 = some x → ∃ d, x = .ok d) ∧
        p = (Dict.gather Prod.fst (known? f) entries, unknown f entries) := by
  induction entries generalizing p with
  | nil => simp [readKnown, unknown, eq_comm]
  | cons e rest ih =>
    obtain ⟨k, v⟩ := e
    rw [readKnown, Dict.gather_cons, List.forall_mem_cons, known?, unknown, List.filter_cons]
    dsimp only
    rcases f k v with _ | _ | d
    · rw [map_eq_ok_iff]
      simp [ih, unknown, eq_comm]
    · simp
    · rw [map_eq_ok_iff]
      simp [ih, unknown, Except.toOption, eq_comm, and_assoc]

/-- Under the name of a field stands the datum that the field reads. -/
lemma find?_gather_known? {fields : List RecordField} (hflat : ∀ f ∈ fields, f.spliced = false)
    (hnames : (fields.map RecordField.name).Nodup) {record : Dict Value}
    (hrecord : record.Distinct) {f : RecordField} (hf : f ∈ fields) :
    (Dict.gather Prod.fst (known? (readNamed fields)) record).find? f.name =
      (record.find? f.name).bind fun v => (f.type.read v).toOption := by
  cases hv : record.find? f.name with
  | none =>
    refine Dict.find?_gather_of_notMem ?_
    exact Dict.find?_eq_none_iff.mp hv
  | some v =>
    have hmem : (f.name, v) ∈ record := Dict.mem_of_find? hv
    have hfind : (Dict.gather Prod.fst (known? (readNamed fields)) record).find? (f.name, v).1 =
        known? (readNamed fields) (f.name, v) := Dict.find?_gather hrecord hmem
    rw [known?, readNamed_of_mem hflat hnames hf] at hfind
    exact hfind

/-- The datum of a field from the data read, or the one that stands for a missing value. -/
def RecordField.pick (f : RecordField) (known : Dict Datum) : Except ValueError Datum :=
  match known.find? f.name with
  | some d => .ok d
  | none => f.missing

/-- A field that is not spliced is picked before the fields behind it. -/
lemma assemble_cons {f : RecordField} (h : f.spliced = false) (rest : List RecordField)
    (known : Dict Datum) (others : Dict Value) :
    assemble (f :: rest) known others =
      (f.pick known).bind fun d => (assemble rest known others).map ((f.name, d) :: ·) := by
  obtain ⟨name, type, fallback, spliced⟩ := f
  obtain rfl : spliced = false := h
  simp only [assemble, Bool.false_eq_true, if_false, RecordField.pick]
  cases known.find? name with
  | some d => rfl
  | none =>
    dsimp only
    cases RecordField.missing ⟨name, type, fallback, false⟩ <;> rfl

/-- Fields that are not spliced are assembled one by one. -/
lemma assemble_eq_ok_iff {fields : List RecordField} (hflat : ∀ f ∈ fields, f.spliced = false)
    {known : Dict Datum} {others : Dict Value} {ds : List (String × Datum)} :
    assemble fields known others = .ok ds ↔
      (∀ f ∈ fields, ∃ d, f.pick known = .ok d) ∧
        ds = Dict.gather RecordField.name (fun f => (f.pick known).toOption) fields := by
  induction fields generalizing ds with
  | nil => simp [assemble, eq_comm]
  | cons f rest ih =>
    obtain ⟨hf, hflat⟩ := List.forall_mem_cons.mp hflat
    rw [assemble_cons hf, Dict.gather_cons, List.forall_mem_cons, bind_eq_ok_iff]
    simp only [map_eq_ok_iff, ih hflat]
    cases f.pick known <;> simp [Except.toOption, eq_comm]

section Read

variable {fields : List RecordField} {record : Dict Value}

/-- No known entry fails exactly when every field that finds a value can read it. -/
lemma forall_readNamed_iff (hflat : ∀ f ∈ fields, f.spliced = false)
    (hnames : (fields.map RecordField.name).Nodup) (hrecord : record.Distinct) :
    (∀ e ∈ record, ∀ x, readNamed fields e.1 e.2 = some x → ∃ d, x = .ok d) ↔
      ∀ f ∈ fields, ∀ v, record.find? f.name = some v → ∃ d, f.type.read v = .ok d := by
  constructor
  · intro h f hf v hv
    exact h _ (Dict.mem_of_find? hv) _ (readNamed_of_mem hflat hnames hf v)
  · intro h e he x hx
    obtain ⟨f, hf, hkey, rfl⟩ := exists_of_readNamed hflat hx
    exact h f hf e.2 (hkey ▸ Dict.find?_of_mem hrecord he)

/-- A field picks from the data read what it reads from the map. -/
lemma pick_eq_readAt (hflat : ∀ f ∈ fields, f.spliced = false)
    (hnames : (fields.map RecordField.name).Nodup) (hrecord : record.Distinct) {f : RecordField}
    (hf : f ∈ fields) (hread : ∀ v, record.find? f.name = some v → ∃ d, f.type.read v = .ok d) :
    f.pick (Dict.gather Prod.fst (known? (readNamed fields)) record) = f.readAt record := by
  rw [RecordField.pick, find?_gather_known? hflat hnames hrecord hf, RecordField.readAt]
  cases hv : record.find? f.name with
  | none => rfl
  | some v =>
    obtain ⟨d, hd⟩ := hread v hv
    rw [Option.bind_some]
    dsimp only
    rw [hd]
    rfl

/-- Fields that are not spliced are read from a map and assembled one by one, and the entries that
none of them names are left over.

**Proof sketch.** A field whose name has an entry reads that entry, and the others take what stands
for a missing value. -/
lemma exists_readKnown_iff (hflat : ∀ f ∈ fields, f.spliced = false)
    (hnames : (fields.map RecordField.name).Nodup) (hrecord : record.Distinct)
    (others : Dict Value) (ds : List (String × Datum)) :
    (∃ known, readKnown (readNamed fields) record = .ok (known, others) ∧
        assemble fields known others = .ok ds) ↔
      others = unknown (readNamed fields) record ∧
        (∀ f ∈ fields, ∃ x, f.readAt record = .ok x) ∧
          ds = Dict.gather RecordField.name (RecordField.datum? record) fields := by
  simp only [readKnown_eq_ok_iff, assemble_eq_ok_iff hflat, Prod.mk.injEq,
    forall_readNamed_iff hflat hnames hrecord]
  constructor
  · rintro ⟨_, ⟨hread, rfl, rfl⟩, hpicked, rfl⟩
    have hpick := fun f hf => pick_eq_readAt hflat hnames hrecord hf (hread f hf)
    refine ⟨rfl, fun f hf => hpick f hf ▸ hpicked f hf, Dict.gather_congr fun f hf => ?_⟩
    rw [hpick f hf, RecordField.datum?]
  · rintro ⟨rfl, hreadAt, rfl⟩
    have hread : ∀ f ∈ fields, ∀ v, record.find? f.name = some v → ∃ d, f.type.read v = .ok d := by
      intro f hf v hv
      have hfield := hreadAt f hf
      rwa [RecordField.readAt, hv] at hfield
    have hpick := fun f hf => pick_eq_readAt hflat hnames hrecord hf (hread f hf)
    refine ⟨_, ⟨hread, rfl, rfl⟩, fun f hf => (hpick f hf).symm ▸ hreadAt f hf,
      Dict.gather_congr fun f hf => ?_⟩
    rw [hpick f hf, RecordField.datum?]

/-- A map is read into a record field by field. -/
theorem read_record_eq_ok_iff (hflat : ∀ f ∈ fields, f.spliced = false)
    (hnames : (fields.map RecordField.name).Nodup) (hrecord : record.Distinct) (name : String)
    {d : Datum} :
    (DataType.record name fields).read (.map record) = .ok d ↔
      (∀ f ∈ fields, ∃ x, f.readAt record = .ok x) ∧
        d = .record (Dict.gather RecordField.name (RecordField.datum? record) fields) := by
  have hfields := exists_readKnown_iff hflat hnames hrecord
  rw [DataType.read]
  cases hknown : readKnown (readNamed fields) record with
  | error e =>
    have hfail : ¬∀ f ∈ fields, ∃ x, f.readAt record = .ok x := by
      intro hread
      obtain ⟨known, hknown', -⟩ := (hfields _ _).mpr ⟨rfl, hread, rfl⟩
      rw [hknown] at hknown'
      cases hknown'
    simp [hfail]
  | ok p =>
    dsimp only
    rw [map_eq_ok_iff]
    constructor
    · rintro ⟨ds, hds, rfl⟩
      obtain ⟨-, hread, rfl⟩ := (hfields _ _).mp ⟨p.1, hknown, hds⟩
      exact ⟨hread, rfl⟩
    · rintro ⟨hread, rfl⟩
      obtain ⟨known, hknown', hds⟩ := (hfields _ _).mpr ⟨rfl, hread, rfl⟩
      obtain rfl := Except.ok.inj (hknown.symm.trans hknown')
      exact ⟨_, hds, rfl⟩

/-- The entry of a name that no field has is among the entries that are left over. -/
lemma find?_unknown (hflat : ∀ f ∈ fields, f.spliced = false) (hrecord : record.Distinct)
    {key : String} (hkey : key ∉ fields.map RecordField.name) :
    (unknown (readNamed fields) record).find? key = record.find? key := by
  have hnone : ∀ v, readNamed fields key v = none := by
    refine fun v => Option.eq_none_iff_forall_ne_some.mpr fun x hx => hkey ?_
    obtain ⟨f, hf, hname, -⟩ := exists_of_readNamed hflat hx
    exact List.mem_map.mpr ⟨f, hf, hname⟩
  have hdistinct : (unknown (readNamed fields) record).Distinct :=
    hrecord.sublist (List.filter_sublist.map _)
  cases hv : record.find? key with
  | some v =>
    refine Dict.find?_of_mem hdistinct (List.mem_filter.mpr ⟨Dict.mem_of_find? hv, ?_⟩)
    rw [hnone v]
    rfl
  | none =>
    refine Dict.find?_eq_none_iff.mpr fun hmem => Dict.find?_eq_none_iff.mp hv ?_
    exact (List.filter_sublist.map _).subset hmem

end Read

/-! ### Spliced records -/

section Spliced

variable {f : RecordField} {innerName : String} (inner rest : List RecordField)

/-- A spliced record is read from the entries that are left over, before the fields behind it. -/
lemma assemble_cons_of_spliced (hf : f.spliced = true) (htype : f.type = .record innerName inner)
    (hinner : ∀ g ∈ inner, g.spliced = false) (hnames : (inner.map RecordField.name).Nodup)
    {others : Dict Value} (hothers : others.Distinct) (known : Dict Datum)
    (ds : List (String × Datum)) :
    assemble (f :: rest) known others = .ok ds ↔
      (∀ g ∈ inner, ∃ x, g.readAt others = .ok x) ∧
        ∃ more, assemble rest known others = .ok more ∧
          Dict.gather RecordField.name (RecordField.datum? others) inner ++ more = ds := by
  have hread := fun d => read_record_eq_ok_iff hinner hnames hothers innerName (d := d)
  obtain ⟨name, type, fallback, spliced⟩ := f
  obtain rfl : spliced = true := hf
  obtain rfl : type = .record innerName inner := htype
  rw [assemble, if_pos rfl]
  cases hd : (DataType.record innerName inner).read (.map others) with
  | error e =>
    have hfail : ¬∀ g ∈ inner, ∃ x, g.readAt others = .ok x := by
      intro h
      rw [(hread _).mpr ⟨h, rfl⟩] at hd
      cases hd
    simp [hfail]
  | ok d =>
    obtain ⟨h, rfl⟩ := (hread d).mp hd
    dsimp only
    rw [map_eq_ok_iff]
    exact ⟨fun hmore => ⟨h, hmore⟩, And.right⟩

/-- A record that starts with a spliced one is read field by field, the fields of the spliced one
first.

**Proof sketch.** The entries that the other fields do not name are left over, and among them stand
all those that the fields of the spliced record name. -/
theorem read_spliced_eq_ok_iff (hf : f.spliced = true) (htype : f.type = .record innerName inner)
    (hinner : ∀ g ∈ inner, g.spliced = false) (hrest : ∀ g ∈ rest, g.spliced = false)
    (hnames : ((inner ++ rest).map RecordField.name).Nodup) {record : Dict Value}
    (hrecord : record.Distinct) (name : String) {d : Datum} :
    (DataType.record name (f :: rest)).read (.map record) = .ok d ↔
      (∀ g ∈ inner ++ rest, ∃ x, g.readAt record = .ok x) ∧
        d = .record (Dict.gather RecordField.name (RecordField.datum? record) (inner ++ rest)) := by
  rw [List.map_append, List.nodup_append] at hnames
  obtain ⟨hinnerNames, hrestNames, hdisjoint⟩ := hnames
  have hreader : readNamed (f :: rest) = readNamed rest :=
    funext fun key => funext fun v => readNamed_cons_of_spliced hf rest key v
  have hothers : (unknown (readNamed rest) record).Distinct :=
    hrecord.sublist (List.filter_sublist.map _)
  have hleft : ∀ g ∈ inner, g.readAt (unknown (readNamed rest) record) = g.readAt record := by
    intro g hg
    have hkey : g.name ∉ rest.map RecordField.name :=
      fun h => hdisjoint _ (List.mem_map_of_mem hg) _ h rfl
    rw [RecordField.readAt, RecordField.readAt, find?_unknown hrest hrecord hkey]
  have hgather : Dict.gather RecordField.name (RecordField.datum? record) (inner ++ rest) =
      Dict.gather RecordField.name (RecordField.datum? (unknown (readNamed rest) record)) inner ++
        Dict.gather RecordField.name (RecordField.datum? record) rest := by
    rw [Dict.gather, List.filterMap_append]
    refine congrArg (· ++ _) (Dict.gather_congr fun g hg => ?_)
    rw [RecordField.datum?, RecordField.datum?, hleft g hg]
  have hassemble := assemble_cons_of_spliced inner rest hf htype hinner hinnerNames hothers
  have hfields := exists_readKnown_iff hrest hrestNames hrecord
  rw [DataType.read, hreader, hgather, List.forall_mem_append]
  constructor
  · intro h
    cases hknown : readKnown (readNamed rest) record with
    | error e =>
      rw [hknown] at h
      cases h
    | ok p =>
      rw [hknown] at h
      obtain ⟨ds, hds, rfl⟩ := map_eq_ok_iff.mp h
      obtain ⟨-, rfl⟩ := readKnown_eq_ok_iff.mp hknown
      obtain ⟨hread, more, hmore, rfl⟩ := (hassemble _ _).mp hds
      obtain ⟨-, hread', rfl⟩ := (hfields _ _).mp ⟨_, hknown, hmore⟩
      exact ⟨⟨fun g hg => hleft g hg ▸ hread g hg, hread'⟩, rfl⟩
  · rintro ⟨⟨hread, hread'⟩, rfl⟩
    obtain ⟨known, hknown, hmore⟩ := (hfields _ _).mpr ⟨rfl, hread', rfl⟩
    rw [hknown]
    exact map_eq_ok_iff.mpr ⟨_, (hassemble _ _).mpr
      ⟨fun g hg => (hleft g hg).symm ▸ hread g hg, _, hmore, rfl⟩, rfl⟩

end Spliced

/-! ### Writing -/

/-- Fields with new and distinct names are written one by one. -/
theorem fieldValues_eq_ok_iff {fields : Dict Datum} (hnames : fields.Distinct)
    {done n : Dict Value} (hnew : ∀ key ∈ fields.keys, key ∉ done.keys) :
    Datum.fieldValues fields done = .ok n ↔
      (∀ e ∈ fields, ∃ v, e.2.toValue = .ok v) ∧
        n = done ++ Dict.gather Prod.fst (fun e => e.2.toValue.toOption) fields := by
  induction fields generalizing done with
  | nil => simp [Datum.fieldValues, eq_comm]
  | cons e rest ih =>
    obtain ⟨name, d⟩ := e
    obtain ⟨hname, hnames⟩ := List.nodup_cons.mp hnames
    obtain ⟨hfresh, hnew⟩ := List.forall_mem_cons.mp hnew
    rw [Dict.gather_cons, List.forall_mem_cons, Datum.fieldValues]
    dsimp only at hfresh ⊢
    cases d.toValue with
    | error e => simp
    | ok v =>
      have hnext : ∀ key ∈ Dict.keys rest, key ∉ (done.insert name v).keys := by
        intro key hkey hmem
        rcases Dict.mem_keys_insert.mp hmem with rfl | hin
        · exact hname hkey
        · exact hnew key hkey hin
      simpa [Except.toOption, Dict.insert_of_notMem v hfresh] using ih hnames hnext

end Intake
