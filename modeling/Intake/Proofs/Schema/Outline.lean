import Intake.Proofs.Schema.Layout

set_option autoImplicit false

/-!
# Records that follow layouts

The shape of a record and its codec follow a layout when the shape has the fields of the layout,
the codec reads them, and the record is made of them. Fields of an embedded record count as fields
of the record, for the shape as for the codec.

## Main definitions

* `Layout.Outlines` — the shape and the codec of a record follow a layout.

## Main results

* `Layout.Outlines.coerce_eq_ok_iff` — a map becomes a record field by field.
* `Layout.Outlines.exists_written`, `Layout.Outlines.exists_restored` — a record is written
  parameter by parameter, and what is sound is written so that it is read again.
-/

namespace Intake

/-- A map becomes a record when its shape coerces it and its codec reads the result. -/
lemma Record.coerce_map_eq_ok_iff {α : Type} [Record α] {source : Dict Value} {a : α} :
    (Record.coerce (.map source) : Except CoerceError α) = .ok a ↔
      ∃ n, (Record.shape α).coerceInto source [] = .ok n ∧
        ∃ d, (DataCodec.dataType α).read (.map n) = .ok d ∧ ofDatum? d = some a := by
  rw [Record.coerce, coerceValue, Target.coerce_record]
  cases (Record.shape α).coerceInto source [] with
  | error e => simp [Except.map]
  | ok n =>
    simp only [Except.map, Record.ofNormalized, Record.read, Except.ok.injEq, exists_eq_left']
    cases (DataCodec.dataType α).read (.map n) with
    | error e => simp
    | ok d =>
      dsimp only
      cases h : (ofDatum? d : Option α) with
      | none => simp [h]
      | some b => simp [h]

/-- The shape of a record and its codec follow a layout. -/
structure Layout.Outlines {α γ : Type} [Record α] (layout : Layout α γ) (make : γ) : Prop where
  ofDatum?_record : ∀ ds, (ofDatum? (Datum.record ds) : Option α) = layout.assemble? make ds
  recovers : layout.Recovers make fun _ => True
  flattened : (Record.shape α).flattened = layout.shapes
  embedsRecords : (Record.shape α).EmbedsRecords
  read_eq_ok_iff : ∀ {record : Dict Value}, record.Distinct → ∀ {d : Datum},
    (DataCodec.dataType α).read (.map record) = .ok d ↔
      (∀ f ∈ layout.data, ∃ x, f.readAt record = .ok x) ∧
        d = .record (Dict.gather RecordField.name (RecordField.datum? record) layout.data)
  toDatum_eq : ∀ a : α, toDatum a = .record (layout.written a)
  names : (layout.shapes.map FieldShape.name).Nodup
  keys : (layout.shapes.map FieldShape.sourceKey).Nodup

namespace Layout

variable {α γ : Type}

/-! ### Records without embedded records -/

/-- The fields of the codec have the names of the fields of the shape. -/
lemma map_name_data (L : Layout α γ) :
    L.data.map RecordField.name = L.shapes.map FieldShape.name := by
  induction L with
  | done => rfl
  | field p get rest ih => exact congrArg (p.name :: ·) ih

/-- The fields of the codec are not spliced. -/
lemma not_spliced_of_mem_data (L : Layout α γ) : ∀ f ∈ L.data, f.spliced = false := by
  induction L with
  | done => simp [data]
  | field p get rest ih => exact List.forall_mem_cons.mpr ⟨rfl, ih⟩

/-- The fields of a layout are their own flattened fields. -/
lemma flattenedFields_shapes (L : Layout α γ) : flattenedFields L.shapes = L.shapes := by
  induction L with
  | done => rfl
  | field p get rest ih => exact congrArg (p.toColumn.shape :: ·) ih

/-- The fields of a layout embed nothing. -/
lemma fieldsEmbedRecords_shapes (L : Layout α γ) : FieldsEmbedRecords L.shapes := by
  induction L with
  | done => trivial
  | field p get rest ih => exact ⟨Bool.noConfusion, ih⟩

variable [Record α] {layout : Layout α γ} {make : γ}

/-- A record whose shape and codec list the fields of a layout follows it. -/
lemma Outlines.of_fields {dataName : String} (recovers : layout.Recovers make fun _ => True)
    (ofDatum?_record : ∀ ds, (ofDatum? (Datum.record ds) : Option α) = layout.assemble? make ds :=
      by exact fun _ => rfl)
    (shape_fields : (Record.shape α).fields = layout.shapes := by rfl)
    (dataType_eq : DataCodec.dataType α = .record dataName layout.data := by rfl)
    (toDatum_eq : ∀ a : α, toDatum a = .record (layout.written a) := by exact fun _ => rfl)
    (names : (layout.shapes.map FieldShape.name).Nodup := by decide)
    (keys : (layout.shapes.map FieldShape.sourceKey).Nodup := by decide) :
    layout.Outlines make where
  ofDatum?_record := ofDatum?_record
  recovers := recovers
  flattened := by rw [Shape.flattened_eq, shape_fields, flattenedFields_shapes]
  embedsRecords := by
    rw [Shape.embedsRecords_eq, shape_fields]
    exact layout.fieldsEmbedRecords_shapes
  read_eq_ok_iff := by
    intro record hrecord d
    rw [dataType_eq]
    exact read_record_eq_ok_iff layout.not_spliced_of_mem_data (layout.map_name_data ▸ names)
      hrecord dataName
  toDatum_eq := toDatum_eq
  names := names
  keys := keys

/-! ### Coercing -/

/-- What the fields of the shape give for a map. -/
def coerced (layout : Layout α γ) (source : Dict Value) : Dict Value :=
  Dict.gather FieldShape.name (FieldShape.coerced? source) layout.shapes

namespace Outlines

/-- The parts of a record are the values that it is made of. -/
lemma inverts (h : layout.Outlines make) : layout.Inverts make :=
  (inverts_of_recovers h.recovers).2

/-- A map becomes a record when its shape coerces every field and its codec reads every field. -/
theorem coerce_eq_ok_iff (h : layout.Outlines make) {source : Dict Value} {a : α} :
    (Record.coerce (.map source) : Except CoerceError α) = .ok a ↔
      (∀ f ∈ layout.shapes, ∃ w, f.coerceAt source = .ok w) ∧
        (∀ f ∈ layout.data, ∃ d, f.readAt (layout.coerced source) = .ok d) ∧
          layout.assemble? make (Dict.gather RecordField.name
            (RecordField.datum? (layout.coerced source)) layout.data) = some a := by
  have hcoerce : ∀ n, (Record.shape α).coerceInto source [] = .ok n ↔
      (∀ f ∈ layout.shapes, ∃ w, f.coerceAt source = .ok w) ∧
        n = layout.coerced source := by
    intro n
    rw [← toOption_eq_some_iff, Shape.toOption_coerceInto source _ [] h.embedsRecords,
      toOption_eq_some_iff, h.flattened, coerceFields_eq_ok_iff
        (fun _ => not_embedded_of_mem_shapes) h.names (by simp), List.nil_append]
    rfl
  have hdistinct : (layout.coerced source).Distinct := Dict.distinct_gather h.names
  have hread := fun d => h.read_eq_ok_iff hdistinct (d := d)
  rw [Record.coerce_map_eq_ok_iff]
  constructor
  · rintro ⟨n, hn, d, hd, ha⟩
    obtain ⟨hshape, rfl⟩ := (hcoerce n).mp hn
    obtain ⟨hdata, rfl⟩ := (hread d).mp hd
    exact ⟨hshape, hdata, h.ofDatum?_record _ ▸ ha⟩
  · rintro ⟨hshape, hdata, ha⟩
    exact ⟨_, (hcoerce _).mpr ⟨hshape, rfl⟩, _, (hread _).mpr ⟨hdata, rfl⟩,
      (h.ofDatum?_record _).trans ha⟩

/-- A record is written into a well-formed map under the keys of its parameters, where the value of
each parameter stands. -/
theorem exists_written (h : layout.Outlines make) {a : α}
    (hwrites : layout.Forall fun _ _ p get => p.Writes (get a)) :
    ∃ record restored : Dict Value, (toDatum a).toValue = .ok (.map record) ∧
      restoreValue (.record (Record.shape α)) (.map record) = .map restored ∧
        (Value.map restored).WellFormed ∧
          (∀ key ∈ restored.keys, key ∈ layout.shapes.map FieldShape.sourceKey) ∧
            layout.Forall fun _ _ p get =>
              (restored.find? p.key).getD .null = p.value (get a) := by
  refine ⟨layout.record a, layout.restored a, ?_, ?_, wellFormed_restored h.names h.keys hwrites,
    fun _ => mem_sourceKeys_of_mem_restored h.keys, forall_find?_restored h.names h.keys hwrites⟩
  · rw [h.toDatum_eq, toValue_written h.names hwrites]
  · rw [restoreValue, Target.restore, Shape.restoreFrom_flattened, h.flattened]
    rfl

/-- What is sound is written into a well-formed map under the keys of its parameters, from which it
is read again. -/
theorem exists_restored (h : layout.Outlines make) {n : Nat} {a : α}
    (hsound : layout.Forall fun _ _ p get => p.Sound n (get a)) :
    ∃ record restored : Dict Value, (toDatum a).toValue = .ok (.map record) ∧
      restoreValue (.record (Record.shape α)) (.map record) = .map restored ∧
        (Value.map restored).WellFormed ∧
          (∀ key ∈ restored.keys, key ∈ layout.shapes.map FieldShape.sourceKey) ∧
            layout.read? make (fun key => (restored.find? key).getD .null) =
              some (layout.rebuild make a) := by
  obtain ⟨record, restored, hvalue, hrestore, hwf, hkeys, hvalues⟩ :=
    h.exists_written (hsound.imp fun _ _ p _ hp => (p.value_of_sound hp).1)
  refine ⟨record, restored, hvalue, hrestore, hwf, hkeys, read?_of_forall make ?_⟩
  refine (hsound.and hvalues).imp ?_
  rintro β codec p get ⟨hp, heq⟩
  rw [heq]
  exact (p.value_of_sound hp).2

end Outlines

end Layout

end Intake
