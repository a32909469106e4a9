import Intake.Proofs.Schema.Outline

set_option autoImplicit false

/-!
# Forms that agree with records

The form of some parameters, the shape of their record and its codec agree when all three follow
one layout. Then parameters are read one by one, and what was read is written so that it is read
again.

## Main definitions

* `Layout.Agrees` — a form, a shape and a codec that follow a layout.
* `Schema` — a form, a record and the layout that both follow.
* `Schema.read?` — parameters as a record, one by one.
* `Schema.Sound` — a record of sound parameters.

## Main results

* `Schema.readParameters_eq_ok_iff` — the way from parameters to a record is `Schema.read?`.
* `Schema.sound_of_read?`, `Schema.exists_restored` — what is read is sound, and what is sound is
  written so that it is read again.
-/

namespace Intake

/-- The form of some parameters, the shape of their record and its codec follow a layout. -/
structure Layout.Agrees {α γ : Type} [Record α] (layout : Layout α γ) (form : Form) (make : γ)
    (dataName : String) : Prop where
  ofDatum?_record : ∀ ds, (ofDatum? (Datum.record ds) : Option α) = layout.assemble? make ds := by
    exact fun _ => rfl
  recovers : layout.Recovers make fun _ => True
  fields_perm : form.fields.Perm layout.fields := by exact .refl _
  sanitizeKeys : form.sanitizeKeys = false := by rfl
  transforms : form.transforms = [] := by rfl
  hook : form.hook = none := by rfl
  shape_fields : (Record.shape α).fields = layout.shapes := by rfl
  dataType_eq : DataCodec.dataType α = .record dataName layout.data := by rfl
  toDatum_eq : ∀ a : α, toDatum a = .record (layout.written a) := by exact fun _ => rfl
  names : (layout.shapes.map FieldShape.name).Nodup := by decide
  keys : (layout.shapes.map FieldShape.sourceKey).Nodup := by decide
  named : Field.wildcardName ∉ layout.shapes.map FieldShape.sourceKey := by decide

/-- A form and a record that follow one layout. -/
structure Schema (α : Type) [Record α] where
  form : Form
  {Make : Type}
  /-- The constructor of the record. -/
  make : Make
  layout : Layout α Make
  dataName : String
  agrees : layout.Agrees form make dataName

namespace Layout

variable {α γ : Type}

/-- The fields of the form have the keys of the fields of the shape. -/
lemma map_name_fields (L : Layout α γ) :
    L.fields.map Field.name = L.shapes.map FieldShape.sourceKey := by
  induction L with
  | done => rfl
  | field p get rest ih => exact congrArg (p.key :: ·) ih

end Layout

namespace Schema

variable {α : Type} [Record α] (S : Schema α)

/-- The record of a schema follows its layout. -/
lemma outlines : S.layout.Outlines S.make :=
  .of_fields S.agrees.recovers S.agrees.ofDatum?_record S.agrees.shape_fields S.agrees.dataType_eq
    S.agrees.toDatum_eq S.agrees.names S.agrees.keys

/-- Parameters as a record, one by one: an unexpected key fails. -/
def read? (input : Dict Value) : Option α :=
  if S.form.unexpected input = [] then
    S.layout.read? S.make fun key => (input.find? key).getD .null
  else none

/-- A record is made of its parameters, which are sound. -/
structure Sound (n : Nat) (a : α) : Prop where
  rebuild : S.layout.rebuild S.make a = a
  params : S.layout.Forall fun _ _ p get => p.Sound n (get a)

/-- The form of a schema is fieldwise. -/
lemma fieldwise : S.form.Fieldwise where
  closed f hf := S.layout.closed_of_mem_fields f (S.agrees.fields_perm.mem_iff.mp hf)
  names := by
    rw [(S.agrees.fields_perm.map Field.name).nodup_iff, Layout.map_name_fields]
    exact S.agrees.keys
  named := by
    rw [(S.agrees.fields_perm.map Field.name).mem_iff, Layout.map_name_fields]
    exact S.agrees.named
  sanitizeKeys := S.agrees.sanitizeKeys
  transforms := S.agrees.transforms
  hook := S.agrees.hook

/-- Parameters become a record when the form passes them and what it leaves can be coerced. -/
theorem read?_eq_some_iff {input : Dict Value} {a : α} :
    S.read? input = some a ↔
      ∃ checked, S.form.validate input = .ok checked ∧
        (Record.coerce (.map checked) : Except CoerceError α) = .ok a := by
  simp only [Form.validate_eq_ok_iff S.fieldwise, S.outlines.coerce_eq_ok_iff, read?]
  have hfields : ∀ f, f ∈ S.form.fields ↔ f ∈ S.layout.fields :=
    fun _ => S.agrees.fields_perm.mem_iff
  have hlook : ∀ f ∈ S.layout.fields,
      (Dict.gather Field.name (Field.left? input) S.form.fields).find? f.name = f.left? input :=
    fun f hf => Dict.find?_gather S.fieldwise.names ((hfields f).mpr hf)
  have hcoerced : ∀ checked, ∀ f ∈ S.layout.shapes,
      (S.layout.coerced checked).find? f.name = f.coerced? checked :=
    fun _ _ hf => Dict.find?_gather S.agrees.names hf
  have hread := Layout.read?_eq_some_iff S.layout S.make (a := a) hlook (hcoerced _)
  constructor
  · intro h
    split_ifs at h with hkeys
    obtain ⟨houtcome, hshape, hdata, ha⟩ := hread.mp h
    exact ⟨_, ⟨hkeys, fun f hf => houtcome f ((hfields f).mp hf), rfl⟩, hshape, hdata, ha⟩
  · rintro ⟨checked, ⟨hkeys, houtcome, rfl⟩, hshape, hdata, ha⟩
    rw [if_pos hkeys]
    exact hread.mpr ⟨fun f hf => houtcome f ((hfields f).mpr hf), hshape, hdata, ha⟩

/-- The way from parameters to a record is parameter by parameter. -/
theorem readParameters_eq_ok_iff (typeName : String) {input : Dict Value} {a : α} :
    readParameters typeName S.form input = .ok a ↔ S.read? input = some a := by
  rw [S.read?_eq_some_iff, readParameters]
  cases S.form.validate input with
  | error e => simp
  | ok checked =>
    simp [mapError_eq_ok_iff]

/-! ### The laws of a schema -/

/-- The parts of a record are read from the values under the keys of its parameters. -/
theorem forall_read? {input : Dict Value} {a : α} (h : S.read? input = some a) :
    S.layout.Forall fun _ _ p get =>
      p.toColumn.read? ((input.find? p.key).getD .null) = some (get a) := by
  rw [read?] at h
  split_ifs at h with hkeys
  exact Layout.forall_read? S.outlines.inverts h

/-- What is read from a well-formed map of some depth is sound up to that depth. -/
theorem sound_of_read? {input : Dict Value} (hinput : (Value.map input).WellFormed) {n : Nat}
    (hdepth : Value.depthOfEntries input ≤ n) {a : α} (h : S.read? input = some a) :
    S.Sound n a := by
  rw [read?] at h
  split_ifs at h with hkeys
  have hfits : ∀ key, ((input.find? key).getD .null).Fits n := fun key =>
    ⟨(Value.fits_find? hinput key).wellFormed,
      Nat.le_trans (Value.fits_find? hinput key).depth_le hdepth⟩
  exact ⟨Layout.rebuild_of_yields S.outlines.inverts (Layout.yields_of_read? h),
    Layout.sound_of_read? S.outlines.inverts hfits h⟩

/-- A form whose fields name all keys of a map expects them. -/
lemma unexpected_eq_nil {input : Dict Value}
    (h : ∀ key ∈ input.keys, key ∈ S.layout.shapes.map FieldShape.sourceKey) :
    S.form.unexpected input = [] := by
  have hdeclares : ∀ key ∈ input.keys, S.form.declares key = true := by
    intro key hkey
    rw [← Layout.map_name_fields] at h
    obtain ⟨f, hf, rfl⟩ := List.mem_map.mp (h key hkey)
    exact List.any_eq_true.mpr ⟨f, S.agrees.fields_perm.mem_iff.mpr hf, beq_self_eq_true _⟩
  rw [Form.unexpected, Form.sanitized, S.fieldwise.sanitizeKeys]
  split_ifs
  · rw [List.filter_eq_nil_iff]
    intro key hkey
    simp [hdeclares key hkey]
  · rfl

/-- What is sound is written into a well-formed map, from which it is read again. -/
theorem exists_restored {n : Nat} {a : α} (h : S.Sound n a) :
    ∃ record restored : Dict Value, (toDatum a).toValue = .ok (.map record) ∧
      restoreValue (.record (Record.shape α)) (.map record) = .map restored ∧
        (Value.map restored).WellFormed ∧ S.read? restored = some a := by
  obtain ⟨record, restored, hvalue, hrestore, hwf, hkeys, hread⟩ :=
    S.outlines.exists_restored h.params
  refine ⟨record, restored, hvalue, hrestore, hwf, ?_⟩
  rw [read?, if_pos (S.unexpected_eq_nil hkeys), hread, h.rebuild]

/-- What was read from well-formed parameters is written so that it is read again. -/
theorem exists_writeParameters {n : Nat} {a : α} (h : S.Sound n a) :
    ∃ params, writeParameters a = .ok params ∧ (Value.map params).WellFormed ∧
      S.read? params = some a := by
  obtain ⟨record, restored, hvalue, hrestore, hwf, hread⟩ := S.exists_restored h
  refine ⟨restored, ?_, hwf, hread⟩
  rw [writeParameters, Record.restore, Record.toValue, hvalue]
  dsimp only
  rw [hrestore]
  rfl

end Schema

end Intake
