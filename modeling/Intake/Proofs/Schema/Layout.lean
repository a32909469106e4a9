import Intake.Proofs.Data.Values
import Intake.Proofs.Record.Column
import Intake.Proofs.Record.Stability
import Intake.Schema.MetaForm

set_option autoImplicit false

/-!
# Layouts of records

The layout of a record lists its parameters in order, each with its laws: what it reads from a
value of some depth is sound, and what is sound is written so that it is read again. The laws of the
record follow from those of its parameters.

## Main definitions

* `Parameter` — a column with its laws.
* `Layout` — the parameters of a record, with the constructor that they are given to.
* `Layout.read?`, `Layout.written` — a record from given values, and its fields on the way out.
* `Layout.Forall` — what holds of every parameter.

## Main results

* `Layout.read?_eq_some_iff` — the form, the shape and the codec of a record, parameter by
  parameter.
* `Layout.sound_of_read?`, `Layout.read?_of_forall` — the laws of a record.

## Design

The parameters of a record are of different types, so the layout is indexed by the type of the
function that still waits for the values of its parameters.
-/

namespace Intake

/-- A column with its laws. Elements are sound up to a depth, which bounds how deep the values nest
that they were read from. -/
structure Parameter (β : Type) [DataCodec β] extends Column β where
  closed : ∀ r ∈ chain, r.Closed
  /-- Whether an element is not written. -/
  leftOut : β → Bool
  Sound : Nat → β → Prop
  sound_of_read? : ∀ {n : Nat} {v : Value} {b : β},
    v.Fits n → toColumn.read? v = some b → Sound n b
  read?_of_sound : ∀ {n : Nat} {b : β}, Sound n b → ∃ w, (toDatum b).toValue = .ok w ∧
    (target.restore w).WellFormed ∧
      toColumn.read? (if leftOut b then .null else target.restore w) = some b

/-- The value that an element is written as, which is null if the element is left out. -/
def Parameter.value {β : Type} [DataCodec β] (p : Parameter β) (b : β) : Value :=
  if p.leftOut b then .null else p.target.restore ((toDatum b).toValue.toOption.getD .null)

/-- An element is written as a well-formed value. -/
def Parameter.Writes {β : Type} [DataCodec β] (p : Parameter β) (b : β) : Prop :=
  (∃ w, (toDatum b).toValue = .ok w) ∧ (p.value b).WellFormed

/-- A sound element is written, and is read from what is written. -/
lemma Parameter.value_of_sound {β : Type} [DataCodec β] (p : Parameter β) {n : Nat} {b : β}
    (h : p.Sound n b) : p.Writes b ∧ p.toColumn.read? (p.value b) = some b := by
  obtain ⟨w, hw, hwf, hread⟩ := p.read?_of_sound h
  have hvalue : p.value b = if p.leftOut b then .null else p.target.restore w := by
    rw [Parameter.value, hw]
    rfl
  refine ⟨⟨⟨w, hw⟩, ?_⟩, hvalue ▸ hread⟩
  rw [hvalue]
  split_ifs
  · trivial
  · exact hwf

/-- The parameters of a record, in order, with the function that takes their values. -/
inductive Layout (α : Type) : Type → Type 1 where
  | done : Layout α α
  | field {β γ : Type} {codec : DataCodec β} (p : Parameter β) (get : α → β) (rest : Layout α γ) :
    Layout α (β → γ)

namespace Layout

variable {α : Type}

/-- The fields of the form. -/
def fields {γ : Type} : Layout α γ → List Field
  | .done => []
  | .field p _ rest => p.toColumn.field :: rest.fields

/-- The fields of the shape. -/
def shapes {γ : Type} : Layout α γ → List FieldShape
  | .done => []
  | .field p _ rest => p.toColumn.shape :: rest.shapes

/-- The fields of the codec. -/
def data {γ : Type} : Layout α γ → List RecordField
  | .done => []
  | .field p _ rest => p.toColumn.data :: rest.data

/-- The record that given values make, if every parameter takes its value. -/
def read? {γ : Type} : Layout α γ → γ → (String → Value) → Option α
  | .done, a, _ => some a
  | .field p _ rest, make, look =>
    (p.toColumn.read? (look p.key)).bind fun b => rest.read? (make b) look

/-- The record that some data make. -/
def assemble? {γ : Type} : Layout α γ → γ → List (String × Datum) → Option α
  | .done, a => endOfRecord? a
  | .field _ _ rest, make => nextField? fun b => rest.assemble? (make b)

/-- The fields of a record on their way out. -/
def written {γ : Type} : Layout α γ → α → List (String × Datum)
  | .done, _ => []
  | .field p get rest, a => fieldUnless (p.leftOut (get a)) p.name (get a) ++ rest.written a

/-- The record that the function makes of the parts of a record. -/
def rebuild {γ : Type} : Layout α γ → γ → α → α
  | .done, made, _ => made
  | .field _ get rest, make, a => rest.rebuild (make (get a)) a

/-- The function makes a record of some values. -/
def Yields {γ : Type} : Layout α γ → γ → α → Prop
  | .done, made, a => made = a
  | .field _ _ rest, make, a => ∃ b, rest.Yields (make b) a

/-- The parts of a record that the function makes are the values that it takes. -/
def Inverts {γ : Type} : Layout α γ → γ → Prop
  | .done, _ => True
  | .field _ get rest, make =>
    (∀ b a, rest.Yields (make b) a → get a = b) ∧ ∀ b, rest.Inverts (make b)

/-- A record made of any values gives them back, beside what holds of it otherwise. -/
def Recovers {γ : Type} : Layout α γ → γ → (α → Prop) → Prop
  | .done, made, P => P made
  | .field _ get rest, make, P => ∀ b, rest.Recovers (make b) fun a => get a = b ∧ P a

/-- Something holds of every parameter. -/
def Forall {γ : Type} (P : ∀ (β : Type) [DataCodec β], Parameter β → (α → β) → Prop) :
    Layout α γ → Prop
  | .done => True
  | .field p get rest => P _ p get ∧ rest.Forall P

section Forall

variable {γ : Type} {P Q : ∀ (β : Type) [DataCodec β], Parameter β → (α → β) → Prop}

/-- What follows for every parameter. -/
lemma Forall.imp {L : Layout α γ} (h : L.Forall P)
    (himp : ∀ (β : Type) [DataCodec β] (p : Parameter β) (get : α → β), P β p get → Q β p get) :
    L.Forall Q := by
  induction L with
  | done => trivial
  | field p get rest ih => exact ⟨himp _ p get h.1, ih h.2⟩

/-- Two facts that hold of every parameter. -/
lemma Forall.and {L : Layout α γ} (hp : L.Forall P) (hq : L.Forall Q) :
    L.Forall fun β _ p get => P β p get ∧ Q β p get := by
  induction L with
  | done => trivial
  | field p get rest ih => exact ⟨⟨hp.1, hq.1⟩, ih hp.2 hq.2⟩

/-- What holds of every field of the shape holds of every parameter. -/
lemma forall_shapes_iff {R : FieldShape → Prop} {L : Layout α γ} :
    (∀ f ∈ L.shapes, R f) ↔ L.Forall fun _ _ p _ => R p.toColumn.shape := by
  induction L with
  | done => simp [shapes, Forall]
  | field p get rest ih => rw [shapes, List.forall_mem_cons, ih, Forall]

end Forall

/-- The rules of a layout are closed. -/
lemma closed_of_mem_fields {γ : Type} (L : Layout α γ) :
    ∀ f ∈ L.fields, ∀ r ∈ f.chain, r.Closed := by
  induction L with
  | done => simp [fields]
  | field p get rest ih => exact List.forall_mem_cons.mpr ⟨p.closed, ih⟩

/-! ### Reading -/

section Read

variable {γ : Type}

/-- A record is read parameter by parameter from given values when its form passes every value, its
shape coerces what the form leaves and its codec reads what the shape gives. -/
theorem read?_eq_some_iff (L : Layout α γ) (make : γ) {input checked record : Dict Value} {a : α}
    (hchecked : ∀ f ∈ L.fields, checked.find? f.name = f.left? input)
    (hrecord : ∀ f ∈ L.shapes, record.find? f.name = f.coerced? checked) :
    L.read? make (fun key => (input.find? key).getD .null) = some a ↔
      (∀ f ∈ L.fields, ∃ s, f.outcome? input = some s) ∧
        (∀ f ∈ L.shapes, ∃ w, f.coerceAt checked = .ok w) ∧
          (∀ f ∈ L.data, ∃ d, f.readAt record = .ok d) ∧
            L.assemble? make (Dict.gather RecordField.name (RecordField.datum? record) L.data) =
              some a := by
  induction L with
  | done => simp [read?, fields, shapes, data, assemble?, endOfRecord?]
  | field p get rest ih =>
    obtain ⟨hpchecked, hchecked⟩ := List.forall_mem_cons.mp hchecked
    obtain ⟨hprecord, hrecord⟩ := List.forall_mem_cons.mp hrecord
    have hp := fun b => p.toColumn.read?_eq_some_iff (b := b) hpchecked hprecord
    simp only [read?, fields, shapes, data, List.forall_mem_cons, Option.bind_eq_some_iff,
      hp, ih _ hchecked hrecord, Dict.gather_cons]
    constructor
    · rintro ⟨b, ⟨hs, hw, d, hd, hb⟩, hfields, hshapes, hdata, hrest⟩
      refine ⟨⟨hs, hfields⟩, ⟨hw, hshapes⟩, ⟨⟨d, hd⟩, hdata⟩, ?_⟩
      have hdatum : RecordField.datum? record p.toColumn.data = some d :=
        toOption_eq_some_iff.mpr hd
      rw [hdatum]
      simpa [assemble?, nextField?, hb] using hrest
    · rintro ⟨⟨hs, hfields⟩, ⟨hw, hshapes⟩, ⟨⟨d, hd⟩, hdata⟩, hrest⟩
      have hdatum : RecordField.datum? record p.toColumn.data = some d :=
        toOption_eq_some_iff.mpr hd
      rw [hdatum] at hrest
      obtain ⟨b, hb, hrest⟩ := Option.bind_eq_some_iff.mp hrest
      exact ⟨b, ⟨hs, hw, d, hd, hb⟩, hfields, hshapes, hdata, hrest⟩

/-- What is read is a record that the function makes. -/
lemma yields_of_read? {L : Layout α γ} {make : γ} {look : String → Value} {a : α}
    (h : L.read? make look = some a) : L.Yields make a := by
  induction L with
  | done => exact Option.some.inj h
  | field p get rest ih =>
    obtain ⟨b, -, hrest⟩ := Option.bind_eq_some_iff.mp h
    exact ⟨b, ih hrest⟩

/-- A record that the function makes is made of its parts. -/
lemma rebuild_of_yields {L : Layout α γ} {make : γ} {a : α} (hinv : L.Inverts make)
    (h : L.Yields make a) : L.rebuild make a = a := by
  induction L with
  | done => exact h
  | field p get rest ih =>
    obtain ⟨b, hb⟩ := h
    rw [rebuild, hinv.1 b a hb]
    exact ih (hinv.2 b) hb

/-- A record that gives back its values is inverted by its parts. -/
lemma inverts_of_recovers {L : Layout α γ} {make : γ} {P : α → Prop} (h : L.Recovers make P) :
    (∀ a, L.Yields make a → P a) ∧ L.Inverts make := by
  induction L generalizing P with
  | done => exact ⟨fun a ha => ha ▸ h, trivial⟩
  | field p get rest ih =>
    refine ⟨fun a ha => ?_, fun b a ha => ?_, fun b => (ih (h b)).2⟩
    · obtain ⟨b, hb⟩ := ha
      exact ((ih (h b)).1 a hb).2
    · exact ((ih (h b)).1 a ha).1

/-- The parts of a record are read from the values of its parameters. -/
theorem forall_read? {L : Layout α γ} {make : γ} {look : String → Value} {a : α}
    (hinv : L.Inverts make) (h : L.read? make look = some a) :
    L.Forall fun _ _ p get => p.toColumn.read? (look p.key) = some (get a) := by
  induction L with
  | done => trivial
  | field p get rest ih =>
    obtain ⟨b, hb, hrest⟩ := Option.bind_eq_some_iff.mp h
    rw [Forall, hinv.1 b a (yields_of_read? hrest)]
    exact ⟨hb, ih (hinv.2 b) hrest⟩

/-- What is read from values that fit is sound. -/
theorem sound_of_read? {L : Layout α γ} {make : γ} {look : String → Value} {a : α} {n : Nat}
    (hinv : L.Inverts make) (hfits : ∀ key, (look key).Fits n)
    (h : L.read? make look = some a) : L.Forall fun _ _ p get => p.Sound n (get a) :=
  (forall_read? hinv h).imp fun _ _ p _ => p.sound_of_read? (hfits p.key)

end Read

/-! ### Writing -/

section Write

variable {γ : Type} {L : Layout α γ} {a : α}

/-- The fields that are written are fields of the shape. -/
lemma mem_names_of_mem_written {key : String} (h : key ∈ Dict.keys (L.written a)) :
    key ∈ L.shapes.map FieldShape.name := by
  induction L with
  | done => cases h
  | field p get rest ih =>
    rw [written, Dict.keys_append, List.mem_append] at h
    rcases h with hfirst | hrest
    · rw [fieldUnless] at hfirst
      split_ifs at hfirst
      · cases hfirst
      · rw [List.mem_singleton.mp hfirst]
        exact List.mem_cons_self
    · exact List.mem_cons_of_mem _ (ih hrest)

/-- No field is written twice. -/
lemma distinct_written (hnames : (L.shapes.map FieldShape.name).Nodup) :
    Dict.Distinct (L.written a) := by
  induction L with
  | done => exact Dict.distinct_nil
  | field p get rest ih =>
    obtain ⟨hname, hnames⟩ := List.nodup_cons.mp hnames
    rw [written, fieldUnless]
    split_ifs
    · exact ih hnames
    · exact List.nodup_cons.mpr ⟨fun h => hname (mem_names_of_mem_written h), ih hnames⟩

/-- A field is written unless it is left out. -/
lemma forall_written (hnames : (L.shapes.map FieldShape.name).Nodup) :
    L.Forall fun _ _ p get =>
      if p.leftOut (get a) then p.name ∉ Dict.keys (L.written a)
      else (p.name, toDatum (get a)) ∈ L.written a := by
  induction L with
  | done => trivial
  | field p get rest ih =>
    obtain ⟨hname, hnames⟩ := List.nodup_cons.mp hnames
    have hother : ∀ f ∈ rest.shapes, f.name ≠ p.name :=
      fun f hf heq => hname (List.mem_map.mpr ⟨f, hf, heq⟩)
    refine ⟨?_, ((ih hnames).and (forall_shapes_iff.mp hother)).imp ?_⟩
    · dsimp only
      rw [written, fieldUnless]
      split_ifs
      · exact fun h => hname (mem_names_of_mem_written h)
      · exact List.mem_cons_self
    · rintro β codec q get ⟨hq, hne⟩
      have hne : q.name ≠ p.name := hne
      rw [written, fieldUnless]
      split_ifs at hq ⊢
      · exact hq
      · simpa [Dict.keys, fieldDatum, hne] using hq
      · exact hq
      · exact List.mem_cons_of_mem _ hq

/-- The record that the fields are written into. -/
def record {γ : Type} (L : Layout α γ) (a : α) : Dict Value :=
  Dict.gather Prod.fst (fun e => e.2.toValue.toOption) (L.written a)

/-- Under the name of a field stands what it writes. -/
lemma forall_find?_record (hnames : (L.shapes.map FieldShape.name).Nodup) :
    L.Forall fun _ _ p get => (L.record a).find? p.name =
      if p.leftOut (get a) then none else (toDatum (get a)).toValue.toOption := by
  refine (forall_written (a := a) hnames).imp ?_
  intro β codec p get h
  split_ifs at h ⊢
  · exact Dict.find?_gather_of_notMem h
  · exact Dict.find?_gather (distinct_written hnames) h

/-- The map that the record is restored to. -/
def restored {γ : Type} (L : Layout α γ) (a : α) : Dict Value :=
  restoreFields L.shapes (L.record a) []

/-- The fields of a layout are not embedded. -/
lemma not_embedded_of_mem_shapes {f : FieldShape} (hf : f ∈ L.shapes) : f.embedded = false := by
  have hall : L.Forall fun _ _ p _ => p.toColumn.shape.embedded = false := by
    clear hf
    induction L with
    | done => trivial
    | field p get rest ih => exact ⟨rfl, ih⟩
  exact (forall_shapes_iff (R := fun f => f.embedded = false)).mpr hall f hf

/-- The restored map gathers what the fields give back. -/
lemma restored_eq (hkeys : (L.shapes.map FieldShape.sourceKey).Nodup) :
    L.restored a =
      Dict.gather FieldShape.sourceKey (fun f => f.restoreAt? (L.record a)) L.shapes :=
  restoreFields_eq_gather _ (fun _ => not_embedded_of_mem_shapes) hkeys fun _ _ => by simp

/-- Restoring keeps what is present. -/
lemma present?_restore (t : Target) (w : Value) :
    (present? (some w)).map t.restore = present? (some (t.restore w)) := by
  by_cases hw : w = .null
  · rw [hw, restore_null]
    rfl
  · rw [present?_of_ne_null hw, present?_of_ne_null (restore_ne_null t hw)]
    rfl

/-- A field gives back the value of its parameter, unless it is null. -/
lemma forall_restoreAt? (hnames : (L.shapes.map FieldShape.name).Nodup)
    (hwrites : L.Forall fun _ _ p get => p.Writes (get a)) :
    L.Forall fun _ _ p get => (p.value (get a)).WellFormed ∧
      p.toColumn.shape.restoreAt? (L.record a) = present? (some (p.value (get a))) := by
  refine (hwrites.and (forall_find?_record (a := a) hnames)).imp ?_
  rintro β codec p get ⟨⟨⟨w, hw⟩, hwf⟩, hfind⟩
  refine ⟨hwf, ?_⟩
  have hname : p.toColumn.shape.name = p.name := rfl
  have htarget : p.toColumn.shape.target = p.target := rfl
  rw [FieldShape.restoreAt?, hname, htarget, Column.presentAt?_eq, hfind, Parameter.value, hw]
  split_ifs
  · rfl
  · exact present?_restore p.target w

/-- Under the key of a parameter stands its value. -/
lemma forall_find?_restored (hnames : (L.shapes.map FieldShape.name).Nodup)
    (hkeys : (L.shapes.map FieldShape.sourceKey).Nodup)
    (hwrites : L.Forall fun _ _ p get => p.Writes (get a)) :
    L.Forall fun _ _ p get => ((L.restored a).find? p.key).getD .null = p.value (get a) := by
  have hfind : ∀ f ∈ L.shapes,
      (L.restored a).find? f.sourceKey = f.restoreAt? (L.record a) := by
    intro f hf
    rw [restored_eq hkeys, Dict.find?_gather hkeys hf]
  refine ((forall_shapes_iff.mp hfind).and (forall_restoreAt? hnames hwrites)).imp ?_
  rintro β codec p get ⟨hkey, -, hback⟩
  have hkey : (L.restored a).find? p.key = _ := hkey
  rw [hkey, hback]
  by_cases hnull : p.value (get a) = .null
  · rw [hnull]
    rfl
  · rw [present?_of_ne_null hnull]
    rfl

/-- The restored map is well formed. -/
lemma wellFormed_restored (hnames : (L.shapes.map FieldShape.name).Nodup)
    (hkeys : (L.shapes.map FieldShape.sourceKey).Nodup)
    (hwrites : L.Forall fun _ _ p get => p.Writes (get a)) :
    (Value.map (L.restored a)).WellFormed := by
  have hall : ∀ f ∈ L.shapes, ∀ v, f.restoreAt? (L.record a) = some v → v.WellFormed := by
    refine forall_shapes_iff.mpr ((forall_restoreAt? hnames hwrites).imp ?_)
    rintro β codec p get ⟨hwf, hback⟩ v hv
    rw [hback, present?_eq_some_iff, Option.some.injEq] at hv
    exact hv.1 ▸ hwf
  rw [Value.wellFormed_map_iff, restored_eq hkeys]
  refine ⟨Dict.distinct_gather hkeys, fun e he => ?_⟩
  obtain ⟨f, hf, hv⟩ := List.mem_filterMap.mp he
  obtain ⟨v, hback, rfl⟩ := Option.map_eq_some_iff.mp hv
  exact hall f hf v hback

/-- The keys of the restored map are keys of parameters. -/
lemma mem_sourceKeys_of_mem_restored (hkeys : (L.shapes.map FieldShape.sourceKey).Nodup)
    {key : String} (h : key ∈ (L.restored a).keys) : key ∈ L.shapes.map FieldShape.sourceKey := by
  rw [restored_eq hkeys] at h
  exact Dict.mem_keys_gather h

/-- The fields are written into a record. -/
lemma toValue_written (hnames : (L.shapes.map FieldShape.name).Nodup)
    (hwrites : L.Forall fun _ _ p get => p.Writes (get a)) :
    (Datum.record (L.written a)).toValue = .ok (.map (L.record a)) := by
  have hall : ∀ e ∈ L.written a, ∃ v, e.2.toValue = .ok v := by
    clear hnames
    induction L with
    | done => simp [written]
    | field p get rest ih =>
      intro e he
      rcases List.mem_append.mp he with hfirst | hrest
      · rw [fieldUnless] at hfirst
        split_ifs at hfirst
        · cases hfirst
        · rw [List.mem_singleton.mp hfirst]
          exact hwrites.1.1
      · exact ih hwrites.2 e hrest
  rw [Datum.toValue, (fieldValues_eq_ok_iff (distinct_written hnames) (by simp)).mpr ⟨hall, rfl⟩]
  rfl

/-- A record is read when its parts are, one by one. -/
lemma read?_of_forall {γ : Type} {L : Layout α γ} (make : γ) {look : String → Value}
    (h : L.Forall fun _ _ p get => p.toColumn.read? (look p.key) = some (get a)) :
    L.read? make look = some (L.rebuild make a) := by
  induction L with
  | done => rfl
  | field p get rest ih =>
    rw [read?, h.1]
    exact ih (make (get a)) h.2

end Write

end Layout

end Intake
