import Intake.Proofs.Record.Stability

set_option autoImplicit false

/-!
# Coerced values inhabit their target

A coerced value has the form that its target asks for, at every depth: scalars have the kind of the
target, lists and maps hold items of theirs, and a record holds its fields and nothing else. It also
keeps the form of its source: lists keep their length and maps their keys. Targets without records
only judge, so that a value passes them exactly when it has that form already.

## Main definitions

* `Target.Conforms` — the values that a target asks for.
* `Target.Tracks` — a value that keeps the form of its source.
* `Target.RecordFree` — a target without records.

## Main results

* `Target.normalizes` — what a target coerces conforms to it and keeps the form of its source.
* `Target.judges` — targets without records take the values that conform to them.
* `coerceValue_conforms` — both from the top.
-/

namespace Intake

/-! ### Definitions -/

namespace Target

/-- The values that a target asks for. -/
inductive Conforms : Target → Value → Prop
  | any {v : Value} : Conforms .any v
  /-- A scalar has the kind of the target. -/
  | scalar {t : Target} {kind : ValueKind} {v : Value} :
      t.scalarKind? = some kind → v.kind = kind → Conforms t v
  | list {item : Target} {items : List Value} :
      (∀ v ∈ items, Conforms item v) → Conforms (.list item) (.list items)
  | map {item : Target} {entries : Dict Value} :
      (∀ e ∈ entries, Conforms item e.2) → Conforms (.map item) (.map entries)
  | null {inner : Target} : Conforms (.optional inner) .null
  | optional {inner : Target} {v : Value} : Conforms inner v → Conforms (.optional inner) v
  /-- The keys of a record are names of its flattened fields, with all required ones among them, and
  no value is null. If the names tell the fields apart, what stands under the name of a field
  conforms to its target. -/
  | record {shape : Shape} {entries : Dict Value} :
      (∀ key ∈ entries.keys, key ∈ shape.flattened.map FieldShape.name) →
      (∀ f ∈ shape.flattened, f.required = true → f.name ∈ entries.keys) →
      (∀ e ∈ entries, e.2 ≠ .null) →
      ((shape.flattened.map FieldShape.name).Nodup →
        ∀ f ∈ shape.flattened, ∀ v, entries.find? f.name = some v → Conforms f.target v) →
      Conforms (.record shape) (.map entries)

/-- A value that keeps the form of its source along a target. -/
inductive Tracks : Target → Value → Value → Prop
  | any {v : Value} : Tracks .any v v
  | scalar {t : Target} {kind : ValueKind} {v w : Value} :
      t.scalarKind? = some kind → Tracks t v w
  /-- A list has as many items as its source. -/
  | list {item : Target} {items ws : List Value} :
      ws.length = items.length → (∀ p ∈ items.zip ws, Tracks item p.1 p.2) →
      Tracks (.list item) (.list items) (.list ws)
  /-- A map has the keys of its source in the same order. -/
  | map {item : Target} {entries ws : Dict Value} :
      ws.keys = entries.keys → (∀ p ∈ entries.zip ws, Tracks item p.1.2 p.2.2) →
      Tracks (.map item) (.map entries) (.map ws)
  | null {inner : Target} : Tracks (.optional inner) .null .null
  | optional {inner : Target} {v w : Value} : Tracks inner v w → Tracks (.optional inner) v w
  /-- If the names of a record tell its flattened fields apart, a field is there exactly when its
  source key is present, and its value keeps the form of what is present. -/
  | record {shape : Shape} {source entries : Dict Value} :
      ((shape.flattened.map FieldShape.name).Nodup → ∀ f ∈ shape.flattened,
        (f.name ∈ entries.keys ↔ ∃ v, presentAt? source f.sourceKey = some v)) →
      ((shape.flattened.map FieldShape.name).Nodup → ∀ f ∈ shape.flattened, ∀ v w,
        presentAt? source f.sourceKey = some v → entries.find? f.name = some w →
          Tracks f.target v w) →
      Tracks (.record shape) (.map source) (.map entries)

/-- A target without records. -/
def RecordFree : Target → Prop
  | .list item => item.RecordFree
  | .map item => item.RecordFree
  | .optional inner => inner.RecordFree
  | .record _ => False
  | _ => True
termination_by structural target => target

/-! ### The form of single values -/

/-- The values of a scalar target are those of its kind. -/
lemma conforms_iff_of_scalarKind? {t : Target} {kind : ValueKind} {v : Value}
    (ht : t.scalarKind? = some kind) : t.Conforms v ↔ v.kind = kind := by
  constructor
  · rintro (_ | ⟨hother, hv⟩ | _ | _ | _ | _ | _)
    all_goals first | cases ht | exact hv.trans (Option.some.inj (hother.symm.trans ht))
  · exact .scalar ht

/-- The values of a list target are lists of values of the inner target. -/
lemma conforms_list_iff {item : Target} {v : Value} :
    (Target.list item).Conforms v ↔ ∃ items, v = .list items ∧ ∀ w ∈ items, item.Conforms w := by
  constructor
  · rintro (_ | ⟨ht, _⟩ | h | _ | _ | _ | _)
    · cases ht
    · exact ⟨_, rfl, h⟩
  · rintro ⟨items, rfl, h⟩
    exact .list h

/-- The values of a map target are maps to values of the inner target. -/
lemma conforms_map_iff {item : Target} {v : Value} :
    (Target.map item).Conforms v ↔
      ∃ entries, v = .map entries ∧ ∀ e ∈ entries, item.Conforms e.2 := by
  constructor
  · rintro (_ | ⟨ht, _⟩ | _ | h | _ | _ | _)
    · cases ht
    · exact ⟨_, rfl, h⟩
  · rintro ⟨entries, rfl, h⟩
    exact .map h

/-- The values of an optional target are null and those of the inner target. -/
lemma conforms_optional_iff {inner : Target} {v : Value} :
    (Target.optional inner).Conforms v ↔ v = .null ∨ inner.Conforms v := by
  constructor
  · rintro (_ | ⟨ht, _⟩ | _ | _ | _ | h | _)
    · cases ht
    · exact .inl rfl
    · exact .inr h
  · rintro (rfl | h)
    · exact .null
    · exact .optional h

end Target

/-! ### What a record holds -/

namespace Shape

variable {shape : Shape} {source n : Dict Value} (hn : shape.coerceInto source [] = .ok n)

include hn

/-- The fields of a record insert what they read. -/
lemma eq_ofEntries_of_coerceInto : n = Dict.ofEntries
    (Dict.gather FieldShape.name (FieldShape.coerced? source) shape.flattened) :=
  ((coerceFields_eq_ok_iff_foldl fun _ => shape.not_embedded_of_mem_flattened).mp
    (shape.coerceInto_eq_ok_iff.mp hn).2).2

/-- No field of a record fails. -/
lemma exists_coerceAt_of_coerceInto {f : FieldShape} (hf : f ∈ shape.flattened) :
    ∃ w, f.coerceAt source = .ok w :=
  ((coerceFields_eq_ok_iff_foldl fun _ => shape.not_embedded_of_mem_flattened).mp
    (shape.coerceInto_eq_ok_iff.mp hn).2).1 f hf

/-- A field that reads something is in the record. -/
lemma name_mem_keys_of_coerceInto {f : FieldShape} (hf : f ∈ shape.flattened) {w : Value}
    (hw : f.coerceAt source = .ok (some w)) : f.name ∈ n.keys := by
  have hentry : (f.name, w) ∈
      Dict.gather FieldShape.name (FieldShape.coerced? source) shape.flattened :=
    Dict.mem_gather.mpr ⟨f, hf, rfl, FieldShape.coerced?_of_coerceAt hw⟩
  rw [eq_ofEntries_of_coerceInto hn, Dict.mem_keys_ofEntries]
  exact List.mem_map_of_mem hentry

/-- The keys of a record are names of its fields. -/
lemma mem_names_of_coerceInto {key : String} (hkey : key ∈ n.keys) :
    key ∈ shape.flattened.map FieldShape.name := by
  rw [eq_ofEntries_of_coerceInto hn, Dict.mem_keys_ofEntries] at hkey
  exact Dict.mem_keys_gather hkey

/-- No value of a record is null. -/
lemma ne_null_of_coerceInto : ∀ e ∈ n, e.2 ≠ .null := by
  rw [eq_ofEntries_of_coerceInto hn]
  intro e he
  obtain ⟨f, -, -, hw⟩ := Dict.mem_gather.mp (Dict.mem_ofEntries he)
  obtain ⟨v, hv, hvw⟩ := FieldShape.coerceAt_eq_some_iff.mp (FieldShape.coerced?_eq_some_iff.mp hw)
  exact coerce_ne_null _ (presentAt?_eq_some_iff.mp hv).2 hvw

/-- Under distinct names a record holds what each field reads. -/
lemma find?_of_coerceInto (hnames : (shape.flattened.map FieldShape.name).Nodup) {f : FieldShape}
    (hf : f ∈ shape.flattened) : n.find? f.name = f.coerced? source := by
  rw [eq_ofEntries_of_coerceInto hn, (Dict.distinct_gather hnames).ofEntries_eq,
    Dict.find?_gather hnames hf]

/-- A field whose source key is present is in the record. -/
lemma name_mem_keys_of_present {f : FieldShape} (hf : f ∈ shape.flattened) {v : Value}
    (hv : presentAt? source f.sourceKey = some v) : f.name ∈ n.keys := by
  obtain ⟨_ | w, hw⟩ := exists_coerceAt_of_coerceInto hn hf
  · rw [(FieldShape.coerceAt_eq_none_iff.mp hw).1] at hv
    cases hv
  · exact name_mem_keys_of_coerceInto hn hf hw

/-- A required field is in the record. -/
lemma name_mem_keys_of_required {f : FieldShape} (hf : f ∈ shape.flattened)
    (hrequired : f.required = true) : f.name ∈ n.keys := by
  obtain ⟨_ | w, hw⟩ := exists_coerceAt_of_coerceInto hn hf
  · rw [(FieldShape.coerceAt_eq_none_iff.mp hw).2] at hrequired
    cases hrequired
  · exact name_mem_keys_of_coerceInto hn hf hw

/-- Under distinct names, what a record holds for a field is what its target coerces. -/
lemma coerce_of_find? (hnames : (shape.flattened.map FieldShape.name).Nodup) {f : FieldShape}
    (hf : f ∈ shape.flattened) {w : Value} (hw : n.find? f.name = some w) :
    ∃ v, presentAt? source f.sourceKey = some v ∧ f.target.coerce f.convert v = .ok w := by
  rw [find?_of_coerceInto hn hnames hf, FieldShape.coerced?_eq_some_iff] at hw
  exact FieldShape.coerceAt_eq_some_iff.mp hw

end Shape

/-! ### What a target coerces -/

namespace Target

/-- A target coerces values to such as conform to it and keep the form of their source. -/
def Normalizes (t : Target) : Prop :=
  ∀ convert v w, t.coerce convert v = .ok w → t.Conforms w ∧ t.Tracks v w

/-- Scalar targets yield scalars of their kind. -/
lemma normalizes_of_scalarKind? {t : Target} {kind : ValueKind} (ht : t.scalarKind? = some kind) :
    t.Normalizes := by
  intro convert v w h
  exact ⟨.scalar ht (kind_of_coerce ht h), .scalar ht⟩

/-- A list target yields as many items as it is given, each normalized. -/
lemma Normalizes.list {item : Target} (h : item.Normalizes) : (Target.list item).Normalizes := by
  intro convert v w hv
  obtain ⟨items, ws, rfl, rfl, hcoerced⟩ := coerce_list_eq_ok_iff.mp hv
  have hitems : List.Forall₂ (fun v w => item.Conforms w ∧ item.Tracks v w) items ws :=
    hcoerced.imp fun v w => h false v w
  obtain ⟨hlength, hzip⟩ := List.forall₂_iff_zip.mp hitems
  refine ⟨.list fun w hw => ?_, .list hlength.symm fun p hp => (hzip hp).2⟩
  obtain ⟨v, -, hvw⟩ := exists_mem_of_forall₂ hitems hw
  exact hvw.1

/-- A map target yields the keys that it is given, each with its value normalized. -/
lemma Normalizes.map {item : Target} (h : item.Normalizes) : (Target.map item).Normalizes := by
  intro convert v w hv
  obtain ⟨entries, ws, rfl, rfl, hcoerced⟩ := coerce_map_eq_ok_iff.mp hv
  have hentries : List.Forall₂
      (fun e e' => e'.1 = e.1 ∧ item.Conforms e'.2 ∧ item.Tracks e.2 e'.2) entries ws :=
    hcoerced.imp fun e e' he => ⟨he.1, h false e.2 e'.2 he.2⟩
  have hkeys : Dict.keys ws = Dict.keys entries :=
    Dict.keys_eq_of_forall₂ (fun _ _ he => he.1) hentries
  refine ⟨.map fun e' he' => ?_, .map hkeys fun p hp => ?_⟩
  · obtain ⟨e, -, -, hconforms, -⟩ := exists_mem_of_forall₂ hentries he'
    exact hconforms
  · exact ((List.forall₂_iff_zip.mp hentries).2 hp).2.2

/-- An optional target yields null for null, and else what the inner target yields. -/
lemma Normalizes.optional {inner : Target} (h : inner.Normalizes) :
    (Target.optional inner).Normalizes := by
  intro convert v w hv
  by_cases hnull : v = .null
  · subst hnull
    cases hv
    exact ⟨.null, .null⟩
  · rw [coerce_optional hnull] at hv
    obtain ⟨hconforms, htracks⟩ := h convert v w hv
    exact ⟨.optional hconforms, .optional htracks⟩

/-- A record target yields what its flattened fields read, under their names.

**Proof sketch.** The record is built by inserting what the fields read. So its keys are the names
of fields that read something, among them all required ones, and no value is null because no field
reads null. Under distinct names each field finds what it read itself. -/
lemma Normalizes.record {shape : Shape} (h : ∀ f ∈ shape.flattened, f.target.Normalizes) :
    (Target.record shape).Normalizes := by
  intro convert v w hv
  obtain ⟨source, n, rfl, rfl, hn⟩ := coerce_record_eq_ok_iff.mp hv
  constructor
  -- what the record holds for a field was read from the source, and so inhabits its target
  · refine .record (fun key => Shape.mem_names_of_coerceInto hn)
      (fun f => Shape.name_mem_keys_of_required hn) (Shape.ne_null_of_coerceInto hn) ?_
    intro hnames f hf w hw
    obtain ⟨v, -, hvw⟩ := Shape.coerce_of_find? hn hnames hf hw
    exact (h f hf _ v w hvw).1
  · refine .record (fun hnames f hf => ⟨fun hkey => ?_, ?_⟩) ?_
    · obtain ⟨w, hw⟩ := Dict.exists_find?_of_mem_keys hkey
      obtain ⟨v, hv, -⟩ := Shape.coerce_of_find? hn hnames hf hw
      exact ⟨v, hv⟩
    · rintro ⟨v, hv⟩
      exact Shape.name_mem_keys_of_present hn hf hv
    · intro hnames f hf v w hv hw
      obtain ⟨_, hpresent, hvw⟩ := Shape.coerce_of_find? hn hnames hf hw
      obtain rfl := Option.some.inj (hpresent.symm.trans hv)
      exact (h f hf _ _ w hvw).2

/-- What a target coerces conforms to it and keeps the form of its source. -/
theorem normalizes (t : Target) : t.Normalizes := by
  induction t using Target.induction with
  | any => exact fun _ _ _ hv => Except.ok.inj hv ▸ ⟨.any, .any⟩
  | scalar t kind ht => exact normalizes_of_scalarKind? ht
  | list item ih => exact ih.list
  | map item ih => exact ih.map
  | optional inner ih => exact ih.optional
  | record shape ih => exact .record ih

/-! ### Targets that only judge -/

/-- A target without conversions takes the values that conform to it and leaves them as they are. -/
def Judges (t : Target) : Prop :=
  ∀ v w, t.coerce false v = .ok w ↔ t.Conforms v ∧ w = v

/-- Scalar targets judge. -/
lemma judges_of_scalarKind? {t : Target} {kind : ValueKind} (ht : t.scalarKind? = some kind) :
    t.Judges := by
  intro v w
  rw [coerce_false_eq_ok_iff ht, conforms_iff_of_scalarKind? ht]

/-- Items that satisfy a condition and stay as they are, one by one and together. -/
lemma forall₂_and_eq_iff {α : Type} {P : α → Prop} {as bs : List α} :
    List.Forall₂ (fun a b => P a ∧ b = a) as bs ↔ (∀ a ∈ as, P a) ∧ bs = as := by
  rw [List.forall₂_and_left, and_congr_right_iff]
  intro _
  rw [← List.forall₂_eq_eq_eq]
  exact ⟨List.Forall₂.flip, List.Forall₂.flip⟩

/-- A list of judged items is judged. -/
lemma Judges.list {item : Target} (h : item.Judges) : (Target.list item).Judges := by
  intro v w
  rw [coerce_list_eq_ok_iff, conforms_list_iff]
  simp only [h _ _, forall₂_and_eq_iff]
  constructor
  · rintro ⟨items, ws, rfl, rfl, hconforms, rfl⟩
    exact ⟨⟨_, rfl, hconforms⟩, rfl⟩
  · rintro ⟨⟨items, rfl, hconforms⟩, rfl⟩
    exact ⟨items, _, rfl, rfl, hconforms, rfl⟩

/-- A map of judged values is judged. -/
lemma Judges.map {item : Target} (h : item.Judges) : (Target.map item).Judges := by
  intro v w
  have hentry : ∀ e e' : String × Value, e'.1 = e.1 ∧ item.coerce false e.2 = .ok e'.2 ↔
      item.Conforms e.2 ∧ e' = e := by
    intro e e'
    rw [h, Prod.ext_iff]
    exact and_left_comm
  rw [coerce_map_eq_ok_iff, conforms_map_iff]
  simp only [hentry, forall₂_and_eq_iff]
  constructor
  · rintro ⟨entries, ws, rfl, rfl, hconforms, rfl⟩
    exact ⟨⟨_, rfl, hconforms⟩, rfl⟩
  · rintro ⟨⟨entries, rfl, hconforms⟩, rfl⟩
    exact ⟨entries, _, rfl, rfl, hconforms, rfl⟩

/-- An optional target judges what is not null as the inner target does. -/
lemma Judges.optional {inner : Target} (h : inner.Judges) : (Target.optional inner).Judges := by
  intro v w
  rw [conforms_optional_iff]
  by_cases hnull : v = .null
  · subst hnull
    have hcoerce : (Target.optional inner).coerce false .null = .ok .null := rfl
    simp [hcoerce, eq_comm]
  · rw [coerce_optional hnull, h, or_iff_right hnull]

/-- Targets without records judge. -/
theorem judges (t : Target) : t.RecordFree → t.Judges := by
  induction t using Target.induction with
  | any =>
    exact fun _ v w => ⟨fun h => ⟨.any, (Except.ok.inj h).symm⟩, fun h => congrArg _ h.2.symm⟩
  | scalar t kind ht => exact fun _ => judges_of_scalarKind? ht
  | list item ih => exact fun h => (ih h).list
  | map item ih => exact fun h => (ih h).map
  | optional inner ih => exact fun h => (ih h).optional
  | record shape => exact False.elim

end Target

/-- **Coerced values inhabit their target.** Whatever a target coerces conforms to it and keeps the
form of its source, and a target without records takes exactly the values that conform to it and
leaves them as they are.

**Proof sketch.** Induction over the target, where a record is taken apart by its flattened fields
(`Target.normalizes`, `Target.judges`). -/
theorem coerceValue_conforms (t : Target) (source : Value) :
    (∀ n, coerceValue t source = .ok n → t.Conforms n ∧ t.Tracks source n) ∧
      (t.RecordFree → ∀ n, coerceValue t source = .ok n ↔ t.Conforms source ∧ n = source) :=
  ⟨fun n => t.normalizes false source n, fun h n => t.judges h source n⟩

end Intake
