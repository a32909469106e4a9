import Intake.Proofs.Record.Walk
import Intake.Proofs.Value.Dict
import Mathlib.Tactic.SplitIfs

set_option autoImplicit false

/-!
# Flattened records

An embedded record reads from the enclosing map and writes into the enclosing record, so a shape
coerces and restores like the list of its fields with those of embedded records in their places.
Without embedded fields, and with distinct keys, each field gives its entry on its own.

## Main definitions

* `Shape.flattened` — the fields of a shape with those of embedded records in their places.
* `Shape.EmbedsRecords` — every embedded field is a record.
* `FieldShape.coerced?`, `FieldShape.restoreAt?` — what a single field reads and writes.

## Main results

* `toOption_coerceFields`, `restoreFields_flattened` — embedded records can be flattened.
* `coerceFields_eq_ok_iff`, `restoreFields_eq_gather` — fields that are not embedded, one by one.
-/

namespace Intake

/-! ### Flattening -/

mutual

/-- The fields of a shape with those of embedded records in their places. -/
def Shape.flattened : Shape → List FieldShape
  | ⟨_, fields⟩ => flattenedFields fields
termination_by structural shape => shape

/-- Fields with those of embedded records in their places. -/
def flattenedFields : List FieldShape → List FieldShape
  | [] => []
  | ⟨name, sourceKey, target, required, convert, embedded⟩ :: fields =>
    (if embedded then target.flattened
      else [⟨name, sourceKey, target, required, convert, embedded⟩]) ++ flattenedFields fields
termination_by structural fields => fields

/-- The fields of an embedded record; other targets hold none. -/
def Target.flattened : Target → List FieldShape
  | .record shape => shape.flattened
  | _ => []
termination_by structural target => target

end

mutual

/-- Every embedded field of a shape is a record, and so are those embedded there. -/
def Shape.EmbedsRecords : Shape → Prop
  | ⟨_, fields⟩ => FieldsEmbedRecords fields
termination_by structural shape => shape

/-- Every embedded field is a record, and so are those embedded there. -/
def FieldsEmbedRecords : List FieldShape → Prop
  | [] => True
  | ⟨_, _, target, _, _, embedded⟩ :: fields =>
    (embedded = true → target.IsEmbeddable) ∧ FieldsEmbedRecords fields
termination_by structural fields => fields

/-- A target is a record that embeds only records. -/
def Target.IsEmbeddable : Target → Prop
  | .record shape => shape.EmbedsRecords
  | _ => False
termination_by structural target => target

end

mutual

/-- The flattened fields of a shape are not embedded. -/
theorem Shape.not_embedded_of_mem_flattened {f : FieldShape} :
    ∀ s : Shape, f ∈ s.flattened → f.embedded = false
  | ⟨_, fields⟩, h => not_embedded_of_mem_flattenedFields fields h
termination_by structural s => s

/-- Flattened fields are not embedded. -/
theorem not_embedded_of_mem_flattenedFields {f : FieldShape} :
    ∀ fields : List FieldShape, f ∈ flattenedFields fields → f.embedded = false
  | [], h => by cases h
  | ⟨_, _, target, _, _, embedded⟩ :: fields, h => by
    rcases List.mem_append.mp h with hfirst | hrest
    · cases embedded with
      | true => exact target.not_embedded_of_mem_flattened hfirst
      | false => rw [List.mem_singleton.mp hfirst]
    · exact not_embedded_of_mem_flattenedFields fields hrest
termination_by structural fields => fields

/-- The flattened fields of an embedded record are not embedded. -/
theorem Target.not_embedded_of_mem_flattened {f : FieldShape} :
    ∀ t : Target, f ∈ t.flattened → f.embedded = false
  | .record shape, h => shape.not_embedded_of_mem_flattened h
  | .any, h | .bool, h | .int, h | .float, h | .string, h | .bytes, h | .list _, h | .map _, h
  | .optional _, h => by cases h
termination_by structural t => t

end

/-! ### Fields one by one -/

/-- What a field reads from a map, if it does not fail. -/
def FieldShape.coerced? (source : Dict Value) (f : FieldShape) : Option Value :=
  match f.coerceAt source with
  | .ok w => w
  | .error _ => none

/-- What a field gives back from a record. -/
def FieldShape.restoreAt? (f : FieldShape) (record : Dict Value) : Option Value :=
  (presentAt? record f.name).map f.target.restore

namespace FieldShape

variable {f : FieldShape} {source : Dict Value}

/-- A field reads a value when it is present and its target coerces it. -/
lemma coerceAt_eq_some_iff {w : Value} :
    f.coerceAt source = .ok (some w) ↔
      ∃ v, presentAt? source f.sourceKey = some v ∧ f.target.coerce f.convert v = .ok w := by
  rw [coerceAt]
  cases presentAt? source f.sourceKey with
  | none => cases f.required <;> simp
  | some v =>
    dsimp only
    cases hw : f.target.coerce f.convert v <;> simp [hw]

/-- A field reads nothing when it is absent and not required. -/
lemma coerceAt_eq_none_iff :
    f.coerceAt source = .ok none ↔
      presentAt? source f.sourceKey = none ∧ f.required = false := by
  rw [coerceAt]
  cases presentAt? source f.sourceKey with
  | none => cases f.required <;> simp
  | some v =>
    dsimp only
    cases f.target.coerce f.convert v <;> simp

/-- What a field reads, if it does not fail. -/
lemma coerced?_eq_some_iff {w : Value} :
    f.coerced? source = some w ↔ f.coerceAt source = .ok (some w) := by
  rw [coerced?]
  cases f.coerceAt source <;> simp

/-- What a field that does not fail reads. -/
lemma coerced?_of_coerceAt {w? : Option Value} (h : f.coerceAt source = .ok w?) :
    f.coerced? source = w? := by
  rw [coerced?, h]

end FieldShape

/-- A field that is not embedded gives back its value before the fields behind it. -/
lemma restoreFields_cons {f : FieldShape} (h : f.embedded = false) (rest : List FieldShape)
    (record done : Dict Value) :
    restoreFields (f :: rest) record done =
      match f.restoreAt? record with
      | none => restoreFields rest record done
      | some v => restoreFields rest record (done.insert f.sourceKey v) := by
  obtain ⟨name, sourceKey, target, required, convert, embedded⟩ := f
  obtain rfl : embedded = false := h
  simp only [restoreFields, Bool.false_eq_true, if_false, FieldShape.restoreAt?]
  cases presentAt? record name <;> rfl

/-- A shape flattens its fields. -/
lemma Shape.flattened_eq (s : Shape) : s.flattened = flattenedFields s.fields := by
  obtain ⟨name, fields⟩ := s
  rfl

/-- A shape embeds what its fields embed. -/
lemma Shape.embedsRecords_eq (s : Shape) : s.EmbedsRecords = FieldsEmbedRecords s.fields := by
  obtain ⟨name, fields⟩ := s
  rfl

/-! ### Coercing and restoring flattened fields -/

/-- Joined fields coerce one part after the other. -/
lemma coerceFields_append (fields more : List FieldShape) (source done : Dict Value) :
    coerceFields (fields ++ more) source done =
      (coerceFields fields source done).bind (coerceFields more source) := by
  induction fields generalizing done with
  | nil => rfl
  | cons f rest ih =>
    rw [List.cons_append]
    cases hf : f.embedded with
    | true =>
      rw [coerceFields_cons_of_embedded hf, coerceFields_cons_of_embedded hf]
      cases f.target.coerceEmbedded source done with
      | error e => rfl
      | ok done => exact ih done
    | false =>
      rw [coerceFields_cons hf, coerceFields_cons hf]
      rcases f.coerceAt source with e | _ | w
      · rfl
      · exact ih done
      · exact ih _

/-- Joined fields restore one part after the other. -/
lemma restoreFields_append (fields more : List FieldShape) (record done : Dict Value) :
    restoreFields (fields ++ more) record done =
      restoreFields more record (restoreFields fields record done) := by
  induction fields generalizing done with
  | nil => rfl
  | cons f rest ih =>
    obtain ⟨name, sourceKey, target, required, convert, embedded⟩ := f
    cases embedded with
    | true => exact ih _
    | false =>
      rw [List.cons_append, restoreFields_cons rfl, restoreFields_cons rfl]
      cases FieldShape.restoreAt? _ record <;> exact ih _

mutual

/-- A shape that embeds only records coerces like its flattened fields, up to the paths of
errors. -/
theorem Shape.toOption_coerceInto (source : Dict Value) :
    ∀ (s : Shape) (done : Dict Value), s.EmbedsRecords →
      (s.coerceInto source done).toOption = (coerceFields s.flattened source done).toOption
  | ⟨_, fields⟩, done, h => toOption_coerceFields source fields done h
termination_by structural s => s

/-- Fields that embed only records coerce like their flattened fields, up to the paths of errors. -/
theorem toOption_coerceFields (source : Dict Value) :
    ∀ (fields : List FieldShape) (done : Dict Value), FieldsEmbedRecords fields →
      (coerceFields fields source done).toOption =
        (coerceFields (flattenedFields fields) source done).toOption
  | [], _, _ => rfl
  | ⟨name, sourceKey, target, required, convert, embedded⟩ :: fields, done, h => by
    have ih := toOption_coerceFields source fields
    rw [flattenedFields, coerceFields_append, toOption_bind]
    cases embedded with
    | true =>
      rw [if_pos rfl, ← target.toOption_coerceEmbedded source done (h.1 rfl),
        coerceFields_cons_of_embedded rfl]
      dsimp only
      cases target.coerceEmbedded source done with
      | error e => rfl
      | ok done => exact ih done h.2
    | false =>
      rw [if_neg Bool.false_ne_true, coerceFields_cons rfl, coerceFields_cons rfl]
      rcases FieldShape.coerceAt _ source with e | _ | w
      · rfl
      · exact ih done h.2
      · exact ih _ h.2
termination_by structural fields => fields

/-- An embedded record coerces like its flattened fields, up to the paths of errors. -/
theorem Target.toOption_coerceEmbedded (source : Dict Value) :
    ∀ (t : Target) (done : Dict Value), t.IsEmbeddable →
      (t.coerceEmbedded source done).toOption = (coerceFields t.flattened source done).toOption
  | .record shape, done, h => shape.toOption_coerceInto source done h
  | .any, _, h | .bool, _, h | .int, _, h | .float, _, h | .string, _, h | .bytes, _, h
  | .list _, _, h | .map _, _, h | .optional _, _, h => h.elim
termination_by structural t => t

end

mutual

/-- A shape that coerces something embeds only records. -/
theorem Shape.embedsRecords_of_coerceInto {source n : Dict Value} :
    ∀ (s : Shape) (done : Dict Value), s.coerceInto source done = .ok n → s.EmbedsRecords
  | ⟨_, fields⟩, done, h => fieldsEmbedRecords_of_coerceFields fields done h
termination_by structural s => s

/-- Fields that coerce something embed only records. -/
theorem fieldsEmbedRecords_of_coerceFields {source n : Dict Value} :
    ∀ (fields : List FieldShape) (done : Dict Value),
      coerceFields fields source done = .ok n → FieldsEmbedRecords fields
  | [], _, _ => trivial
  | ⟨name, sourceKey, target, required, convert, embedded⟩ :: fields, done, h => by
    cases embedded with
    | true =>
      rw [coerceFields_cons_of_embedded rfl] at h
      dsimp only at h
      cases hinner : target.coerceEmbedded source done with
      | error e => simp [hinner] at h
      | ok inner =>
        rw [hinner] at h
        exact ⟨fun _ => target.isEmbeddable_of_coerceEmbedded done hinner,
          fieldsEmbedRecords_of_coerceFields fields inner h⟩
    | false =>
      refine ⟨Bool.noConfusion, ?_⟩
      rw [coerceFields_cons rfl] at h
      split at h
      · cases h
      · exact fieldsEmbedRecords_of_coerceFields fields done h
      · exact fieldsEmbedRecords_of_coerceFields fields _ h
termination_by structural fields => fields

/-- A target that coerces the enclosing map is a record that embeds only records. -/
theorem Target.isEmbeddable_of_coerceEmbedded {source n : Dict Value} :
    ∀ (t : Target) (done : Dict Value), t.coerceEmbedded source done = .ok n → t.IsEmbeddable
  | .record shape, done, h => shape.embedsRecords_of_coerceInto done h
  | .any, _, h | .bool, _, h | .int, _, h | .float, _, h | .string, _, h | .bytes, _, h
  | .list _, _, h | .map _, _, h | .optional _, _, h => by cases h
termination_by structural t => t

end

mutual

/-- A shape restores like its flattened fields. -/
theorem Shape.restoreFrom_flattened (record : Dict Value) :
    ∀ (s : Shape) (done : Dict Value),
      s.restoreFrom record done = restoreFields s.flattened record done
  | ⟨_, fields⟩, done => restoreFields_flattened record fields done
termination_by structural s => s

/-- Fields restore like their flattened fields. -/
theorem restoreFields_flattened (record : Dict Value) :
    ∀ (fields : List FieldShape) (done : Dict Value),
      restoreFields fields record done = restoreFields (flattenedFields fields) record done
  | [], _ => rfl
  | ⟨name, sourceKey, target, required, convert, embedded⟩ :: fields, done => by
    have ih := restoreFields_flattened record fields
    rw [flattenedFields, restoreFields_append, ← ih]
    cases embedded with
    | true =>
      rw [if_pos rfl, ← target.restoreEmbedded_flattened record done]
      rfl
    | false =>
      rw [if_neg Bool.false_ne_true, restoreFields_cons rfl, restoreFields_cons rfl]
      cases FieldShape.restoreAt? _ record <;> rfl
termination_by structural fields => fields

/-- An embedded record restores like its flattened fields. -/
theorem Target.restoreEmbedded_flattened (record : Dict Value) :
    ∀ (t : Target) (done : Dict Value),
      t.restoreEmbedded record done = restoreFields t.flattened record done
  | .record shape, done => shape.restoreFrom_flattened record done
  | .any, _ | .bool, _ | .int, _ | .float, _ | .string, _ | .bytes, _ | .list _, _ | .map _, _
  | .optional _, _ => rfl
termination_by structural t => t

end

/-- A shape coerces a map when it embeds only records and its flattened fields coerce the map. -/
theorem Shape.coerceInto_eq_ok_iff (s : Shape) {source done n : Dict Value} :
    s.coerceInto source done = .ok n ↔
      s.EmbedsRecords ∧ coerceFields s.flattened source done = .ok n := by
  simp only [← toOption_eq_some_iff]
  constructor
  · intro h
    have hembeds := s.embedsRecords_of_coerceInto done (toOption_eq_some_iff.mp h)
    exact ⟨hembeds, s.toOption_coerceInto source done hembeds ▸ h⟩
  · rintro ⟨hembeds, h⟩
    exact s.toOption_coerceInto source done hembeds ▸ h

/-! ### Fields that are not embedded -/

/-- Fields that are not embedded coerce when each of them does, and insert what they read one after
another. -/
theorem coerceFields_eq_ok_iff_foldl {fields : List FieldShape} {source done n : Dict Value}
    (hflat : ∀ f ∈ fields, f.embedded = false) :
    coerceFields fields source done = .ok n ↔
      (∀ f ∈ fields, ∃ w, f.coerceAt source = .ok w) ∧
        n = (Dict.gather FieldShape.name (FieldShape.coerced? source) fields).foldl
          (fun d e => d.insert e.1 e.2) done := by
  induction fields generalizing done with
  | nil => simp [eq_comm]
  | cons f rest ih =>
    obtain ⟨hf, hflat⟩ := List.forall_mem_cons.mp hflat
    rw [coerceFields_cons hf, Dict.gather_cons, List.forall_mem_cons, FieldShape.coerced?]
    rcases f.coerceAt source with e | _ | w
    · simp
    · simpa using ih hflat
    · simpa using ih hflat

/-- Fields that are not embedded coerce when each of them does, and gather what they read.

**Proof sketch.** The entries that the fields insert stand under names that are distinct and new, so
that each entry goes to the end. -/
theorem coerceFields_eq_ok_iff {fields : List FieldShape} {source done n : Dict Value}
    (hflat : ∀ f ∈ fields, f.embedded = false) (hnames : (fields.map FieldShape.name).Nodup)
    (hdone : ∀ f ∈ fields, f.name ∉ done.keys) :
    coerceFields fields source done = .ok n ↔
      (∀ f ∈ fields, ∃ w, f.coerceAt source = .ok w) ∧
        n = done ++ Dict.gather FieldShape.name (FieldShape.coerced? source) fields := by
  have hnew : ∀ key ∈ (Dict.gather FieldShape.name (FieldShape.coerced? source) fields).keys,
      key ∉ done.keys := by
    intro key hkey
    obtain ⟨f, hf, rfl⟩ := List.mem_map.mp (Dict.mem_keys_gather hkey)
    exact hdone f hf
  rw [coerceFields_eq_ok_iff_foldl hflat,
    Dict.foldl_insert_eq_append (Dict.distinct_gather hnames) hnew]

/-- Fields that are not embedded gather what they give back. -/
theorem restoreFields_eq_gather {fields : List FieldShape} (record : Dict Value)
    {done : Dict Value} (hflat : ∀ f ∈ fields, f.embedded = false)
    (hkeys : (fields.map FieldShape.sourceKey).Nodup)
    (hdone : ∀ f ∈ fields, f.sourceKey ∉ done.keys) :
    restoreFields fields record done =
      done ++ Dict.gather FieldShape.sourceKey (fun f => f.restoreAt? record) fields := by
  induction fields generalizing done with
  | nil => simp [restoreFields]
  | cons f rest ih =>
    obtain ⟨hf, hflat⟩ := List.forall_mem_cons.mp hflat
    obtain ⟨hkey, hkeys⟩ := List.nodup_cons.mp hkeys
    obtain ⟨hnew, hdone⟩ := List.forall_mem_cons.mp hdone
    rw [restoreFields_cons hf, Dict.gather_cons]
    cases f.restoreAt? record with
    | none => simpa using ih hflat hkeys hdone
    | some v =>
      have hnext : ∀ g ∈ rest, g.sourceKey ∉ (done.insert f.sourceKey v).keys := by
        intro g hg hmem
        rcases Dict.mem_keys_insert.mp hmem with heq | hin
        · exact hkey (heq ▸ List.mem_map_of_mem hg)
        · exact hdone g hg hin
      simpa [Dict.insert_of_notMem v hnew] using ih hflat hkeys hnext

end Intake
