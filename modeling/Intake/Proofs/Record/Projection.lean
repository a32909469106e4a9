import Intake.Proofs.Record.Stability

set_option autoImplicit false

/-!
# Restoring without conversions

A shape picks from a map what its fields read and leaves the rest behind. If no field converts, then
a map that is coerced and restored comes back as just that part of it: every key that a field is
read from keeps its value, and no key changes its name for good.

## Main definitions

* `Target.project` — the part of a value that a target reads.
* `Target.NeverConverts` — no field of a record inside a target converts.

## Main results

* `Target.project_record` — the part of a map that a record reads, field by field.
* `restoreValue_eq_project` — a coerced map restores to the part that was read.
-/

namespace Intake

/-! ### Definitions -/

mutual

/-- The part of a value that a target reads: records drop what no field reads, lists and maps keep
all their items, and everything else stays as it is. -/
def Target.project : Target → Value → Value
  | .optional inner, v => inner.project v
  | .list item, v =>
    match v with
    | .list items => .list (items.map item.project)
    | v => v
  | .map item, v =>
    match v with
    | .map entries => .map (entries.map fun e => (e.1, item.project e.2))
    | v => v
  | .record shape, v =>
    match v with
    | .map entries => .map (shape.projectFrom entries)
    | v => v
  | _, v => v
termination_by structural target => target

/-- The entries that the fields of a shape read, in the order of the fields. -/
def Shape.projectFrom : Shape → Dict Value → Dict Value
  | ⟨_, fields⟩, source => projectFields fields source
termination_by structural shape => shape

/-- The entries that some fields read, each under the key that it is read from. -/
def projectFields : List FieldShape → Dict Value → Dict Value
  | [], _ => []
  | ⟨_, sourceKey, target, _, _, embedded⟩ :: fields, source =>
    (if embedded then target.projectEmbedded source
      else
        match presentAt? source sourceKey with
        | none => []
        | some v => [(sourceKey, target.project v)]) ++ projectFields fields source
termination_by structural fields => fields

/-- The entries that the fields of an embedded record read; other targets hold none. -/
def Target.projectEmbedded : Target → Dict Value → Dict Value
  | .record shape, source => shape.projectFrom source
  | _, _ => []
termination_by structural target => target

end

/-- No field of a record inside a target converts. -/
inductive Target.NeverConverts : Target → Prop
  | any : NeverConverts .any
  | scalar {t : Target} {kind : ValueKind} : t.scalarKind? = some kind → NeverConverts t
  | list {item : Target} : NeverConverts item → NeverConverts (.list item)
  | map {item : Target} : NeverConverts item → NeverConverts (.map item)
  | optional {inner : Target} : NeverConverts inner → NeverConverts (.optional inner)
  | record {shape : Shape} : (∀ f ∈ shape.flattened, f.convert = false) →
      (∀ f ∈ shape.flattened, NeverConverts f.target) → NeverConverts (.record shape)

/-! ### What a record reads -/

/-- The part that a field reads from a map. -/
def FieldShape.projectAt? (source : Dict Value) (f : FieldShape) : Option Value :=
  (presentAt? source f.sourceKey).map f.target.project

/-- A field that is not embedded reads at most one entry before those of the fields behind it. -/
lemma projectFields_cons {f : FieldShape} (h : f.embedded = false) (rest : List FieldShape)
    (source : Dict Value) :
    projectFields (f :: rest) source =
      Dict.gather FieldShape.sourceKey (FieldShape.projectAt? source) [f] ++
        projectFields rest source := by
  obtain ⟨name, sourceKey, target, required, convert, embedded⟩ := f
  obtain rfl : embedded = false := h
  rw [projectFields, if_neg Bool.false_ne_true, Dict.gather_cons, Dict.gather_nil, List.append_nil,
    FieldShape.projectAt?]
  cases presentAt? source sourceKey <;> rfl

mutual

/-- A shape reads what its flattened fields read, one by one. -/
theorem Shape.projectFrom_eq_gather (source : Dict Value) : ∀ s : Shape,
    s.projectFrom source =
      Dict.gather FieldShape.sourceKey (FieldShape.projectAt? source) s.flattened
  | ⟨_, fields⟩ => projectFields_eq_gather source fields
termination_by structural s => s

/-- Fields read what their flattened fields read, one by one. -/
theorem projectFields_eq_gather (source : Dict Value) : ∀ fields : List FieldShape,
    projectFields fields source =
      Dict.gather FieldShape.sourceKey (FieldShape.projectAt? source) (flattenedFields fields)
  | [] => rfl
  | ⟨name, sourceKey, target, required, convert, embedded⟩ :: fields => by
    have ih := projectFields_eq_gather source fields
    rw [flattenedFields, Dict.gather_append, ← ih]
    cases embedded with
    | true =>
      rw [if_pos rfl, ← target.projectEmbedded_eq_gather source]
      rfl
    | false => exact projectFields_cons rfl fields source
termination_by structural fields => fields

/-- An embedded record reads what its flattened fields read, one by one. -/
theorem Target.projectEmbedded_eq_gather (source : Dict Value) : ∀ t : Target,
    t.projectEmbedded source =
      Dict.gather FieldShape.sourceKey (FieldShape.projectAt? source) t.flattened
  | .record shape => shape.projectFrom_eq_gather source
  | .any | .bool | .int | .float | .string | .bytes | .list _ | .map _ | .optional _ => rfl
termination_by structural t => t

end

/-- A record reads from a map, in the order of its flattened fields, each source key that holds a
value other than null, with the part of the value that the field reads. -/
theorem Target.project_record (shape : Shape) (source : Dict Value) :
    (Target.record shape).project (.map source) =
      .map (Dict.gather FieldShape.sourceKey (FieldShape.projectAt? source) shape.flattened) :=
  congrArg Value.map (shape.projectFrom_eq_gather source)

/-! ### Restoring what was coerced -/

/-- Null is read as it is. -/
lemma project_null (t : Target) : t.project .null = .null := by
  match t with
  | .optional inner => exact project_null inner
  | .any | .bool | .int | .float | .string | .bytes | .list _ | .map _ | .record _ => rfl
termination_by structural t

/-- Scalar targets read a value as it is. -/
lemma project_of_scalarKind? {t : Target} {kind : ValueKind} (ht : t.scalarKind? = some kind)
    (v : Value) : t.project v = v := by
  cases t <;> cases ht <;> rfl

/-- What a target coerces without conversions restores to the part that it read. -/
def Target.Recovers (t : Target) : Prop :=
  ∀ v w, t.coerce false v = .ok w → t.restore w = t.project v

/-- Scalar targets recover what they read. -/
lemma recovers_of_scalarKind? {t : Target} {kind : ValueKind} (ht : t.scalarKind? = some kind) :
    t.Recovers := by
  intro v w h
  obtain ⟨hv, rfl⟩ := (coerce_false_eq_ok_iff ht).mp h
  rw [restore_of_scalarKind? ht hv, project_of_scalarKind? ht]

/-- A list recovers what its items recover. -/
lemma Target.Recovers.list {item : Target} (h : item.Recovers) : (Target.list item).Recovers := by
  intro v w hv
  obtain ⟨items, ws, rfl, rfl, hitems⟩ := coerce_list_eq_ok_iff.mp hv
  exact congrArg Value.list (map_eq_map_of_forall₂ h hitems)

/-- A map recovers what its items recover. -/
lemma Target.Recovers.map {item : Target} (h : item.Recovers) : (Target.map item).Recovers := by
  intro v w hv
  obtain ⟨entries, ws, rfl, rfl, hentries⟩ := coerce_map_eq_ok_iff.mp hv
  refine congrArg Value.map (map_eq_map_of_forall₂ ?_ hentries)
  rintro e e' ⟨hkey, hvalue⟩
  rw [hkey, h _ _ hvalue]

/-- An optional target recovers what the inner one recovers. -/
lemma Target.Recovers.optional {inner : Target} (h : inner.Recovers) :
    (Target.optional inner).Recovers := by
  intro v w hv
  rw [Target.restore, Target.project]
  by_cases hnull : v = .null
  · subst hnull
    cases hv
    rw [restore_null, project_null]
  · rw [coerce_optional hnull] at hv
    exact h v w hv

/-- A field that does not convert gives back the part that it read. -/
lemma restoreAt?_eq_projectAt? {f : FieldShape} (hconvert : f.convert = false)
    (hf : f.target.Recovers) {source n : Dict Value} {w? : Option Value}
    (hsource : f.coerceAt source = .ok w?) (hn : n.find? f.name = w?) :
    f.restoreAt? n = f.projectAt? source := by
  rw [FieldShape.restoreAt?, FieldShape.projectAt?]
  cases w? with
  | none =>
    obtain ⟨hv, -⟩ := FieldShape.coerceAt_eq_none_iff.mp hsource
    rw [presentAt?_of_find?_none hn, hv, Option.map_none, Option.map_none]
  | some w =>
    obtain ⟨v, hv, hw⟩ := FieldShape.coerceAt_eq_some_iff.mp hsource
    have hne : w ≠ .null := coerce_ne_null _ (presentAt?_eq_some_iff.mp hv).2 hw
    rw [presentAt?_eq_some_iff.mpr ⟨hn, hne⟩, hv, Option.map_some, Option.map_some,
      hf v w (hconvert ▸ hw)]

/-- A record without collisions and conversions recovers what its flattened fields recover. -/
lemma Target.Recovers.record {shape : Shape}
    (hnames : (shape.flattened.map FieldShape.name).Nodup)
    (hkeys : (shape.flattened.map FieldShape.sourceKey).Nodup)
    (hconvert : ∀ f ∈ shape.flattened, f.convert = false)
    (hrecovers : ∀ f ∈ shape.flattened, f.target.Recovers) : (Target.record shape).Recovers := by
  intro v w hv
  have hflat : ∀ f ∈ shape.flattened, f.embedded = false :=
    fun f => shape.not_embedded_of_mem_flattened
  have hempty : ∀ key : String, key ∉ Dict.keys ([] : Dict Value) := by simp
  obtain ⟨source, n, rfl, rfl, hn⟩ := coerce_record_eq_ok_iff.mp hv
  obtain ⟨-, hn⟩ := shape.coerceInto_eq_ok_iff.mp hn
  obtain ⟨hread, hn⟩ := (coerceFields_eq_ok_iff hflat hnames fun f _ => hempty _).mp hn
  rw [List.nil_append] at hn
  rw [Target.project_record, Target.restore, shape.restoreFrom_flattened,
    restoreFields_eq_gather n hflat hkeys fun f _ => hempty _, List.nil_append]
  refine congrArg Value.map (Dict.gather_congr fun f hf => ?_)
  obtain ⟨w?, hw⟩ := hread f hf
  refine restoreAt?_eq_projectAt? (hconvert f hf) (hrecovers f hf) hw ?_
  rw [hn, Dict.find?_gather hnames hf, FieldShape.coerced?_of_coerceAt hw]

/-- Unambiguous targets that never convert recover what they read. -/
theorem Target.recovers {t : Target} (hconvert : t.NeverConverts) (ht : t.Unambiguous) :
    t.Recovers := by
  induction hconvert with
  | any => exact fun _ _ h => Except.ok.inj h.symm
  | scalar hkind => exact recovers_of_scalarKind? hkind
  | list _ ih => exact (ih ht).list
  | map _ ih => exact (ih ht).map
  | optional _ ih => exact (ih ht).optional
  | @record shape hfields _ ih =>
    exact .record ht.names ht.sourceKeys hfields fun f hf =>
      ih f hf (shape.unambiguous_of_mem_flattened ht hf)

/-- **Without conversions, restoring recovers the source.** When no record inside a shape uses a
name or a source key twice and no field converts, a map that coerces to a record is recovered from
the record, up to what the shape does not read.

**Proof sketch.** Induction over the target. A scalar is taken and restored as it is, lists and maps
are recovered item by item. A flattened field of a record finds under its name what it read under
its source key, so both sides gather the same entries in the order of the fields. -/
theorem restoreValue_eq_project {shape : Shape} (hshape : shape.Unambiguous)
    (hconvert : (Target.record shape).NeverConverts) {source n : Value}
    (h : coerceValue (.record shape) source = .ok n) :
    restoreValue (.record shape) n = (Target.record shape).project source :=
  Target.recovers hconvert hshape source n h

/-- A record with an embedded one, records in a list and nulls in a map, and without conversions. -/
def parcelShape : Shape :=
  ⟨"Parcel",
    [(FieldShape.new "sender" (.record (Record.shape Embedded))).embed,
      ((FieldShape.new "weight" .int).readFrom "Weight").require,
      .new "stops" (.list (.record (Record.shape Address))), .new "codes" (.map (.optional .int)),
      .new "note" .any]⟩

/-- No record inside a parcel uses a name or a source key twice. -/
lemma parcelShape_unambiguous : parcelShape.Unambiguous :=
  ⟨by decide, by decide, ⟨by decide, by decide, trivial, trivial, trivial⟩, trivial,
    ⟨by decide, by decide, trivial, trivial, trivial⟩, trivial, trivial, trivial⟩

/-- No record inside a parcel converts. -/
lemma parcelShape_neverConverts : (Target.record parcelShape).NeverConverts := by
  have hstop : (Target.record (Record.shape Address)).NeverConverts :=
    .record (by decide) (List.forall_mem_cons.mpr ⟨.scalar rfl,
      List.forall_mem_cons.mpr ⟨.scalar rfl, List.forall_mem_nil _⟩⟩)
  exact .record (by decide) (List.forall_mem_cons.mpr ⟨.scalar rfl,
    List.forall_mem_cons.mpr ⟨.map (.scalar rfl), List.forall_mem_cons.mpr ⟨.scalar rfl,
    List.forall_mem_cons.mpr ⟨.list hstop, List.forall_mem_cons.mpr ⟨.map (.optional (.scalar rfl)),
    List.forall_mem_cons.mpr ⟨.any, List.forall_mem_nil _⟩⟩⟩⟩⟩⟩)

/-- A parcel in which two keys are read by no field and nulls stand for absent values, in a map and
inside a value of any kind. -/
def parcelSource : Value :=
  .map [("Weight", .int 7), ("colour", .string "red"), ("name", .string "n"), ("labels", .null),
    ("stops", .list [.map [("zipCode", .int 9000), ("floor", .int 2), ("street", .string "s")]]),
    ("codes", .map [("b", .null), ("a", .int 1)]), ("note", .list [.null])]

/-- A parcel is coerced and restored without the keys that no field reads. -/
theorem parcel_restoreValue_eq_project :
    ∃ n, coerceValue (.record parcelShape) parcelSource = .ok n ∧
      restoreValue (.record parcelShape) n =
        .map [("name", .string "n"), ("Weight", .int 7),
          ("stops", .list [.map [("street", .string "s"), ("zipCode", .int 9000)]]),
          ("codes", .map [("b", .null), ("a", .int 1)]), ("note", .list [.null])] :=
  ⟨_, rfl, restoreValue_eq_project parcelShape_unambiguous parcelShape_neverConverts
    (show coerceValue _ parcelSource = _ from rfl)⟩

end Intake
