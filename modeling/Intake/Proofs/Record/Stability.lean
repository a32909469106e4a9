import Intake.Proofs.Pairwise
import Intake.Proofs.Record.Flatten
import Intake.Record.Samples
import Mathlib.Tactic.Lemma

set_option autoImplicit false

/-!
# Coercion is stable

A coerced value that is restored and coerced again comes back as it was, with its keys in the same
order. Null counts as absent, and no other value coerces to null, so that a field reads a restored
record exactly when it read the source.

## Main definitions

* `Target.Unambiguous` — no record inside a target uses a name or a source key twice.
* `Target.Stable` — a coerced value survives being restored and coerced again.

## Main results

* `coerce_list_eq_ok_iff`, `coerce_map_eq_ok_iff`, `coerce_record_eq_ok_iff` — what lists, maps and
  records coerce.
* `Target.induction` — induction over targets, with records taken apart by their flattened fields.
* `Target.stable` — unambiguous targets are stable.
* `coerceValue_restoreValue` — the same from the top, for records.

## Design

A record is taken apart by its flattened fields, each of which reads and writes on its own. Their
targets are stable because they lie inside the record.
-/

namespace Intake

/-! ### Definitions -/

mutual

/-- No record inside a target uses a name or a source key twice among its flattened fields. -/
def Target.Unambiguous : Target → Prop
  | .list item => item.Unambiguous
  | .map item => item.Unambiguous
  | .optional inner => inner.Unambiguous
  | .record shape => shape.Unambiguous
  | _ => True
termination_by structural target => target

/-- Neither a shape nor a record inside it uses a name or a source key twice among its flattened
fields. -/
def Shape.Unambiguous : Shape → Prop
  | ⟨_, fields⟩ =>
    ((flattenedFields fields).map FieldShape.name).Nodup ∧
      ((flattenedFields fields).map FieldShape.sourceKey).Nodup ∧ FieldsUnambiguous fields
termination_by structural shape => shape

/-- No record inside the targets of fields uses a name or a source key twice. -/
def FieldsUnambiguous : List FieldShape → Prop
  | [] => True
  | ⟨_, _, target, _, _, _⟩ :: fields => target.Unambiguous ∧ FieldsUnambiguous fields
termination_by structural fields => fields

end

/-- A coerced value survives being restored and coerced again. -/
def Target.Stable (t : Target) : Prop :=
  ∀ convert v w, t.coerce convert v = .ok w → t.coerce convert (t.restore w) = .ok w

/-! ### Scalars -/

/-- The kind of the values that a scalar target yields. -/
def Target.scalarKind? : Target → Option ValueKind
  | .bool => some .bool
  | .int => some .int
  | .float => some .float
  | .string => some .string
  | .bytes => some .bytes
  | _ => none

/-- A conversion yields the kind of its target. -/
lemma kind_of_convert? {t : Target} {kind : ValueKind} {v w : Value}
    (ht : t.scalarKind? = some kind) (h : convert? t v = some (.ok w)) : w.kind = kind := by
  revert h
  fun_cases convert? t v with
  | case1 n =>
    intro h
    cases h
    exact Option.some.inj ht
  | case2 x =>
    intro h
    simp only [coerceToInt] at h
    split at h
    · cases h
      exact Option.some.inj ht
    · cases h
  | case3 s =>
    intro h
    cases h
    exact Option.some.inj ht
  | case4 data =>
    intro h
    split at h
    · cases h
      exact Option.some.inj ht
    · cases h
  | case5 => exact nofun

/-- A scalar target yields values of its kind. -/
lemma kind_of_coerceScalar {t : Target} {kind : ValueKind} {convert : Bool} {v w : Value}
    (ht : t.scalarKind? = some kind) (h : coerceScalar t kind convert v = .ok w) :
    w.kind = kind := by
  rw [coerceScalar] at h
  split_ifs at h with hkind hconvert
  · cases h
    exact hkind
  · split at h
    · subst h
      exact kind_of_convert? ht ‹_›
    · cases h

/-- A scalar target coerces as a scalar. -/
lemma coerce_of_scalarKind? {t : Target} {kind : ValueKind} (ht : t.scalarKind? = some kind)
    (convert : Bool) (v : Value) :
    t.coerce convert v = (coerceScalar t kind convert v).mapError fun fault => ⟨fault, []⟩ := by
  cases t <;> cases ht <;> exact Walk.fromSource_ofResult _

/-- A scalar target coerces to values of its kind. -/
lemma kind_of_coerce {t : Target} {kind : ValueKind} {convert : Bool} {v w : Value}
    (ht : t.scalarKind? = some kind) (h : t.coerce convert v = .ok w) : w.kind = kind :=
  kind_of_coerceScalar ht (mapError_eq_ok_iff.mp (coerce_of_scalarKind? ht convert v ▸ h))

/-- A scalar target takes a value of its kind as it is. -/
lemma coerce_of_kind {t : Target} {kind : ValueKind} {v : Value} (ht : t.scalarKind? = some kind)
    (hv : v.kind = kind) (convert : Bool) : t.coerce convert v = .ok v := by
  rw [coerce_of_scalarKind? ht, coerceScalar, if_pos hv]
  rfl

/-- A scalar target restores a value of its kind as it is. -/
lemma restore_of_scalarKind? {t : Target} {kind : ValueKind} {v : Value}
    (ht : t.scalarKind? = some kind) (hv : v.kind = kind) : t.restore v = v := by
  cases t <;> cases ht <;> cases v <;> first | rfl | cases hv

/-- Without conversions, a scalar target takes the values of its kind as they are. -/
lemma coerce_false_eq_ok_iff {t : Target} {kind : ValueKind} (ht : t.scalarKind? = some kind)
    {v w : Value} : t.coerce false v = .ok w ↔ v.kind = kind ∧ w = v := by
  rw [coerce_of_scalarKind? ht, mapError_eq_ok_iff, coerceScalar, if_neg Bool.false_ne_true]
  by_cases hkind : v.kind = kind
  · simp [hkind, eq_comm]
  · simp [hkind]

/-- Scalar targets are stable. -/
lemma stable_of_scalarKind? {t : Target} {kind : ValueKind} (ht : t.scalarKind? = some kind) :
    t.Stable := by
  intro convert v w h
  have hw : w.kind = kind := kind_of_coerce ht h
  rw [restore_of_scalarKind? ht hw, coerce_of_kind ht hw]

/-! ### Null -/

/-- Null restores to null. -/
lemma restore_null (t : Target) : t.restore .null = .null := by
  match t with
  | .optional inner => exact restore_null inner
  | .any | .bool | .int | .float | .string | .bytes | .list _ | .map _ | .record _ => rfl
termination_by structural t

/-- Only null restores to null. -/
lemma restore_ne_null (t : Target) {v : Value} (hv : v ≠ .null) : t.restore v ≠ .null := by
  match t with
  | .optional inner => exact restore_ne_null inner hv
  | .any | .bool | .int | .float | .string => exact hv
  | .bytes =>
    cases v with
    | list items =>
      simp only [Target.restore]
      split <;> exact nofun
    | null => exact absurd rfl hv
    | bool | int | float | string | bytes | map => exact nofun
  | .list _ | .map _ | .record _ =>
    cases v with
    | null => exact absurd rfl hv
    | bool | int | float | string | bytes | list | map => exact nofun
termination_by structural t

/-! ### Lists, maps and records -/

/-- Items coerce one by one. -/
lemma coerceItems_eq_ok_iff {f : Value → Except CoerceError Value} {i : Nat}
    {items ws : List Value} :
    coerceItems f i items = .ok ws ↔ List.Forall₂ (fun v w => f v = .ok w) items ws := by
  induction items generalizing i ws with
  | nil => simp [coerceItems, eq_comm]
  | cons v rest ih =>
    rw [coerceItems, List.forall₂_cons_left_iff]
    cases f v with
    | error e => simp
    | ok w => simp [map_cons_eq_ok_iff, ih]

/-- Entries coerce one by one, under their keys. -/
lemma coerceEntries_eq_ok_iff {f : Value → Except CoerceError Value} {entries ws : Dict Value} :
    coerceEntries f entries = .ok ws ↔
      List.Forall₂ (fun e e' => e'.1 = e.1 ∧ f e.2 = .ok e'.2) entries ws := by
  induction entries generalizing ws with
  | nil => simp [coerceEntries, eq_comm]
  | cons e rest ih =>
    obtain ⟨k, v⟩ := e
    rw [coerceEntries, List.forall₂_cons_left_iff]
    cases f v with
    | error e => simp
    | ok w => simp [map_cons_eq_ok_iff, ih]

/-- A list target takes lists, item by item. -/
lemma coerce_list_eq_ok_iff {item : Target} {convert : Bool} {v w : Value} :
    (Target.list item).coerce convert v = .ok w ↔ ∃ items ws, v = .list items ∧ w = .list ws ∧
      List.Forall₂ (fun v w => item.coerce false v = .ok w) items ws := by
  cases v with
  | list items =>
    simp [map_eq_ok_iff, coerceItems_eq_ok_iff, and_comm, eq_comm (a := w)]
  | null | bool | int | float | string | bytes | map => exact iff_of_false nofun (by simp)

/-- A map target takes maps, entry by entry. -/
lemma coerce_map_eq_ok_iff {item : Target} {convert : Bool} {v w : Value} :
    (Target.map item).coerce convert v = .ok w ↔ ∃ entries ws, v = .map entries ∧ w = .map ws ∧
      List.Forall₂ (fun e e' => e'.1 = e.1 ∧ item.coerce false e.2 = .ok e'.2) entries ws := by
  cases v with
  | map entries =>
    simp [map_eq_ok_iff, coerceEntries_eq_ok_iff, and_comm, eq_comm (a := w)]
  | null | bool | int | float | string | bytes | list => exact iff_of_false nofun (by simp)

/-- A record target takes maps, by the fields of its shape. -/
lemma coerce_record_eq_ok_iff {shape : Shape} {convert : Bool} {v w : Value} :
    (Target.record shape).coerce convert v = .ok w ↔ ∃ source n, v = .map source ∧ w = .map n ∧
      shape.coerceInto source [] = .ok n := by
  cases v with
  | map source => simp [map_eq_ok_iff, and_comm, eq_comm (a := w)]
  | null | bool | int | float | string | bytes | list => exact iff_of_false nofun (by simp)

/-- An option coerces what is not null like the inner target. -/
lemma coerce_optional {v : Value} (hv : v ≠ .null) (inner : Target) (convert : Bool) :
    (Target.optional inner).coerce convert v = inner.coerce convert v := by
  cases v with
  | null => exact absurd rfl hv
  | bool | int | float | string | bytes | list | map => rfl

/-- Only null coerces to null. -/
lemma coerce_ne_null (t : Target) {convert : Bool} {v w : Value} (hv : v ≠ .null)
    (h : t.coerce convert v = .ok w) : w ≠ .null := by
  match t with
  | .any =>
    cases h
    exact hv
  | .optional inner => exact coerce_ne_null inner hv (coerce_optional hv inner convert ▸ h)
  | .bool | .int | .float | .string | .bytes =>
    have hkind := kind_of_coerce rfl h
    rintro rfl
    cases hkind
  | .list _ =>
    obtain ⟨_, _, -, rfl, -⟩ := coerce_list_eq_ok_iff.mp h
    exact nofun
  | .map _ =>
    obtain ⟨_, _, -, rfl, -⟩ := coerce_map_eq_ok_iff.mp h
    exact nofun
  | .record _ =>
    obtain ⟨_, _, -, rfl, -⟩ := coerce_record_eq_ok_iff.mp h
    exact nofun
termination_by structural t

/-- A list of stable items is stable. -/
lemma Target.Stable.list {item : Target} (h : item.Stable) : (Target.list item).Stable := by
  intro convert v w hv
  obtain ⟨items, ws, rfl, rfl, hitems⟩ := coerce_list_eq_ok_iff.mp hv
  have hagain := forall₂_map_restore item.restore (h false) hitems
  exact coerce_list_eq_ok_iff.mpr ⟨_, ws, rfl, rfl, hagain⟩

/-- A map with stable items is stable. -/
lemma Target.Stable.map {item : Target} (h : item.Stable) : (Target.map item).Stable := by
  intro convert v w hv
  obtain ⟨entries, ws, rfl, rfl, hentries⟩ := coerce_map_eq_ok_iff.mp hv
  have hagain := forall₂_map_restore (fun e => (e.1, item.restore e.2))
    (fun _ _ he => ⟨rfl, h false _ _ he.2⟩) hentries
  exact coerce_map_eq_ok_iff.mpr ⟨_, ws, rfl, rfl, hagain⟩

/-- An optional stable target is stable. -/
lemma Target.Stable.optional {inner : Target} (h : inner.Stable) :
    (Target.optional inner).Stable := by
  intro convert v w hv
  rw [Target.restore]
  by_cases hnull : v = .null
  · subst hnull
    cases hv
    rw [restore_null]
    rfl
  · rw [coerce_optional hnull] at hv
    have hw : inner.restore w ≠ .null := restore_ne_null inner (coerce_ne_null inner hnull hv)
    rw [coerce_optional hw]
    exact h convert v w hv

/-! ### Records -/

/-- What is present under a key is what the key finds, unless it is null. -/
lemma presentAt?_eq_some_iff {source : Dict Value} {key : String} {v : Value} :
    presentAt? source key = some v ↔ source.find? key = some v ∧ v ≠ .null := by
  rw [presentAt?]
  split
  · simp_all
  · simp_all
  · simp_all only [Option.some.injEq, ne_eq, iff_self_and]
    rintro rfl
    assumption

/-- Nothing is present under a missing key. -/
lemma presentAt?_of_find?_none {source : Dict Value} {key : String}
    (h : source.find? key = none) : presentAt? source key = none := by
  rw [presentAt?, h]

/-- A stable field that read a value reads it again when the value is restored. -/
lemma coerceAt_restored {f : FieldShape} (hf : f.target.Stable) {source n m : Dict Value}
    {w? : Option Value} (hsource : f.coerceAt source = .ok w?) (hn : n.find? f.name = w?)
    (hm : m.find? f.sourceKey = f.restoreAt? n) : f.coerceAt m = .ok w? := by
  cases w? with
  | none =>
    obtain ⟨-, hrequired⟩ := FieldShape.coerceAt_eq_none_iff.mp hsource
    rw [FieldShape.restoreAt?, presentAt?_of_find?_none hn] at hm
    exact FieldShape.coerceAt_eq_none_iff.mpr ⟨presentAt?_of_find?_none hm, hrequired⟩
  | some w =>
    obtain ⟨v, hv, hw⟩ := FieldShape.coerceAt_eq_some_iff.mp hsource
    have hne : w ≠ .null := coerce_ne_null _ (presentAt?_eq_some_iff.mp hv).2 hw
    rw [FieldShape.restoreAt?, presentAt?_eq_some_iff.mpr ⟨hn, hne⟩] at hm
    have hback := presentAt?_eq_some_iff.mpr ⟨hm, restore_ne_null _ hne⟩
    exact FieldShape.coerceAt_eq_some_iff.mpr ⟨_, hback, hf _ _ _ hw⟩

/-- Fields that are not embedded and do not collide coerce what they gathered, once it is
restored, to the same record.

**Proof sketch.** The record holds for each field what it read, the restored map holds for each
field what it gives back, and so each field reads again what it read from the source. -/
lemma coerceFields_restoreFields {fields : List FieldShape} {source n : Dict Value}
    (hflat : ∀ f ∈ fields, f.embedded = false) (hnames : (fields.map FieldShape.name).Nodup)
    (hkeys : (fields.map FieldShape.sourceKey).Nodup) (hstable : ∀ f ∈ fields, f.target.Stable)
    (h : coerceFields fields source [] = .ok n) :
    coerceFields fields (restoreFields fields n []) [] = .ok n := by
  have hempty : ∀ key : String, key ∉ Dict.keys ([] : Dict Value) := by simp
  obtain ⟨hread, hn⟩ := (coerceFields_eq_ok_iff hflat hnames fun f _ => hempty _).mp h
  have hm := restoreFields_eq_gather n hflat hkeys fun f _ => hempty _
  rw [List.nil_append] at hn hm
  have hagain : ∀ f ∈ fields,
      f.coerceAt (restoreFields fields n []) = .ok (f.coerced? source) := by
    intro f hf
    obtain ⟨w?, hw⟩ := hread f hf
    have hcoerced : f.coerced? source = w? := FieldShape.coerced?_of_coerceAt hw
    refine coerceAt_restored (n := n) (hstable f hf) (hcoerced ▸ hw) ?_ ?_
    · rw [hn, Dict.find?_gather hnames hf]
    · rw [hm, Dict.find?_gather hkeys hf]
  refine (coerceFields_eq_ok_iff hflat hnames fun f _ => hempty _).mpr
    ⟨fun f hf => ⟨_, hagain f hf⟩, ?_⟩
  refine hn.trans (Dict.gather_congr fun f hf => ?_)
  rw [FieldShape.coerced?.eq_def (restoreFields fields n []), hagain f hf]

/-- A record whose flattened fields are stable and do not collide is stable. -/
lemma Target.Stable.record {shape : Shape}
    (hnames : (shape.flattened.map FieldShape.name).Nodup)
    (hkeys : (shape.flattened.map FieldShape.sourceKey).Nodup)
    (hstable : ∀ f ∈ shape.flattened, f.target.Stable) : (Target.record shape).Stable := by
  intro convert v w hv
  obtain ⟨source, n, rfl, rfl, hn⟩ := coerce_record_eq_ok_iff.mp hv
  obtain ⟨hembeds, hflat⟩ := shape.coerceInto_eq_ok_iff.mp hn
  have hagain := coerceFields_restoreFields
    (fun f => shape.not_embedded_of_mem_flattened) hnames hkeys hstable hflat
  rw [← shape.restoreFrom_flattened] at hagain
  exact coerce_record_eq_ok_iff.mpr
    ⟨_, n, rfl, rfl, shape.coerceInto_eq_ok_iff.mpr ⟨hembeds, hagain⟩⟩

/-! ### All targets -/

mutual

/-- The targets of the flattened fields of a shape lie inside it. -/
theorem Shape.sizeOf_lt_of_mem_flattened {f : FieldShape} :
    ∀ s : Shape, f ∈ s.flattened → sizeOf f.target < sizeOf s
  | ⟨name, fields⟩, h => by
    have hfields := sizeOf_lt_of_mem_flattenedFields fields h
    rw [Shape.mk.sizeOf_spec]
    omega
termination_by structural s => s

/-- The targets of flattened fields lie inside the fields. -/
theorem sizeOf_lt_of_mem_flattenedFields {f : FieldShape} :
    ∀ fields : List FieldShape, f ∈ flattenedFields fields → sizeOf f.target < sizeOf fields
  | [], h => by cases h
  | ⟨name, sourceKey, target, required, convert, embedded⟩ :: fields, h => by
    rw [List.cons.sizeOf_spec, FieldShape.mk.sizeOf_spec]
    rcases List.mem_append.mp h with hfirst | hrest
    · cases embedded with
      | true =>
        have htarget := target.sizeOf_lt_of_mem_flattened hfirst
        omega
      | false =>
        rw [List.mem_singleton.mp hfirst]
        dsimp only
        omega
    · have hfields := sizeOf_lt_of_mem_flattenedFields fields hrest
      omega
termination_by structural fields => fields

/-- The targets of the flattened fields of an embedded record lie inside it. -/
theorem Target.sizeOf_lt_of_mem_flattened {f : FieldShape} :
    ∀ t : Target, f ∈ t.flattened → sizeOf f.target < sizeOf t
  | .record shape, h => by
    have hshape := shape.sizeOf_lt_of_mem_flattened h
    rw [Target.record.sizeOf_spec]
    omega
  | .any, h | .bool, h | .int, h | .float, h | .string, h | .bytes, h | .list _, h | .map _, h
  | .optional _, h => by cases h
termination_by structural t => t

end

/-- Induction over targets, where a record is taken apart by its flattened fields. -/
@[elab_as_elim]
theorem Target.induction {motive : Target → Prop} (any : motive .any)
    (scalar : ∀ t kind, t.scalarKind? = some kind → motive t)
    (list : ∀ item, motive item → motive (.list item))
    (map : ∀ item, motive item → motive (.map item))
    (optional : ∀ inner, motive inner → motive (.optional inner))
    (record : ∀ shape : Shape, (∀ f ∈ shape.flattened, motive f.target) → motive (.record shape))
    (t : Target) : motive t := by
  have again (u : Target) (_ : sizeOf u < sizeOf t) : motive u :=
    Target.induction any scalar list map optional record u
  match t with
  | .any => exact any
  | .bool | .int | .float | .string | .bytes => exact scalar _ _ rfl
  | .list item => exact list item (again item (by simp))
  | .map item => exact map item (again item (by simp))
  | .optional inner => exact optional inner (again inner (by simp))
  | .record shape =>
    refine record shape fun f hf => again f.target ?_
    have hshape := shape.sizeOf_lt_of_mem_flattened hf
    rw [Target.record.sizeOf_spec]
    omega
termination_by sizeOf t

mutual

/-- The targets of the flattened fields of an unambiguous record are unambiguous. -/
theorem Shape.unambiguous_of_mem_flattened {f : FieldShape} :
    ∀ s : Shape, s.Unambiguous → f ∈ s.flattened → f.target.Unambiguous
  | ⟨_, fields⟩, h => unambiguous_of_mem_flattenedFields fields h.2.2
termination_by structural s => s

/-- The targets of the flattened fields of unambiguous fields are unambiguous. -/
theorem unambiguous_of_mem_flattenedFields {f : FieldShape} :
    ∀ fields : List FieldShape, FieldsUnambiguous fields → f ∈ flattenedFields fields →
      f.target.Unambiguous
  | [], _, hf => by cases hf
  | ⟨name, sourceKey, target, required, convert, embedded⟩ :: fields, h, hf => by
    rcases List.mem_append.mp hf with hfirst | hrest
    · cases embedded with
      | true => exact target.unambiguous_of_mem_flattened h.1 hfirst
      | false =>
        rw [List.mem_singleton.mp hfirst]
        exact h.1
    · exact unambiguous_of_mem_flattenedFields fields h.2 hrest
termination_by structural fields => fields

/-- The targets of the flattened fields of an unambiguous embedded record are unambiguous. -/
theorem Target.unambiguous_of_mem_flattened {f : FieldShape} :
    ∀ t : Target, t.Unambiguous → f ∈ t.flattened → f.target.Unambiguous
  | .record shape, h, hf => shape.unambiguous_of_mem_flattened h hf
  | .any, _, hf | .bool, _, hf | .int, _, hf | .float, _, hf | .string, _, hf | .bytes, _, hf
  | .list _, _, hf | .map _, _, hf | .optional _, _, hf => by cases hf
termination_by structural t => t

end

/-- The names of the flattened fields of an unambiguous record are distinct. -/
lemma Shape.Unambiguous.names {s : Shape} (h : s.Unambiguous) :
    (s.flattened.map FieldShape.name).Nodup := by
  obtain ⟨name, fields⟩ := s
  exact h.1

/-- The source keys of the flattened fields of an unambiguous record are distinct. -/
lemma Shape.Unambiguous.sourceKeys {s : Shape} (h : s.Unambiguous) :
    (s.flattened.map FieldShape.sourceKey).Nodup := by
  obtain ⟨name, fields⟩ := s
  exact h.2.1

/-- Unambiguous targets are stable. -/
theorem Target.stable (t : Target) : t.Unambiguous → t.Stable := by
  induction t using Target.induction with
  | any => exact fun _ _ _ _ _ => rfl
  | scalar t kind ht => exact fun _ => stable_of_scalarKind? ht
  | list item ih => exact fun h => (ih h).list
  | map item ih => exact fun h => (ih h).map
  | optional inner ih => exact fun h => (ih h).optional
  | record shape ih =>
    intro h
    exact .record h.names h.sourceKeys fun f hf =>
      ih f hf (shape.unambiguous_of_mem_flattened h hf)

/-- Unambiguous records are stable. -/
theorem Shape.stable (s : Shape) (h : s.Unambiguous) : (Target.record s).Stable :=
  Target.stable (.record s) h

/-- **Coercion is stable.** When no record inside a shape uses a name or a source key twice, a map
that coerces to a record coerces to the same record, with its keys in the same order, after the
record is restored.

**Proof sketch.** Induction over targets and shapes. Scalars yield their own kind and restore as
they are, lists and maps are stable item by item, and a record is stable because each flattened
field reads again what it read. -/
theorem coerceValue_restoreValue {shape : Shape} (hshape : shape.Unambiguous) {source n : Value}
    (h : coerceValue (.record shape) source = .ok n) :
    coerceValue (.record shape) (restoreValue (.record shape) n) = .ok n :=
  shape.stable hshape false source n h

/-- A record that uses every feature is unambiguous. -/
lemma complex_unambiguous : (Record.shape Complex).Unambiguous :=
  ⟨by decide, by decide, ⟨by decide, by decide, trivial, trivial, trivial⟩, trivial, trivial,
    trivial, trivial, ⟨by decide, by decide, trivial, trivial⟩,
    ⟨by decide, by decide, trivial, trivial⟩, trivial, trivial⟩

/-- A map that gives every field of `Complex` but one, with a text for bytes and two nulls. -/
def complexSource : Value :=
  .map [("Bar", .int 7), ("name", .string "n"), ("foo", .string "f"), ("payload", .string "p"),
    ("maybe", .map [("zap", .string "z")]), ("zap_list", .list [.map [("zap", .null)]]),
    ("anything", .null)]

/-- A record that uses every feature is coerced, restored and coerced again. -/
theorem complex_coerceValue_restoreValue :
    ∃ n, coerceValue (.record (Record.shape Complex)) complexSource = .ok n ∧
      coerceValue (.record (Record.shape Complex))
        (restoreValue (.record (Record.shape Complex)) n) = .ok n :=
  ⟨_, rfl, coerceValue_restoreValue complex_unambiguous
    (show coerceValue _ complexSource = _ from rfl)⟩

end Intake
