import Intake.Proofs.Record.Stability

set_option autoImplicit false

/-!
# First failures

A coercion of items, entries or fields fails as the first of them that fails, and all before it
coerce. What the fields before it have put into the record makes no difference, so that a field
fails in a record as it does by itself.

## Main definitions

* `FirstBad` — the first item of a list that is not good, and what is bad about it.
* `FieldShape.Coerces` — a field that does not fail by itself.

## Main results

* `coerce_list_eq_error_iff`, `coerce_map_eq_error_iff` — lists and maps, by their first bad part.
* `map_unit_coerceFields` — a failure does not depend on the entries that are there already.
* `coerceFields_eq_error_iff` — fields, by the first one that fails by itself.
* `coerce_eq_error_iff_of_scalarKind?` — scalars, by what is wrong with their value.
-/

namespace Intake

/-! ### The first failure of a walk -/

/-- The first item of a list that is not good is bad at its place. -/
def FirstBad {α : Type} (good : α → Prop) (bad : Nat → α → Prop) (items : List α) : Prop :=
  ∃ before x after, items = before ++ x :: after ∧ (∀ y ∈ before, good y) ∧ bad before.length x

section FirstBad

variable {α : Type} {good : α → Prop} {bad : Nat → α → Prop}

/-- No items, none of them bad. -/
lemma not_firstBad_nil : ¬ FirstBad good bad [] := by
  rintro ⟨before, x, after, h, -⟩
  simp at h

/-- The first item is bad, or it is good and another one behind it is the first bad one. -/
lemma firstBad_cons {x : α} {items : List α} :
    FirstBad good bad (x :: items) ↔
      bad 0 x ∨ good x ∧ FirstBad good (fun i => bad (i + 1)) items := by
  constructor
  · rintro ⟨before, y, after, h, hgood, hbad⟩
    cases before with
    | nil =>
      obtain ⟨rfl, rfl⟩ := List.cons.inj h
      exact .inl hbad
    | cons z before =>
      obtain ⟨rfl, rfl⟩ := List.cons.inj h
      obtain ⟨hx, hbefore⟩ := List.forall_mem_cons.mp hgood
      exact .inr ⟨hx, before, y, after, rfl, hbefore, hbad⟩
  · rintro (hbad | ⟨hx, before, y, after, rfl, hbefore, hbad⟩)
    · exact ⟨[], x, items, rfl, List.forall_mem_nil _, hbad⟩
    · exact ⟨x :: before, y, after, rfl, List.forall_mem_cons.mpr ⟨hx, hbefore⟩, hbad⟩

end FirstBad

/-- Items fail as the first of them that fails, at its index. -/
lemma coerceItems_eq_error_iff {f : Value → Except CoerceError Value} {i : Nat}
    {items : List Value} {e : CoerceError} :
    coerceItems f i items = .error e ↔
      FirstBad (fun w => ∃ x, f w = .ok x)
        (fun n v => ∃ e', f v = .error e' ∧ e = e'.behind (.index (i + n))) items := by
  induction items generalizing i with
  | nil => simp [coerceItems, not_firstBad_nil]
  | cons v rest ih =>
    rw [coerceItems, firstBad_cons]
    cases f v with
    | error e' => simp [eq_comm]
    | ok w => simp [map_eq_error_iff, ih, Nat.add_assoc, Nat.add_comm 1]

/-- Entries fail as the first of them that fails, under its key. -/
lemma coerceEntries_eq_error_iff {f : Value → Except CoerceError Value} {entries : Dict Value}
    {e : CoerceError} :
    coerceEntries f entries = .error e ↔
      FirstBad (fun x => ∃ w, f x.2 = .ok w)
        (fun _ x => ∃ e', f x.2 = .error e' ∧ e = e'.behind (.key x.1)) entries := by
  induction entries with
  | nil => simp [coerceEntries, not_firstBad_nil]
  | cons x rest ih =>
    obtain ⟨key, v⟩ := x
    rw [coerceEntries, firstBad_cons]
    dsimp only
    cases f v with
    | error e' => simp [eq_comm]
    | ok w => simp [map_eq_error_iff, ih]

/-- A list fails as the first of its items that fails. -/
lemma coerce_list_eq_error_iff {item : Target} {convert : Bool} {items : List Value}
    {e : CoerceError} :
    (Target.list item).coerce convert (.list items) = .error e ↔
      FirstBad (fun w => ∃ x, item.coerce false w = .ok x)
        (fun n v => ∃ e', item.coerce false v = .error e' ∧ e = e'.behind (.index n)) items := by
  simp only [Target.coerce_list, map_eq_error_iff, coerceItems_eq_error_iff, Nat.zero_add]

/-- A map fails as the first of its entries that fails. -/
lemma coerce_map_eq_error_iff {item : Target} {convert : Bool} {entries : Dict Value}
    {e : CoerceError} :
    (Target.map item).coerce convert (.map entries) = .error e ↔
      FirstBad (fun x => ∃ w, item.coerce false x.2 = .ok w)
        (fun _ x => ∃ e', item.coerce false x.2 = .error e' ∧ e = e'.behind (.key x.1))
        entries := by
  rw [Target.coerce_map, map_eq_error_iff, coerceEntries_eq_error_iff]

/-- A record fails as its shape does. -/
lemma coerce_record_eq_error_iff {shape : Shape} {convert : Bool} {source : Dict Value}
    {e : CoerceError} :
    (Target.record shape).coerce convert (.map source) = .error e ↔
      shape.coerceInto source [] = .error e := by
  rw [Target.coerce_record, map_eq_error_iff]

/-! ### Failures along fields -/

/-- A field coerces a map by itself. -/
def FieldShape.Coerces (source : Dict Value) (f : FieldShape) : Prop :=
  ∃ out, coerceFields [f] source [] = .ok out

mutual

/-- Whether and how a shape fails does not depend on the entries that are there already. -/
theorem Shape.map_unit_coerceInto (source : Dict Value) :
    ∀ (s : Shape) (done other : Dict Value),
      (s.coerceInto source done).map (fun _ => ()) =
        (s.coerceInto source other).map fun _ => ()
  | ⟨_, fields⟩, done, other => map_unit_coerceFields source fields done other
termination_by structural s => s

/-- Whether and how fields fail does not depend on the entries that are there already. -/
theorem map_unit_coerceFields (source : Dict Value) :
    ∀ (fields : List FieldShape) (done other : Dict Value),
      (coerceFields fields source done).map (fun _ => ()) =
        (coerceFields fields source other).map fun _ => ()
  | [], _, _ => rfl
  | ⟨name, sourceKey, target, required, convert, embedded⟩ :: fields, done, other => by
    have ih := map_unit_coerceFields source fields
    cases embedded with
    | true =>
      rw [coerceFields_cons_of_embedded rfl, coerceFields_cons_of_embedded rfl]
      have hinner := target.map_unit_coerceEmbedded source done other
      -- the embedded records may end with different entries, and the fields behind do not care
      dsimp only
      cases hdone : target.coerceEmbedded source done with
      | error e =>
        rw [hdone] at hinner
        rw [map_eq_error_iff.mp hinner.symm]
      | ok n =>
        rw [hdone] at hinner
        obtain ⟨m, hother, -⟩ := map_eq_ok_iff.mp hinner.symm
        rw [hother]
        exact ih n m
    | false =>
      rw [coerceFields_cons rfl, coerceFields_cons rfl]
      rcases FieldShape.coerceAt _ source with e | _ | w
      · rfl
      · exact ih done other
      · exact ih _ _
termination_by structural fields => fields

/-- Whether and how an embedded record fails does not depend on the entries that are there
already. -/
theorem Target.map_unit_coerceEmbedded (source : Dict Value) :
    ∀ (t : Target) (done other : Dict Value),
      (t.coerceEmbedded source done).map (fun _ => ()) =
        (t.coerceEmbedded source other).map fun _ => ()
  | .record shape, done, other => shape.map_unit_coerceInto source done other
  | .any, _, _ | .bool, _, _ | .int, _, _ | .float, _, _ | .string, _, _ | .bytes, _, _
  | .list _, _, _ | .map _, _, _ | .optional _, _, _ => rfl
termination_by structural t => t

end

/-- Fields fail as the first of them that fails does by itself. -/
lemma coerceFields_eq_error_iff {fields : List FieldShape} {source done : Dict Value}
    {e : CoerceError} :
    coerceFields fields source done = .error e ↔
      FirstBad (FieldShape.Coerces source) (fun _ f => coerceFields [f] source [] = .error e)
        fields := by
  induction fields generalizing done with
  | nil => simp [not_firstBad_nil]
  | cons f rest ih =>
    have hrest : coerceFields rest source done = .error e ↔ _ := ih
    have halone := map_unit_coerceFields source [f] done []
    rw [firstBad_cons, ← hrest, FieldShape.Coerces, ← List.singleton_append, coerceFields_append]
    cases hf : coerceFields [f] source done with
    | error e' =>
      rw [hf] at halone
      simp [Except.bind, map_eq_error_iff.mp halone.symm]
    | ok n =>
      rw [hf] at halone
      obtain ⟨m, hm, -⟩ := map_eq_ok_iff.mp halone.symm
      simp [Except.bind, hm, ih]

/-- An embedded field fails as what it embeds. -/
lemma coerceFields_singleton_of_embedded {f : FieldShape} (hf : f.embedded = true)
    {source : Dict Value} {e : CoerceError} :
    coerceFields [f] source [] = .error e ↔
      ∃ e', f.target.coerceEmbedded source [] = .error e' ∧
        e = e'.behind (.embedded f.sourceKey) := by
  rw [coerceFields_cons_of_embedded hf]
  cases f.target.coerceEmbedded source [] with
  | error e' => simp [eq_comm]
  | ok n => simp

/-- A target is embedded when it is a record, and then fails as the record. -/
lemma Target.coerceEmbedded_eq_error_iff {t : Target} {source : Dict Value} {e : CoerceError} :
    t.coerceEmbedded source [] = .error e ↔
      (∃ inner, t = .record inner ∧ inner.coerceInto source [] = .error e) ∨
        (∀ inner, t ≠ .record inner) ∧ e = ⟨.notRecord t, []⟩ := by
  cases t with
  | record shape => simp
  | any | bool | int | float | string | bytes | list | map | optional =>
    simpa [Target.coerceEmbedded_of_ne_record] using eq_comm

/-- A field that is not embedded fails when it is required and absent, or as its target does with
what is present. -/
lemma coerceFields_singleton {f : FieldShape} (hf : f.embedded = false)
    {source : Dict Value} {e : CoerceError} :
    coerceFields [f] source [] = .error e ↔
      (presentAt? source f.sourceKey = none ∧ f.required = true ∧
        e = ⟨.missing f.sourceKey, [.key f.sourceKey]⟩) ∨
      ∃ v e', presentAt? source f.sourceKey = some v ∧
        f.target.coerce f.convert v = .error e' ∧ e = e'.behind (.key f.sourceKey) := by
  rw [coerceFields_cons hf, FieldShape.coerceAt]
  cases presentAt? source f.sourceKey with
  | none => cases f.required <;> simp [eq_comm]
  | some v =>
    dsimp only
    cases hv : f.target.coerce f.convert v with
    | error e' => simpa [hv] using eq_comm
    | ok w => simp [hv]

/-! ### Failures of scalars -/

/-- A float that is no integer of 64 bits fails as such. -/
lemma coerceToInt_eq_error_iff {x : Binary64} {fault : CoerceFault} :
    coerceToInt x = .error fault ↔ (∀ w, coerceToInt x ≠ .ok w) ∧ fault = .notIntegral x := by
  simp only [coerceToInt]
  split_ifs with hx
  · simp
  · simpa using eq_comm

/-- A conversion fails for floats that are no integers of 64 bits and for bytes that are no text. -/
lemma convert?_eq_error_iff {t : Target} {v : Value} {fault : CoerceFault} :
    convert? t v = some (.error fault) ↔
      (∃ x, t = .int ∧ v = .float x ∧ (∀ w, coerceToInt x ≠ .ok w) ∧ fault = .notIntegral x) ∨
      ∃ data, t = .string ∧ v = .bytes data ∧ utf8Text? data = none ∧ fault = .notUtf8 := by
  fun_cases convert? t v with
  | case1 n => simp
  | case2 x => simp [coerceToInt_eq_error_iff]
  | case3 s => simp
  | case4 data => cases hdata : utf8Text? data <;> simp [hdata, eq_comm]
  | case5 t v h1 h2 h3 h4 =>
    simp only [reduceCtorEq, false_iff, not_or, not_exists, not_and]
    exact ⟨fun x ht hv => (h2 x ht hv).elim, fun data ht hv => (h4 data ht hv).elim⟩

/-- A scalar target fails for values of another kind that it does not convert, and where a
conversion fails. -/
lemma coerceScalar_eq_error_iff {t : Target} {kind : ValueKind} {convert : Bool} {v : Value}
    {fault : CoerceFault} :
    coerceScalar t kind convert v = .error fault ↔
      v.kind ≠ kind ∧ ((convert = true → convert? t v = none) ∧ fault = .mismatch v.kind t ∨
        convert = true ∧ convert? t v = some (.error fault)) := by
  rw [coerceScalar]
  by_cases hkind : v.kind = kind
  · simp [hkind]
  · cases convert with
    | false => simpa [hkind] using eq_comm
    | true => cases convert? t v <;> simp [hkind, eq_comm]

/-- A scalar target fails on the spot. -/
lemma coerce_eq_error_iff_of_scalarKind? {t : Target} {kind : ValueKind}
    (ht : t.scalarKind? = some kind) {convert : Bool} {v : Value} {e : CoerceError} :
    t.coerce convert v = .error e ↔
      coerceScalar t kind convert v = .error e.fault ∧ e.path = [] := by
  obtain ⟨fault, path⟩ := e
  rw [coerce_of_scalarKind? ht, mapError_eq_error_iff]
  constructor
  · rintro ⟨fault', hfault, heq⟩
    obtain ⟨rfl, rfl⟩ := CoerceError.mk.inj heq
    exact ⟨hfault, rfl⟩
  · rintro ⟨hfault, rfl⟩
    exact ⟨fault, hfault, rfl⟩

end Intake
