import Intake.Proofs.Data.Records
import Intake.Proofs.Form.Closed
import Intake.Proofs.Record.Flatten
import Intake.Record.Basic

set_option autoImplicit false

/-!
# Columns

A parameter stands in three places: the form of the parameters checks its raw value, the shape of
the record coerces what the form leaves, and the codec of the record reads what the shape gives. A
column is such a parameter, with all three places side by side.

## Main definitions

* `readAs?` — a checked value as an element of a type: coerced and then read.
* `Column` — a parameter with its places in the form, the shape and the codec.
* `Column.read?` — what becomes of a raw value on the way through the three places.

## Main results

* `Column.read?_eq_some_iff` — the three places, one after another.
-/

namespace Intake

/-- A checked value as an element of a type: it is coerced into a target, and the result is read. -/
def readAs? (β : Type) [DataCodec β] (target : Target) (convert : Bool) (v : Value) : Option β :=
  (target.coerce convert v).toOption.bind fun w =>
    ((DataCodec.dataType β).read w).toOption.bind ofDatum?

/-- A value becomes an element when it can be coerced and the result be read. -/
lemma readAs?_eq_some_iff {β : Type} [DataCodec β] {target : Target} {convert : Bool} {v : Value}
    {b : β} :
    readAs? β target convert v = some b ↔
      ∃ w, target.coerce convert v = .ok w ∧
        ∃ d, (DataCodec.dataType β).read w = .ok d ∧ ofDatum? d = some b := by
  simp [readAs?, Option.bind_eq_some_iff, toOption_eq_some_iff]

/-- A value that is there and not null. -/
def present? (v : Option Value) : Option Value := v.filter fun v => !v.isNull

/-- What is not null is present. -/
lemma present?_of_ne_null {v : Value} (h : v ≠ .null) : present? (some v) = some v := by
  cases v with
  | null => exact absurd rfl h
  | bool | int | float | string | bytes | list | map => rfl

/-- What is present is not null. -/
lemma present?_eq_some_iff {s : Option Value} {v : Value} :
    present? s = some v ↔ s = some v ∧ v ≠ .null := by
  rcases s with _ | w
  · simp [present?]
  · by_cases hw : w = .null
    · subst hw
      simp only [present?, Option.filter_some, Value.isNull, Bool.not_true, Bool.false_eq_true,
        if_false, reduceCtorEq, Option.some.injEq, false_iff, not_and, not_not]
      exact Eq.symm
    · rw [present?_of_ne_null hw, Option.some.injEq, iff_self_and]
      rintro rfl
      exact hw

/-- A parameter of a record. -/
structure Column (β : Type) where
  /-- The name of the field in the record. -/
  name : String
  /-- The key that the parameter is given under. -/
  key : String
  /-- The rules for the raw value. -/
  chain : List Rule
  target : Target
  required : Bool
  convert : Bool
  /-- What stands for a missing value. -/
  fallback : β

namespace Column

variable {β : Type}

/-- The field of the form. -/
def field (c : Column β) : Field := .new c.key c.chain

/-- The field of the shape. -/
def shape (c : Column β) : FieldShape := ⟨c.name, c.key, c.target, c.required, c.convert, false⟩

/-- The field of the codec. -/
def data [DataCodec β] (c : Column β) : RecordField := .of c.name c.fallback

/-- What the rules leave of a raw value. -/
def settled? (c : Column β) (v : Value) : Option (Option Value) :=
  if c.chain.isEmpty then some (some v) else settle? c.chain none v

/-- The element that a raw value becomes; null is given for a missing value. -/
def read? [DataCodec β] (c : Column β) (v : Value) : Option β :=
  (c.settled? v).bind fun s =>
    match present? s with
    | none => if c.required then none else ofDatum? (toDatum c.fallback)
    | some w => readAs? β c.target c.convert w

/-- Without rules, a missing parameter takes its fallback unless it is required. -/
lemma read?_null_of_unchecked [DataCodec β] {c : Column β} (h : c.chain = []) :
    c.read? .null = if c.required then none else ofDatum? (toDatum c.fallback) := by
  rw [read?, settled?, h]
  rfl

/-- Without rules, a parameter that is there is coerced and read. -/
lemma read?_of_unchecked [DataCodec β] {c : Column β} (h : c.chain = []) {v : Value}
    (hv : v ≠ .null) : c.read? v = readAs? β c.target c.convert v := by
  have hsettled : c.settled? v = some (some v) := by
    rw [settled?, h]
    rfl
  rw [read?, hsettled, Option.bind_some, present?_of_ne_null hv]

/-- Null counts as absent. -/
lemma presentAt?_eq (source : Dict Value) (key : String) :
    presentAt? source key = present? (source.find? key) := by
  rw [presentAt?]
  rcases source.find? key with _ | v
  · rfl
  · cases v <;> rfl

/-- The outcome of the field of the form is what the rules leave of the raw value. -/
lemma outcome?_field (c : Column β) (input : Dict Value) :
    (c.field.outcome? input).map present? =
      (c.settled? ((input.find? c.key).getD .null)).map present? := by
  rw [Field.outcome?, settled?]
  by_cases hc : c.chain.isEmpty
  · have hfield : c.field.chain.isEmpty := hc
    rw [if_pos hfield, if_pos hc]
    have hname : c.field.name = c.key := rfl
    rw [hname]
    cases input.find? c.key <;> rfl
  · have hfield : ¬c.field.chain.isEmpty := hc
    rw [if_neg hfield, if_neg hc]
    rfl

/-- A raw value becomes an element when the form passes it, the shape coerces what the form leaves
and the codec reads what the shape gives. -/
theorem read?_eq_some_iff [DataCodec β] (c : Column β) {input checked record : Dict Value} {b : β}
    (hchecked : checked.find? c.key = c.field.left? input)
    (hrecord : record.find? c.name = c.shape.coerced? checked) :
    c.read? ((input.find? c.key).getD .null) = some b ↔
      (∃ s, c.field.outcome? input = some s) ∧ (∃ w, c.shape.coerceAt checked = .ok w) ∧
        ∃ d, c.data.readAt record = .ok d ∧ ofDatum? d = some b := by
  have houtcome := c.outcome?_field input
  rw [Field.left?] at hchecked
  rw [read?]
  cases hs : c.field.outcome? input with
  | none =>
    rw [hs, Option.map_none, eq_comm, Option.map_eq_none_iff] at houtcome
    simp [houtcome]
  | some s =>
    rw [hs, Option.map_some, eq_comm, Option.map_eq_some_iff] at houtcome
    obtain ⟨t, ht, hpresent⟩ := houtcome
    rw [hs, Option.join_some] at hchecked
    have hat : presentAt? checked c.key = present? s := by rw [presentAt?_eq, hchecked]
    have hkey : c.shape.sourceKey = c.key := rfl
    rw [ht, Option.bind_some, hpresent, FieldShape.coerceAt, hkey, hat]
    rw [FieldShape.coerced?, FieldShape.coerceAt, hkey, hat] at hrecord
    have hname : c.data.name = c.name := rfl
    rw [RecordField.readAt, hname]
    cases hp : present? s with
    | none =>
      rw [hp] at hrecord
      cases hrequired : c.required with
      | true =>
        have hshape : c.shape.required = true := hrequired
        simp [hshape]
      | false =>
        have hshape : c.shape.required = false := hrequired
        have hmissing : c.data.missing = .ok (toDatum c.fallback) := rfl
        simp only [hshape, Bool.false_eq_true, if_false] at hrecord ⊢
        rw [hrecord]
        simp [hmissing]
    | some w =>
      have htarget : c.shape.target.coerce c.shape.convert w = c.target.coerce c.convert w := rfl
      have htype : c.data.type = DataCodec.dataType β := rfl
      rw [hp] at hrecord
      dsimp only at hrecord ⊢
      rw [htarget] at hrecord ⊢
      rw [readAs?_eq_some_iff]
      cases hw : c.target.coerce c.convert w with
      | error e => simp
      | ok x =>
        rw [hw] at hrecord
        rw [hrecord, htype]
        simp

end Column

end Intake
