import Intake.Proofs.Record.Failure
import Intake.Proofs.Value.Parts

set_option autoImplicit false

/-!
# The culprit of a failed coercion

A coercion walks a target and a value side by side, and the first failure ends the walk. The path of
the error leads from the source to that failure: each of its keys and indices enters a part of a
value, except for the steps into embedded records, which stay at the same map. Everything that the
walk leaves behind it, in the order of lists, maps and shapes, coerces.

## Main definitions

* `Spot` — where a coercion stands.
* `Spot.Step`, `Spot.Reaches` — how a coercion moves on, by a step and by any number of them.
* `Spot.Rejects` — what can be wrong where a coercion stands.
* `Value.follow?` — the value at the end of a path.

## Main results

* `Spot.fails_iff_step` — a coercion fails on the spot or with its next step.
* `Spot.fails_iff` — a coercion fails with what is wrong where its path leads.
* `coerceValue_eq_error_iff` — the same from the top, with the path followed into the source.

## Design

A spot names the target along with the value, because a path alone does not say which fields it runs
through. One lemma says what a single step can do, and the rest is induction over the steps.
-/

namespace Intake

/-! ### Definitions -/

/-- The kind of the values that a target takes, unless it takes more than one kind. -/
def Target.ownKind? : Target → Option ValueKind
  | .list _ => some .list
  | .map _ => some .map
  | .record _ => some .map
  | t => t.scalarKind?

/-- Where a coercion stands. -/
inductive Spot where
  /-- At a value that is coerced into a target. -/
  | value (target : Target) (convert : Bool) (v : Value)
  /-- At a map that the fields of a shape are read from. -/
  | fields (shape : Shape) (source : Dict Value)

namespace Spot

/-- The value that a coercion stands at. -/
def held : Spot → Value
  | .value _ _ v => v
  | .fields _ source => .map source

/-- A coercion fails from where it stands. -/
def Fails : Spot → CoerceError → Prop
  | .value t convert v, e => t.coerce convert v = .error e
  | .fields shape source, e => shape.coerceInto source [] = .error e

/-- A coercion moves on to a part that it comes to, with what this adds to the path. All that stands
before the part coerces. -/
inductive Step : Spot → List PathStep → Spot → Prop
  | optional {inner : Target} {convert : Bool} {v : Value} : v ≠ .null →
      Step (.value (.optional inner) convert v) [] (.value inner convert v)
  | item {item : Target} {convert : Bool} {before after : List Value} {v : Value} :
      (∀ w ∈ before, ∃ x, item.coerce false w = .ok x) →
      Step (.value (.list item) convert (.list (before ++ v :: after))) [.index before.length]
        (.value item false v)
  | entry {item : Target} {convert : Bool} {before after : Dict Value} {key : String} {v : Value} :
      (∀ e ∈ before, ∃ x, item.coerce false e.2 = .ok x) →
      Step (.value (.map item) convert (.map (before ++ (key, v) :: after))) [.key key]
        (.value item false v)
  | record {shape : Shape} {convert : Bool} {source : Dict Value} :
      Step (.value (.record shape) convert (.map source)) [] (.fields shape source)
  | field {name : String} {before after : List FieldShape} {f : FieldShape} {source : Dict Value}
      {v : Value} : (∀ g ∈ before, g.Coerces source) → f.embedded = false →
      presentAt? source f.sourceKey = some v →
      Step (.fields ⟨name, before ++ f :: after⟩ source) [.key f.sourceKey]
        (.value f.target f.convert v)
  | embedded {name : String} {before after : List FieldShape} {f : FieldShape}
      {source : Dict Value} {inner : Shape} : (∀ g ∈ before, g.Coerces source) →
      f.embedded = true → f.target = .record inner →
      Step (.fields ⟨name, before ++ f :: after⟩ source) [.embedded f.sourceKey]
        (.fields inner source)

/-- A coercion moves on by any number of steps, with what they add to the path. -/
inductive Reaches : Spot → List PathStep → Spot → Prop
  | refl {s : Spot} : Reaches s [] s
  | step {s next last : Spot} {path rest : List PathStep} : Step s path next →
      Reaches next rest last → Reaches s (path ++ rest) last

/-- What is wrong where a coercion stands, with what this adds to the path. -/
inductive Rejects : Spot → List PathStep → CoerceFault → Prop
  /-- A value is neither of the kind that its target takes nor converted into it. -/
  | mismatch {t : Target} {kind : ValueKind} {convert : Bool} {v : Value} :
      t.ownKind? = some kind → v.kind ≠ kind → (convert = true → convert? t v = none) →
      Rejects (.value t convert v) [] (.mismatch v.kind t)
  /-- A float that would have to be converted is no integer of 64 bits. -/
  | notIntegral {x : Binary64} : (∀ w, coerceToInt x ≠ .ok w) →
      Rejects (.value .int true (.float x)) [] (.notIntegral x)
  /-- Bytes that would have to be converted are no text. -/
  | notUtf8 {data : List UInt8} : utf8Text? data = none →
      Rejects (.value .string true (.bytes data)) [] .notUtf8
  /-- A required field is absent or null, and all fields before it coerce. -/
  | missing {name : String} {before after : List FieldShape} {f : FieldShape}
      {source : Dict Value} : (∀ g ∈ before, g.Coerces source) → f.embedded = false →
      f.required = true → presentAt? source f.sourceKey = none →
      Rejects (.fields ⟨name, before ++ f :: after⟩ source) [.key f.sourceKey]
        (.missing f.sourceKey)
  /-- An embedded field is no record, and all fields before it coerce. -/
  | notRecord {name : String} {before after : List FieldShape} {f : FieldShape}
      {source : Dict Value} : (∀ g ∈ before, g.Coerces source) → f.embedded = true →
      (∀ inner, f.target ≠ .record inner) →
      Rejects (.fields ⟨name, before ++ f :: after⟩ source) [.embedded f.sourceKey]
        (.notRecord f.target)

end Spot

/-- Whether a step of a path enters a part of a value: a step into an embedded record stays at the
map that the record is read from. -/
def PathStep.enters : PathStep → Bool
  | .embedded _ => false
  | _ => true

/-- The part of a value that a key or an index leads to. -/
def Value.enter? : Value → PathStep → Option Value
  | .list items, .index i => items[i]?
  | .map entries, .key key => Dict.find? entries key
  | _, _ => none

/-- The value at the end of a path of keys and indices. -/
def Value.follow? (v : Value) (path : List PathStep) : Option Value := path.foldlM Value.enter? v

/-! ### One step -/

/-- Where a target takes values of one kind, others mismatch unless they are converted. -/
lemma Target.coerce_mismatch {t : Target} {kind : ValueKind} {convert : Bool} {v : Value}
    (ht : t.ownKind? = some kind) (hkind : v.kind ≠ kind)
    (hconvert : convert = true → convert? t v = none) :
    t.coerce convert v = .error ⟨.mismatch v.kind t, []⟩ := by
  cases t with
  | any | optional => cases ht
  | bool | int | float | string | bytes =>
    cases ht
    have hfails := coerceScalar_eq_error_iff.mpr ⟨hkind, .inl ⟨hconvert, rfl⟩⟩
    exact (coerce_eq_error_iff_of_scalarKind? rfl).mpr ⟨hfails, rfl⟩
  | list | map | record =>
    cases ht
    cases v <;> first | rfl | exact absurd rfl hkind

namespace Spot

variable {s next : Spot} {path : List PathStep} {e : CoerceError}

/-- A coercion fails with what is wrong where it stands. -/
lemma fails_of_rejects {fault : CoerceFault} (h : s.Rejects path fault) :
    s.Fails ⟨fault, path⟩ := by
  cases h with
  | mismatch ht hkind hconvert => exact Target.coerce_mismatch ht hkind hconvert
  | notIntegral hx =>
    have hconvert := convert?_eq_error_iff.mpr (.inl ⟨_, rfl, rfl, hx, rfl⟩)
    refine (coerce_eq_error_iff_of_scalarKind? rfl).mpr ⟨coerceScalar_eq_error_iff.mpr ?_, rfl⟩
    exact ⟨nofun, .inr ⟨rfl, hconvert⟩⟩
  | notUtf8 hdata =>
    have hconvert := convert?_eq_error_iff.mpr (.inr ⟨_, rfl, rfl, hdata, rfl⟩)
    refine (coerce_eq_error_iff_of_scalarKind? rfl).mpr ⟨coerceScalar_eq_error_iff.mpr ?_, rfl⟩
    exact ⟨nofun, .inr ⟨rfl, hconvert⟩⟩
  | missing hbefore hf hrequired habsent =>
    refine coerceFields_eq_error_iff.mpr ⟨_, _, _, rfl, hbefore, ?_⟩
    exact (coerceFields_singleton hf).mpr (.inl ⟨habsent, hrequired, rfl⟩)
  | notRecord hbefore hf ht =>
    refine coerceFields_eq_error_iff.mpr ⟨_, _, _, rfl, hbefore, ?_⟩
    refine (coerceFields_singleton_of_embedded hf).mpr ⟨⟨.notRecord _, []⟩, ?_, rfl⟩
    exact Target.coerceEmbedded_eq_error_iff.mpr (.inr ⟨ht, rfl⟩)

/-- A coercion fails as its next step does. -/
lemma fails_of_step (h : s.Step path next) (hnext : next.Fails e) :
    s.Fails ⟨e.fault, path ++ e.path⟩ := by
  cases h with
  | optional hv => exact (coerce_optional hv _ _).trans hnext
  | item hbefore =>
    exact coerce_list_eq_error_iff.mpr ⟨_, _, _, rfl, hbefore, e, hnext, rfl⟩
  | entry hbefore =>
    exact coerce_map_eq_error_iff.mpr ⟨_, _, _, rfl, hbefore, e, hnext, rfl⟩
  | record => exact coerce_record_eq_error_iff.mpr hnext
  | field hbefore hf hv =>
    refine coerceFields_eq_error_iff.mpr ⟨_, _, _, rfl, hbefore, ?_⟩
    exact (coerceFields_singleton hf).mpr (.inr ⟨_, e, hv, hnext, rfl⟩)
  | embedded hbefore hf ht =>
    refine coerceFields_eq_error_iff.mpr ⟨_, _, _, rfl, hbefore, ?_⟩
    refine (coerceFields_singleton_of_embedded hf).mpr ⟨e, ?_, rfl⟩
    exact Target.coerceEmbedded_eq_error_iff.mpr (.inl ⟨_, ht, hnext⟩)

/-- Scalars fail on the spot. -/
lemma rejects_of_scalarKind? {t : Target} {kind : ValueKind} (ht : t.scalarKind? = some kind)
    {convert : Bool} {v : Value} (h : (value t convert v).Fails e) :
    (value t convert v).Rejects e.path e.fault := by
  have hown : t.ownKind? = some kind := by cases t <;> first | exact ht | cases ht
  obtain ⟨fault, path⟩ := e
  obtain ⟨hfails, rfl⟩ := (coerce_eq_error_iff_of_scalarKind? ht).mp h
  obtain ⟨hkind, ⟨hnone, rfl⟩ | ⟨rfl, hconvert⟩⟩ := coerceScalar_eq_error_iff.mp hfails
  · exact .mismatch hown hkind hnone
  · obtain ⟨x, rfl, rfl, hx, rfl⟩ | ⟨data, rfl, rfl, hdata, rfl⟩ :=
      convert?_eq_error_iff.mp hconvert
    · exact .notIntegral hx
    · exact .notUtf8 hdata

/-- A coercion fails with its next step. -/
def FailsFurther (s : Spot) (e : CoerceError) : Prop :=
  ∃ path next e', s.Step path next ∧ next.Fails e' ∧ e = ⟨e'.fault, path ++ e'.path⟩

/-- A value that does not coerce is rejected itself, or a part of it does not coerce. -/
lemma rejects_or_failsFurther_of_value {t : Target} {convert : Bool} {v : Value}
    (h : (value t convert v).Fails e) :
    (value t convert v).Rejects e.path e.fault ∨ (value t convert v).FailsFurther e := by
  cases t with
  | any => cases h
  | bool | int | float | string | bytes => exact .inl (rejects_of_scalarKind? rfl h)
  | optional inner =>
    by_cases hv : v = .null
    · subst hv
      cases h
    · exact .inr ⟨_, _, e, .optional hv, (coerce_optional hv inner convert).symm.trans h, rfl⟩
  -- a value of another kind fails on the spot, any other with its first part that fails
  | list item =>
    cases v with
    | list items =>
      obtain ⟨before, v, after, rfl, hbefore, e', he', rfl⟩ :=
        coerce_list_eq_error_iff.mp h
      exact .inr ⟨_, _, e', .item hbefore, he', rfl⟩
    | null | bool | int | float | string | bytes | map =>
      cases h
      exact .inl (.mismatch rfl nofun fun _ => rfl)
  | map item =>
    cases v with
    | map entries =>
      obtain ⟨before, x, after, rfl, hbefore, e', he', rfl⟩ :=
        coerce_map_eq_error_iff.mp h
      exact .inr ⟨_, _, e', .entry hbefore, he', rfl⟩
    | null | bool | int | float | string | bytes | list =>
      cases h
      exact .inl (.mismatch rfl nofun fun _ => rfl)
  | record shape =>
    cases v with
    | map source => exact .inr ⟨_, _, e, .record, coerce_record_eq_error_iff.mp h, rfl⟩
    | null | bool | int | float | string | bytes | list =>
      cases h
      exact .inl (.mismatch rfl nofun fun _ => rfl)

/-- Of fields that do not coerce, one is wrong itself, or what it reads does not coerce. -/
lemma rejects_or_failsFurther_of_fields {shape : Shape} {source : Dict Value}
    (h : (fields shape source).Fails e) :
    (fields shape source).Rejects e.path e.fault ∨ (fields shape source).FailsFurther e := by
  obtain ⟨name, fields⟩ := shape
  obtain ⟨before, f, after, rfl, hbefore, halone⟩ := coerceFields_eq_error_iff.mp h
  cases hf : f.embedded with
  | true =>
    obtain ⟨e', hinner, rfl⟩ := (coerceFields_singleton_of_embedded hf).mp halone
    obtain ⟨inner, ht, he'⟩ | ⟨ht, rfl⟩ := Target.coerceEmbedded_eq_error_iff.mp hinner
    · exact .inr ⟨_, _, e', .embedded hbefore hf ht, he', rfl⟩
    · exact .inl (.notRecord hbefore hf ht)
  | false =>
    obtain ⟨habsent, hrequired, rfl⟩ | ⟨v, e', hv, he', rfl⟩ :=
      (coerceFields_singleton hf).mp halone
    · exact .inl (.missing hbefore hf hrequired habsent)
    · exact .inr ⟨_, _, e', .field hbefore hf hv, he', rfl⟩

/-- A coercion fails with what is wrong where it stands or with its next step. -/
theorem fails_iff_step : s.Fails e ↔ s.Rejects e.path e.fault ∨ s.FailsFurther e := by
  constructor
  · cases s with
    | value t convert v => exact rejects_or_failsFurther_of_value
    | fields shape source => exact rejects_or_failsFurther_of_fields
  · rintro (h | ⟨path, next, e', hstep, he', rfl⟩)
    · exact fails_of_rejects h
    · exact fails_of_step hstep he'

/-! ### Any number of steps -/

/-- The size of the target or shape that a coercion stands before. -/
noncomputable def size : Spot → Nat
  | value t _ _ => sizeOf t
  | fields shape _ => sizeOf shape

/-- The target of a field is smaller than the shape. -/
lemma sizeOf_target_lt (name : String) (before after : List FieldShape) (f : FieldShape) :
    sizeOf f.target < sizeOf (Shape.mk name (before ++ f :: after)) := by
  have hfields : sizeOf f < sizeOf (before ++ f :: after) := List.sizeOf_lt_of_mem (by simp)
  obtain ⟨_, _, target, _, _, _⟩ := f
  rw [FieldShape.mk.sizeOf_spec] at hfields
  rw [Shape.mk.sizeOf_spec]
  dsimp only
  omega

/-- Every step leads to a smaller target or shape. -/
lemma size_lt_of_step (h : s.Step path next) : next.size < s.size := by
  cases h with
  | optional | item | entry | record => simp [size]
  | field => exact sizeOf_target_lt _ _ _ _
  | @embedded name before after f source inner hbefore hf ht =>
    have htarget := sizeOf_target_lt name before after f
    rw [ht, Target.record.sizeOf_spec] at htarget
    simp only [size]
    omega

/-- A coercion fails with what is wrong where its path leads.

**Proof sketch.** From left to right, every step leads to something smaller, so that a coercion that
goes on failing further comes to a spot where something is wrong. From right to left, the failure
comes back through the steps. -/
theorem fails_iff :
    s.Fails e ↔ ∃ path last spot,
      e.path = path ++ last ∧ s.Reaches path spot ∧ spot.Rejects last e.fault := by
  constructor
  · -- on the size of the target or shape, since the value may stay the same in a step
    induction hsize : s.size using Nat.strong_induction_on generalizing s e with
    | h n ih =>
      intro h
      obtain hrejects | ⟨path, next, e', hstep, he', rfl⟩ := fails_iff_step.mp h
      · exact ⟨[], e.path, s, rfl, .refl, hrejects⟩
      · obtain ⟨rest, last, spot, hpath, hreaches, hrejects⟩ :=
          ih next.size (hsize ▸ size_lt_of_step hstep) rfl he'
        exact ⟨path ++ rest, last, spot, by simp [hpath], .step hstep hreaches, hrejects⟩
  · obtain ⟨fault, path⟩ := e
    rintro ⟨path, last, spot, rfl, hreaches, hrejects⟩
    induction hreaches with
    | refl => exact fails_of_rejects hrejects
    | step hstep _ ih =>
      rw [List.append_assoc]
      exact fails_of_step hstep (ih hrejects)

end Spot

/-! ### The value at the end of the path -/

/-- A single step leads to a part. -/
lemma Value.follow?_singleton (v : Value) (step : PathStep) : v.follow? [step] = v.enter? step := by
  simp [follow?]

/-- A path is followed one part after the other. -/
lemma Value.follow?_append (v : Value) (path rest : List PathStep) :
    v.follow? (path ++ rest) = (v.follow? path).bind fun w => w.follow? rest :=
  List.foldlM_append

namespace Spot

variable {s spot : Spot} {path : List PathStep}

/-- A step of a coercion enters the part that it leads to, which is as well formed. -/
lemma follow?_of_step {next : Spot} (h : s.Step path next) (hs : s.held.WellFormed) :
    s.held.follow? (path.filter PathStep.enters) = some next.held ∧ next.held.WellFormed := by
  cases h with
  | optional | record | embedded => exact ⟨rfl, hs⟩
  | @item item convert before after v =>
    have hmem : v ∈ before ++ v :: after := by simp
    refine ⟨(Value.follow?_singleton _ _).trans ?_, Value.wellFormed_list_iff.mp hs v hmem⟩
    simp [held, Value.enter?]
  | @entry item convert before after key v =>
    obtain ⟨hdistinct, hparts⟩ := Value.wellFormed_map_iff.mp hs
    have hmem : (key, v) ∈ before ++ (key, v) :: after := by simp
    exact ⟨(Value.follow?_singleton _ _).trans (Dict.find?_of_mem hdistinct hmem), hparts _ hmem⟩
  | field _ _ hv =>
    have hfind := (presentAt?_eq_some_iff.mp hv).1
    exact ⟨(Value.follow?_singleton _ _).trans hfind,
      (Value.wellFormed_map_iff.mp hs).2 _ (Dict.mem_of_find? hfind)⟩

/-- The path to where a coercion stands can be followed to what it stands at. -/
theorem follow?_of_reaches (h : s.Reaches path spot) (hs : s.held.WellFormed) :
    s.held.follow? (path.filter PathStep.enters) = some spot.held := by
  induction h with
  | refl => rfl
  | step hstep _ ih =>
    obtain ⟨hfollow, hnext⟩ := follow?_of_step hstep hs
    rw [List.filter_append, Value.follow?_append, hfollow]
    exact ih hnext

end Spot

/-- **The path of an error leads to the culprit.** A coercion of a value without repeated keys fails
exactly when steps of the coercion, before each of which everything coerces, lead to a spot where
something is wrong. The path of the error is the path of these steps and what is wrong adds to it,
and what is left of it without the steps into embedded records can be followed from the value to the
spot.

**Proof sketch.** A coercion fails on the spot or with its next step, which leads to a smaller
target or shape. Each step enters the part that it leads to, under a key that is not repeated. -/
theorem coerceValue_eq_error_iff {target : Target} {source : Value} (hsource : source.WellFormed)
    {e : CoerceError} :
    coerceValue target source = .error e ↔ ∃ path last spot, e.path = path ++ last ∧
      (Spot.value target false source).Reaches path spot ∧ spot.Rejects last e.fault ∧
      source.follow? (path.filter PathStep.enters) = some spot.held := by
  refine (Spot.fails_iff (s := .value target false source)).trans ?_
  constructor
  · rintro ⟨path, last, spot, hpath, hreaches, hrejects⟩
    exact ⟨path, last, spot, hpath, hreaches, hrejects, Spot.follow?_of_reaches hreaches hsource⟩
  · rintro ⟨path, last, spot, hpath, hreaches, hrejects, -⟩
    exact ⟨path, last, spot, hpath, hreaches, hrejects⟩

/-- An order with the record of a customer embedded between two fields. -/
def orderShape : Shape :=
  ⟨"Order",
    [(FieldShape.new "number" .int).require,
      (FieldShape.new "customer" (.record (Record.shape Customer))).embed,
      (FieldShape.new "total" .float).converting]⟩

/-- An order with a number in place of the street of its second address, and another fault behind
it. -/
def orderSource : Value :=
  .map [("number", .int 12), ("total", .bool true), ("name", .string "acme"),
    ("addresses", .list [.map [("street", .string "Main")], .map [("street", .int 4)]])]

/-- A street that is no text is found through the embedded customer. -/
theorem order_coerceValue_eq_error :
    orderSource.WellFormed ∧ ∃ path last spot,
      [.embedded "customer", .key "addresses", .index 1, .key "street"] = path ++ last ∧
      (Spot.value (.record orderShape) false orderSource).Reaches path spot ∧
      spot.Rejects last (.mismatch .int .string) ∧
      orderSource.follow? (path.filter PathStep.enters) = some spot.held := by
  have hsource : orderSource.WellFormed := by
    simp [orderSource, Value.WellFormed, Value.AllWellFormed, Value.EntriesWellFormed,
      Dict.Distinct]
  have herror : coerceValue (.record orderShape) orderSource = .error ⟨.mismatch .int .string,
      [.embedded "customer", .key "addresses", .index 1, .key "street"]⟩ := rfl
  exact ⟨hsource, (coerceValue_eq_error_iff hsource).mp herror⟩

end Intake
