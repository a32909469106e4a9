import Intake.Proofs.Result
import Intake.Record.Coerce

set_option autoImplicit false

/-!
# Walks along a path

A coercion keeps the path to where it is as a stack. It hands the stack back as it found it, and the
stack has no other influence than to stand in front of the path of an error. So a coercion is known
from what it does at the source, where it is built from the coercions of the parts.

## Main definitions

* `Walk.IsLocal` — walks that only use the path for their errors.
* `Shape.coerceInto`, `coerceFields`, `Target.coerceEmbedded` — walks along fields, at the source.
* `coerceItems`, `coerceEntries` — items and entries, given what becomes of each at the source.

## Main results

* `Target.walk_eq` — a coercion from anywhere, by the one at the source.
* `Target.coerce_list`, `Target.coerce_map`, `Target.coerce_record`, `coerceFields_cons_eq` — the
  coercion at the source, by those of the parts.
-/

namespace Intake

namespace CoerceError

/-- The error as seen from the beginning of a path. -/
def after (path : List PathStep) (e : CoerceError) : CoerceError :=
  { e with path := path ++ e.path }

/-- The error as seen from one step further out. -/
def behind (step : PathStep) (e : CoerceError) : CoerceError := { e with path := step :: e.path }

end CoerceError

namespace Walk

variable {α β : Type} {walk : Walk α}

/-- **A walk uses the path for its errors only.** It does the same from anywhere in the source: with
a result it hands the path back as it was, and the path stands in front of the path of its error. -/
def IsLocal (walk : Walk α) : Prop :=
  ∀ path, walk.run path = (walk.fromSource.mapError (.after path)).map (·, path)

/-- A result is handed over from anywhere. -/
lemma isLocal_pure (a : α) : IsLocal (pure a) := fun _ => rfl

/-- A failure carries the path. -/
lemma isLocal_fail (fault : CoerceFault) : IsLocal (α := α) (fail fault) := by
  intro path
  have hpath : CoerceError.after path ⟨fault, []⟩ = ⟨fault, path⟩ := by
    rw [CoerceError.after, List.append_nil]
  exact congrArg Except.error hpath.symm

/-- A result or a failure. -/
lemma isLocal_ofResult (r : Except CoerceFault α) : IsLocal (ofResult r) := by
  cases r with
  | error fault => exact isLocal_fail fault
  | ok a => exact isLocal_pure a

/-- A result at the source. -/
lemma fromSource_ofResult (r : Except CoerceFault α) :
    (ofResult r).fromSource = r.mapError fun fault => ⟨fault, []⟩ := by
  cases r <;> rfl

/-- What a walk gives at the source is what it gives from the empty path. -/
lemma fromSource_eq (walk : Walk α) : walk.fromSource = (walk.run []).map Prod.fst := rfl

/-- At the source, a walk that follows a local one follows it at the source. -/
lemma fromSource_bind (h : walk.IsLocal) (next : α → Walk β) :
    (walk >>= next).fromSource = walk.fromSource.bind fun a => (next a).fromSource := by
  rw [fromSource_eq, StateT.run_bind, h []]
  cases walk.fromSource <;> rfl

/-- Local walks, one after the other. -/
lemma IsLocal.bind (h : walk.IsLocal) {next : α → Walk β} (hnext : ∀ a, (next a).IsLocal) :
    (walk >>= next).IsLocal := by
  intro path
  rw [fromSource_bind h, StateT.run_bind, h path]
  cases walk.fromSource with
  | error e => rfl
  | ok a => exact hnext a path

/-- One step further, the step is pushed before a walk and popped behind it. -/
lemma run_within (step : PathStep) (walk : Walk α) (path : List PathStep) :
    (within step walk).run path =
      (walk.run (path ++ [step])).map fun r => (r.1, r.2.dropLast) := by
  have hpush : (within step walk).run path =
      (walk.run (path ++ [step])).bind fun r => .ok (r.1, r.2.dropLast) := rfl
  rw [hpush]
  cases walk.run (path ++ [step]) <;> rfl

/-- What a local walk gives one step from the source. -/
lemma fromSource_within (h : walk.IsLocal) (step : PathStep) :
    (within step walk).fromSource = walk.fromSource.mapError (.behind step) := by
  rw [fromSource_eq, run_within, h]
  cases walk.fromSource <;> rfl

/-- A local walk, one step further. -/
lemma IsLocal.within (h : walk.IsLocal) (step : PathStep) : (within step walk).IsLocal := by
  intro path
  rw [run_within, fromSource_within h, h]
  cases walk.fromSource with
  | error e =>
    have hpath : e.after (path ++ [step]) = (e.behind step).after path := by
      rw [CoerceError.after, CoerceError.after, List.append_assoc]
      rfl
    exact congrArg Except.error hpath
  | ok a =>
    have hback : (path ++ [step]).dropLast = path := List.dropLast_concat
    exact congrArg (fun path => Except.ok (a, path)) hback

end Walk

open Walk

/-! ### Items and entries -/

/-- Coerces items in order, counting them. -/
def coerceItems (f : Value → Except CoerceError Value) :
    Nat → List Value → Except CoerceError (List Value)
  | _, [] => .ok []
  | i, v :: rest =>
    match f v with
    | .error e => .error (e.behind (.index i))
    | .ok w => (coerceItems f (i + 1) rest).map (w :: ·)

/-- Coerces the values of entries in order. -/
def coerceEntries (f : Value → Except CoerceError Value) :
    Dict Value → Except CoerceError (Dict Value)
  | [] => .ok []
  | (k, v) :: rest =>
    match f v with
    | .error e => .error (e.behind (.key k))
    | .ok w => (coerceEntries f rest).map ((k, w) :: ·)

section Parts

variable {f : Value → Walk Value} (hf : ∀ v, (f v).IsLocal)

include hf

/-- A walk along items is local if the items are walked locally. -/
lemma isLocal_walkItems (i : Nat) (items : List Value) : (walkItems f i items).IsLocal := by
  induction items generalizing i with
  | nil => exact isLocal_pure []
  | cons v rest ih =>
    exact ((hf v).within _).bind fun w => (ih (i + 1)).bind fun ws => isLocal_pure (w :: ws)

/-- Items at the source are coerced one by one. -/
lemma fromSource_walkItems (i : Nat) (items : List Value) :
    (walkItems f i items).fromSource = coerceItems (fun v => (f v).fromSource) i items := by
  induction items generalizing i with
  | nil => rfl
  | cons v rest ih =>
    rw [walkItems, fromSource_bind ((hf v).within _), fromSource_within (hf v), coerceItems]
    cases (f v).fromSource with
    | error e => rfl
    | ok w =>
      refine (fromSource_bind (isLocal_walkItems hf (i + 1) rest) _).trans ?_
      rw [ih]
      cases coerceItems (fun v => (f v).fromSource) (i + 1) rest <;> rfl

/-- A walk along entries is local if their values are walked locally. -/
lemma isLocal_walkEntries (entries : Dict Value) : (walkEntries f entries).IsLocal := by
  induction entries with
  | nil => exact isLocal_pure []
  | cons e rest ih =>
    exact ((hf e.2).within _).bind fun w => ih.bind fun ws => isLocal_pure ((e.1, w) :: ws)

/-- Entries at the source are coerced one by one. -/
lemma fromSource_walkEntries (entries : Dict Value) :
    (walkEntries f entries).fromSource = coerceEntries (fun v => (f v).fromSource) entries := by
  induction entries with
  | nil => rfl
  | cons e rest ih =>
    obtain ⟨k, v⟩ := e
    rw [walkEntries, fromSource_bind ((hf v).within _), fromSource_within (hf v), coerceEntries]
    cases (f v).fromSource with
    | error e => rfl
    | ok w =>
      refine (fromSource_bind (isLocal_walkEntries hf rest) _).trans ?_
      rw [ih]
      cases coerceEntries (fun v => (f v).fromSource) rest <;> rfl

end Parts

/-! ### Fields -/

/-- The entries that a shape adds to a record, at the source. -/
def Shape.coerceInto (shape : Shape) (source done : Dict Value) : Except CoerceError (Dict Value) :=
  (shape.walkInto source done).fromSource

/-- The entries that fields add to a record, at the source. -/
def coerceFields (fields : List FieldShape) (source done : Dict Value) :
    Except CoerceError (Dict Value) :=
  (walkFields fields source done).fromSource

/-- The entries that an embedded record adds to the enclosing one, at the source. -/
def Target.coerceEmbedded (target : Target) (source done : Dict Value) :
    Except CoerceError (Dict Value) :=
  (target.walkEmbedded source done).fromSource

/-- The entries of a record behind one field. -/
def FieldShape.walk (f : FieldShape) (source done : Dict Value) : Walk (Dict Value) :=
  if f.embedded then .within (.embedded f.sourceKey) (f.target.walkEmbedded source done)
  else .within (.key f.sourceKey) (match presentAt? source f.sourceKey with
    | none => if f.required then .fail (.missing f.sourceKey) else return done
    | some v => return done.insert f.name (← f.target.walk f.convert v))

/-- Fields are walked one after another. -/
lemma walkFields_cons (f : FieldShape) (rest : List FieldShape) (source done : Dict Value) :
    walkFields (f :: rest) source done = f.walk source done >>= walkFields rest source := by
  obtain ⟨name, sourceKey, target, required, convert, embedded⟩ := f
  cases embedded <;> rfl

/-- A field is walked locally if its target is. -/
lemma FieldShape.isLocal_walk_of {f : FieldShape} {source done : Dict Value}
    (htarget : ∀ v, (f.target.walk f.convert v).IsLocal)
    (hembedded : (f.target.walkEmbedded source done).IsLocal) : (f.walk source done).IsLocal := by
  rw [walk]
  split
  · exact hembedded.within _
  · refine .within ?_ _
    split
    · split
      · exact isLocal_fail _
      · exact isLocal_pure done
    · exact (htarget _).bind fun _ => isLocal_pure _

mutual

/-- **A coercion uses the path for its errors only.** -/
theorem Target.isLocal_walk : ∀ (t : Target) (convert : Bool) (v : Value),
    (t.walk convert v).IsLocal
  | .any, _, v => isLocal_pure v
  | .optional inner, convert, v => by
    cases v with
    | null => exact isLocal_pure _
    | bool | int | float | string | bytes | list | map => exact inner.isLocal_walk convert _
  | .bool, _, _ | .int, _, _ | .float, _, _ | .string, _, _ | .bytes, _, _ => isLocal_ofResult _
  | .list item, _, v => by
    cases v with
    | list items =>
      exact (isLocal_walkItems (item.isLocal_walk false) 0 items).bind fun _ => isLocal_pure _
    | null | bool | int | float | string | bytes | map => exact isLocal_fail _
  | .map item, _, v => by
    cases v with
    | map entries =>
      exact (isLocal_walkEntries (item.isLocal_walk false) entries).bind fun _ => isLocal_pure _
    | null | bool | int | float | string | bytes | list => exact isLocal_fail _
  | .record shape, _, v => by
    cases v with
    | map source => exact (shape.isLocal_walkInto source []).bind fun _ => isLocal_pure _
    | null | bool | int | float | string | bytes | list => exact isLocal_fail _
termination_by structural t => t

/-- A shape uses the path for its errors only. -/
theorem Shape.isLocal_walkInto (source : Dict Value) :
    ∀ (s : Shape) (done : Dict Value), (s.walkInto source done).IsLocal
  | ⟨_, fields⟩, done => isLocal_walkFields source fields done
termination_by structural s => s

/-- Fields use the path for their errors only. -/
theorem isLocal_walkFields (source : Dict Value) :
    ∀ (fields : List FieldShape) (done : Dict Value), (walkFields fields source done).IsLocal
  | [], done => isLocal_pure done
  | ⟨name, sourceKey, target, required, convert, embedded⟩ :: fields, done => by
    have hfield := FieldShape.isLocal_walk_of
      (f := ⟨name, sourceKey, target, required, convert, embedded⟩)
      (target.isLocal_walk convert) (target.isLocal_walkEmbedded source done)
    rw [walkFields_cons]
    exact hfield.bind (isLocal_walkFields source fields)
termination_by structural fields => fields

/-- An embedded record uses the path for its errors only. -/
theorem Target.isLocal_walkEmbedded (source : Dict Value) :
    ∀ (t : Target) (done : Dict Value), (t.walkEmbedded source done).IsLocal
  | .record shape, done => shape.isLocal_walkInto source done
  | .any, _ | .bool, _ | .int, _ | .float, _ | .string, _ | .bytes, _ | .list _, _ | .map _, _
  | .optional _, _ => isLocal_fail _
termination_by structural t => t

end

/-! ### Coercions from those of the parts -/

/-- **A coercion from anywhere in the source does what it does at the source.** With a result it
hands back the path as it was, and the path stands in front of the path of its error. -/
theorem Target.walk_eq (t : Target) (convert : Bool) (v : Value) (path : List PathStep) :
    (t.walk convert v).run path =
      ((t.coerce convert v).mapError (.after path)).map (·, path) :=
  t.isLocal_walk convert v path

namespace Target

variable {convert : Bool}

/-- A list is coerced item by item. -/
@[simp] lemma coerce_list (item : Target) (items : List Value) :
    (Target.list item).coerce convert (.list items) =
      (coerceItems (item.coerce false) 0 items).map .list := by
  have hitems := item.isLocal_walk false
  refine (fromSource_bind (isLocal_walkItems hitems 0 items) _).trans ?_
  rw [fromSource_walkItems hitems]
  rfl

/-- A map is coerced entry by entry. -/
@[simp] lemma coerce_map (item : Target) (entries : Dict Value) :
    (Target.map item).coerce convert (.map entries) =
      (coerceEntries (item.coerce false) entries).map .map := by
  have hentries := item.isLocal_walk false
  refine (fromSource_bind (isLocal_walkEntries hentries entries) _).trans ?_
  rw [fromSource_walkEntries hentries]
  rfl

/-- A map is coerced into a record along the fields of its shape. -/
@[simp] lemma coerce_record (shape : Shape) (source : Dict Value) :
    (Target.record shape).coerce convert (.map source) =
      (shape.coerceInto source []).map .map :=
  fromSource_bind (shape.isLocal_walkInto source []) _

end Target

/-- A record is embedded along its fields. -/
@[simp] lemma Target.coerceEmbedded_record (shape : Shape) (source done : Dict Value) :
    (Target.record shape).coerceEmbedded source done = shape.coerceInto source done := rfl

/-- Only records are embedded. -/
lemma Target.coerceEmbedded_of_ne_record {t : Target} (ht : ∀ shape, t ≠ .record shape)
    (source done : Dict Value) : t.coerceEmbedded source done = .error ⟨.notRecord t, []⟩ := by
  cases t with
  | record shape => exact absurd rfl (ht shape)
  | any | bool | int | float | string | bytes | list | map | optional => rfl

/-- A field uses the path for its errors only. -/
lemma FieldShape.isLocal_walk (f : FieldShape) (source done : Dict Value) :
    (f.walk source done).IsLocal :=
  isLocal_walk_of (f.target.isLocal_walk f.convert) (f.target.isLocal_walkEmbedded source done)

/-- No fields add nothing. -/
@[simp] lemma coerceFields_nil (source done : Dict Value) :
    coerceFields [] source done = .ok done := rfl

/-- An embedded field coerces the whole map before the fields behind it. -/
lemma coerceFields_cons_of_embedded {f : FieldShape} (h : f.embedded = true)
    (rest : List FieldShape) (source done : Dict Value) :
    coerceFields (f :: rest) source done =
      match f.target.coerceEmbedded source done with
      | .error e => .error (e.behind (.embedded f.sourceKey))
      | .ok done => coerceFields rest source done := by
  rw [coerceFields, walkFields_cons, fromSource_bind (f.isLocal_walk source done),
    FieldShape.walk, if_pos h, fromSource_within (f.target.isLocal_walkEmbedded source done),
    Target.coerceEmbedded]
  cases (f.target.walkEmbedded source done).fromSource <;> rfl

/-- What a field reads from a map: nothing, if it is absent and not required. -/
def FieldShape.coerceAt (f : FieldShape) (source : Dict Value) :
    Except CoerceError (Option Value) :=
  match presentAt? source f.sourceKey with
  | none => if f.required then .error ⟨.missing f.sourceKey, [.key f.sourceKey]⟩ else .ok none
  | some v =>
    match f.target.coerce f.convert v with
    | .error e => .error (e.behind (.key f.sourceKey))
    | .ok w => .ok (some w)

/-- A field that is not embedded adds what it reads before the fields behind it. -/
lemma coerceFields_cons {f : FieldShape} (h : f.embedded = false) (rest : List FieldShape)
    (source done : Dict Value) :
    coerceFields (f :: rest) source done =
      match f.coerceAt source with
      | .error e => .error e
      | .ok none => coerceFields rest source done
      | .ok (some w) => coerceFields rest source (done.insert f.name w) := by
  have hlocal := f.target.isLocal_walk f.convert
  rw [coerceFields, walkFields_cons, fromSource_bind (f.isLocal_walk source done),
    FieldShape.walk, if_neg (by rw [h]; exact Bool.false_ne_true), FieldShape.coerceAt]
  cases presentAt? source f.sourceKey with
  | none =>
    dsimp only
    cases f.required <;> rfl
  | some v =>
    dsimp only
    rw [fromSource_within ((hlocal v).bind fun _ => isLocal_pure _), fromSource_bind (hlocal v),
      Target.coerce]
    cases (f.target.walk f.convert v).fromSource <;> rfl

end Intake
