import Intake.Data.Reader
import Intake.Record.Error

set_option autoImplicit false

/-!
# Coercion

Coercion walks a value along a target. A value of the target kind is taken as it is; integers and
floats, and text and bytes, turn into each other only in fields that convert; lists and maps are
coerced item by item, and maps are coerced into records field by field. The first failure ends the
walk, and its error carries the path into the source. Restoring goes back, from a record to a map
under the keys that its fields are read from.

## Main definitions

* `Walk` — computations that know where in the source they are.
* `Target.walk` — a value as a target wants it, from anywhere in the source.
* `Target.coerce` — the same for a value that is the source.
* `Target.restore` — a coerced value in the form that it is read from.
* `coerceValue`, `restoreValue` — the same from the top.

## Implementation notes

A walk keeps its path as a stack: it pushes a step before it enters a part of a value, and pops the
step when it is done with the part.
-/

namespace Intake

/-! ### Walks -/

/-- A computation that knows the path from the source to where it is. Its errors carry the path. -/
abbrev Walk : Type → Type := StateT (List PathStep) (Except CoerceError)

namespace Walk

variable {α : Type}

/-- Goes one step further. -/
def push (step : PathStep) : Walk Unit := modify (· ++ [step])

/-- Goes one step back. -/
def pop : Walk Unit := modify List.dropLast

/-- Fails where the walk is. -/
def fail (fault : CoerceFault) : Walk α := fun path => .error ⟨fault, path⟩

/-- A result, or a failure where the walk is. -/
def ofResult : Except CoerceFault α → Walk α
  | .ok a => pure a
  | .error fault => fail fault

/-- Walks one step further, and goes back unless the walk fails. -/
def within (step : PathStep) (walk : Walk α) : Walk α := do
  push step
  let a ← walk
  pop
  return a

/-- What a walk gives that begins at the source. -/
def fromSource (walk : Walk α) : Except CoerceError α := walk.run' []

end Walk

/-! ### Scalars -/

/-- A float as an integer of 64 bits. The range is tested against the limits as floats, and the
upper limit as a float is the first number beyond the range. -/
def coerceToInt (x : Binary64) : Except CoerceFault Value :=
  let low := Binary64.ofInt Int64.minValue.toInt
  let high := Binary64.ofInt Int64.maxValue.toInt
  if x.integral?.isSome && low.le x && x.le high then .ok (.int x.toInt64)
  else .error (.notIntegral x)

/-- The conversions of a field that converts; nothing for all other pairs. -/
def convert? : Target → Value → Option (Except CoerceFault Value)
  | .float, .int n => some (.ok (.float (Binary64.ofInt n.toInt)))
  | .int, .float x => some (coerceToInt x)
  | .bytes, .string s => some (.ok (.bytes s.toUTF8.data.toList))
  | .string, .bytes data =>
    some (match utf8Text? data with
      | some s => .ok (.string s)
      | none => .error .notUtf8)
  | _, _ => none

/-- A scalar target takes a value of its kind as it is, and others if it converts them. -/
def coerceScalar (target : Target) (kind : ValueKind) (convert : Bool) (v : Value) :
    Except CoerceFault Value :=
  if v.kind = kind then .ok v
  else
    match if convert then convert? target v else none with
    | some r => r
    | none => .error (.mismatch v.kind target)

/-! ### Values -/

/-- Walks along items in order, counting them. -/
def walkItems (f : Value → Walk Value) : Nat → List Value → Walk (List Value)
  | _, [] => return []
  | i, v :: rest => do
    let w ← Walk.within (.index i) (f v)
    return w :: (← walkItems f (i + 1) rest)

/-- Walks along the values of entries in order. -/
def walkEntries (f : Value → Walk Value) : Dict Value → Walk (Dict Value)
  | [] => return []
  | (k, v) :: rest => do
    let w ← Walk.within (.key k) (f v)
    return (k, w) :: (← walkEntries f rest)

/-- A value that a field is present with: null counts as absent. -/
def presentAt? (source : Dict Value) (key : String) : Option Value :=
  match source.find? key with
  | none => none
  | some .null => none
  | some v => some v

mutual

/-- A value as a target wants it. -/
def Target.walk : Target → Bool → Value → Walk Value
  | .any, _, v => return v
  | .optional inner, convert, v =>
    match v with
    | .null => return .null
    | v => inner.walk convert v
  | .bool, convert, v => .ofResult (coerceScalar .bool .bool convert v)
  | .int, convert, v => .ofResult (coerceScalar .int .int convert v)
  | .float, convert, v => .ofResult (coerceScalar .float .float convert v)
  | .string, convert, v => .ofResult (coerceScalar .string .string convert v)
  | .bytes, convert, v => .ofResult (coerceScalar .bytes .bytes convert v)
  | .list item, _, v =>
    match v with
    | .list items => return .list (← walkItems (item.walk false) 0 items)
    | v => .fail (.mismatch v.kind (.list item))
  | .map item, _, v =>
    match v with
    | .map entries => return .map (← walkEntries (item.walk false) entries)
    | v => .fail (.mismatch v.kind (.map item))
  | .record shape, _, v =>
    match v with
    | .map entries => return .map (← shape.walkInto entries [])
    | v => .fail (.mismatch v.kind (.record shape))
termination_by structural target => target

/-- Walks along a map field by field, into the entries of a record. -/
def Shape.walkInto : Shape → Dict Value → Dict Value → Walk (Dict Value)
  | ⟨_, fields⟩, source, done => walkFields fields source done
termination_by structural shape => shape

/-- Walks along some fields of a map, one after another, into the entries of a record. -/
def walkFields : List FieldShape → Dict Value → Dict Value → Walk (Dict Value)
  | [], _, done => return done
  | ⟨name, sourceKey, target, required, convert, embedded⟩ :: fields, source, done => do
    let done ←
      if embedded then .within (.embedded sourceKey) (target.walkEmbedded source done)
      else .within (.key sourceKey) (match presentAt? source sourceKey with
        | none => if required then .fail (.missing sourceKey) else return done
        | some v => return done.insert name (← target.walk convert v))
    walkFields fields source done
termination_by structural fields => fields

/-- Walks along the enclosing map into the entries of the enclosing record, for an embedded
field. -/
def Target.walkEmbedded : Target → Dict Value → Dict Value → Walk (Dict Value)
  | .record shape, source, done => shape.walkInto source done
  | other, _, _ => .fail (.notRecord other)
termination_by structural target => target

end

/-- A value that is the source, as a target wants it. -/
def Target.coerce (target : Target) (convert : Bool) (v : Value) : Except CoerceError Value :=
  (target.walk convert v).fromSource

/-! ### Restoring -/

/-- The bytes that a list of integers writes, if every item is a byte. -/
def bytesOfItems? : List Value → Option (List UInt8)
  | [] => some []
  | .int n :: rest =>
    if 0 ≤ n.toInt ∧ n.toInt < 256 then
      (bytesOfItems? rest).map (UInt8.ofNat n.toInt.toNat :: ·)
    else none
  | _ :: _ => none

mutual

/-- A coerced value in the form that it is read from. A list of integers in the place of bytes
becomes bytes. -/
def Target.restore : Target → Value → Value
  | .optional inner, v => inner.restore v
  | .record shape, v =>
    match v with
    | .map entries => .map (shape.restoreFrom entries [])
    | v => v
  | .bytes, v =>
    match v with
    | .list items =>
      match bytesOfItems? items with
      | some data => .bytes data
      | none => .list items
    | v => v
  | .list item, v =>
    match v with
    | .list items => .list (items.map item.restore)
    | v => v
  | .map item, v =>
    match v with
    | .map entries => .map (entries.map fun e => (e.1, item.restore e.2))
    | v => v
  | _, v => v
termination_by structural target => target

/-- The entries of a record under the keys that its fields are read from. -/
def Shape.restoreFrom : Shape → Dict Value → Dict Value → Dict Value
  | ⟨_, fields⟩, record, done => restoreFields fields record done
termination_by structural shape => shape

/-- Restores some fields, one after another. -/
def restoreFields : List FieldShape → Dict Value → Dict Value → Dict Value
  | [], _, done => done
  | ⟨name, sourceKey, target, _, _, embedded⟩ :: fields, record, done =>
    if embedded then restoreFields fields record (target.restoreEmbedded record done)
    else
      match presentAt? record name with
      | none => restoreFields fields record done
      | some v => restoreFields fields record (done.insert sourceKey (target.restore v))
termination_by structural fields => fields

/-- Restores the fields of an embedded record; other targets hold none. -/
def Target.restoreEmbedded : Target → Dict Value → Dict Value → Dict Value
  | .record shape, record, done => shape.restoreFrom record done
  | _, _, done => done
termination_by structural target => target

end

/-- A value as a target wants it, from the top. -/
def coerceValue (target : Target) (v : Value) : Except CoerceError Value := target.coerce false v

/-- A coerced value in the form that it is read from. -/
def restoreValue (target : Target) (v : Value) : Value := target.restore v

end Intake
