import Intake.Data.Codec
import Intake.Record.Coerce

set_option autoImplicit false

/-!
# Records

A type of records describes itself twice: by the shape that coerces a map, and by the codec that the
coerced map is read with.

## Main definitions

* `Record` — a type of records.
* `Record.coerce` — a value as a record.
* `Record.ofNormalized` — an already coerced value as a record.
* `Record.restore` — a record as a map under the keys that its fields are read from.
-/

namespace Intake

/-- A type of records. -/
class Record (α : Type) extends DataCodec α where
  shape : Shape

namespace Record

variable {α : Type} [Record α]

/-- A value as a record, read by the type of its data. -/
def read (v : Value) : Except ValueError α :=
  match (DataCodec.dataType α).read v with
  | .error e => .error e
  | .ok d =>
    match ofDatum? d with
    | some a => .ok a
    | none => .error (.data .malformedRecord)

/-- An already coerced value as a record. -/
def ofNormalized (v : Value) : Except CoerceError α :=
  match read v with
  | .ok a => .ok a
  | .error e => .error ⟨.unreadable (shape α).name e, []⟩

/-- A value as a record. -/
def coerce (v : Value) : Except CoerceError α :=
  match coerceValue (.record (shape α)) v with
  | .error e => .error e
  | .ok n => ofNormalized n

/-- The value of a record, its fields under their own names. -/
def toValue (a : α) : Except ValueError Value := (toDatum a).toValue

/-- A record as a map under the keys that its fields are read from. -/
def restore (a : α) : Except CoerceError Value :=
  match toValue a with
  | .error e => .error ⟨.unwritable (shape α).name e, []⟩
  | .ok v => .ok (restoreValue (.record (shape α)) v)

end Record

end Intake
