import Intake.Data.Dynamic
import Intake.Data.Type

set_option autoImplicit false

/-!
# Reading typed data from values

## Main definitions

* `DataType.read` — a value as data of a type.

## Implementation notes

The entries of a map are read into the fields of a record in the order of the map, so of two
unreadable entries the first one is reported; entries that no field names are passed over, and a
missing field is noticed only after them. A list is read into a record by position.
-/

namespace Intake

/-- A type mismatch. -/
def mismatch {α : Type} (v : Value) (expected : String) : Except ValueError α :=
  .error (.data (.invalidType (Found.ofValue v) expected))

/-- The text that bytes encode in UTF-8. -/
def utf8Text? (data : List UInt8) : Option String := String.fromUTF8? ⟨data.toArray⟩

/-- A natural rounded to the nearest multiple of the last place of a number of 32 bits, where the
smallest place is a given power of two. -/
def roundTo24Bits (least : Nat) (m : Nat) : Nat :=
  let place := max (Nat.log2 m) (least + 23) - 23
  roundHalfEven m (Nat.pow 2 place) * Nat.pow 2 place

/-- The number of 32 bits nearest to a number, as a number of 64 bits. -/
def narrow32 (x : Binary64) : Binary64 :=
  if !x.isFinite then x
  else
    let m := roundTo24Bits (1074 - 149) x.magnitude
    if Nat.pow 2 (128 + 1074) ≤ m then Binary64.infinity x.negative
    else Binary64.ofRatio x.negative m Binary64.one

/-- The number of 32 bits nearest to an integer of 64 bits, as a number of 64 bits. -/
def narrowInt32 (n : Int64) : Binary64 :=
  Binary64.ofRatio (n.toInt < 0) (roundTo24Bits 0 n.toInt.natAbs) 1

/-- An integer as data of an integer type. -/
def readInteger (type : IntType) (n : Int) : Except ValueError Datum :=
  if type.holds n then .ok (.int type n)
  else .error (.data (.invalidValue (.integer n) type.name))

/-- A text as a character. -/
def readChar (s : String) : Except ValueError Datum :=
  match s.toList with
  | [c] => .ok (.char c)
  | _ => .error (.data (.invalidValue (.text s) "a character"))

/-- A text as a key of a map. -/
def KeyType.read (key : KeyType) (s : String) : Except ValueError Datum :=
  match key with
  | .text => .ok (.text s)
  | .int type => .error (.data (.invalidType (.text s) type.name))

/-- Reads every item of a list. -/
def readEach (f : Value → Except ValueError Datum) : List Value → Except ValueError (List Datum)
  | [] => .ok []
  | v :: rest =>
    match f v with
    | .error e => .error e
    | .ok d => (readEach f rest).map (d :: ·)

/-- Reads every entry of a map. -/
def readEntries (key : KeyType) (f : Value → Except ValueError Datum) :
    Dict Value → Except ValueError (List (Option Datum × Option Datum))
  | [] => .ok []
  | (k, v) :: rest =>
    match key.read k with
    | .error e => .error e
    | .ok dk =>
      match f v with
      | .error e => .error e
      | .ok dv => (readEntries key f rest).map ((some dk, some dv) :: ·)

/-- Reads the entries of a map that a reader of named fields knows: the data read, and the other
entries in order. -/
def readKnown (f : String → Value → Option (Except ValueError Datum)) :
    Dict Value → Except ValueError (Dict Datum × Dict Value)
  | [] => .ok ([], [])
  | (k, v) :: rest =>
    match f k v with
    | some (.error e) => .error e
    | some (.ok d) => (readKnown f rest).map fun p => ((k, d) :: p.1, p.2)
    | none => (readKnown f rest).map fun p => (p.1, (k, v) :: p.2)

/-- Reads exactly so many items of a list; fewer items are reported in given words. -/
def readExactly (f : Value → Except ValueError Datum) (words : String) :
    Nat → Nat → List Value → Except ValueError (List Datum × List Value)
  | 0, _, rest => .ok ([], rest)
  | _ + 1, done, [] => .error (.data (.invalidLength done words))
  | n + 1, done, v :: rest =>
    match f v with
    | .error e => .error e
    | .ok d => (readExactly f words n (done + 1) rest).map fun p => (d :: p.1, p.2)

/-- Refuses items behind the last one that a type takes. -/
def noMore {α : Type} (taken : Nat) (rest : List Value) (a : α) : Except ValueError α :=
  if rest.isEmpty then .ok a
  else .error (.data (.invalidLength (taken + rest.length)
    (elementCount taken ++ " in sequence")))

/-- A byte as data of a type, where a list of bytes stands for a list of integers. -/
def DataType.readByte (type : DataType) (b : UInt8) : Except ValueError Datum :=
  match type with
  | .int t => readInteger t b.toNat
  | .float32 => .ok (.float64 (Binary64.ofNat b.toNat))
  | .float64 => .ok (.float64 (Binary64.ofNat b.toNat))
  | .dynamic => .ok (.int .i64 b.toNat)
  | other => .error (.data (.invalidType (.integer b.toNat) other.expecting))

/-- Reads every byte of a list. -/
def readBytes (type : DataType) : List UInt8 → Except ValueError (List Datum)
  | [] => .ok []
  | b :: rest =>
    match type.readByte b with
    | .error e => .error e
    | .ok d => (readBytes type rest).map (d :: ·)

/-- The datum of a field that is not there. -/
def RecordField.missing (field : RecordField) : Except ValueError Datum :=
  match field.fallback, field.type with
  | some d, _ => .ok d
  | none, .option _ => .ok .absent
  | none, _ => .error (.data (.missingField field.name))

mutual

/-- A value as data of a type. -/
def DataType.read : DataType → Value → Except ValueError Datum
  | .bool, v =>
    match v with
    | .bool b => .ok (.bool b)
    | v => mismatch v "a boolean"
  | .int type, v =>
    match v with
    | .int n => readInteger type n.toInt
    | v => mismatch v type.name
  | .float32, v =>
    match v with
    | .int n => .ok (.float64 (narrowInt32 n))
    | .float x => .ok (.float64 (narrow32 x))
    | v => mismatch v "f32"
  | .float64, v =>
    match v with
    | .int n => .ok (.float64 (Binary64.ofInt n.toInt))
    | .float x => .ok (.float64 x)
    | v => mismatch v "f64"
  | .char, v =>
    match v with
    | .string s => readChar s
    | v => mismatch v "a character"
  | .text, v =>
    match v with
    | .string s => .ok (.text s)
    | .bytes data =>
      match utf8Text? data with
      | some s => .ok (.text s)
      | none => .error (.data (.invalidValue .bytes "a string"))
    | v => mismatch v "a string"
  | .unit, v =>
    match v with
    | .null => .ok .unit
    | v => mismatch v "unit"
  | .dynamic, v => v.retell.map Value.toDatum
  | .option type, v =>
    match v with
    | .null => .ok .absent
    | v => (type.read v).map .present
  | .list type, v =>
    match v with
    | .list items => (readEach type.read items).map .list
    | .bytes data => (readBytes type data).map .list
    | v => mismatch v "a sequence"
  | .array length type, v =>
    match v with
    | .list items =>
      match readExactly type.read (DataType.array length type).expecting length 0 items with
      | .error e => .error e
      | .ok (ds, rest) => noMore length rest (.tuple ds)
    | v => mismatch v (DataType.array length type).expecting
  | .tuple types, v =>
    match v with
    | .list items =>
      match readTuple types (DataType.tuple types).expecting 0 items with
      | .error e => .error e
      | .ok (ds, rest) => noMore types.length rest (.tuple ds)
    | v => mismatch v (DataType.tuple types).expecting
  | .map key type, v =>
    match v with
    | .map entries => (readEntries key type.read entries).map .map
    | v => mismatch v "a map"
  | .namedUnit name, v =>
    match v with
    | .null => .ok .unit
    | v => mismatch v ("unit struct " ++ name)
  | .wrapper _ type, v => type.read v
  | .namedTuple name types, v =>
    match v with
    | .list items =>
      let words := "tuple struct " ++ name ++ " with " ++ elementCount types.length
      match readTuple types words 0 items with
      | .error e => .error e
      | .ok (ds, rest) => noMore types.length rest (.tuple ds)
    | v => mismatch v ("tuple struct " ++ name)
  | .choice _ variants, v =>
    match v with
    | .string s =>
      match variants.find? fun x => x.name = s with
      | none => .error (.data (.unknownVariant s (variants.map (·.name))))
      | some (.unit name) => .ok (.unitVariant name)
      | some (.wrapper _ _) => .error (.data (.invalidType .bareVariant "newtype variant"))
      | some (.tuple _ _) => .error (.data (.invalidType .bareVariant "tuple variant"))
      | some (.record _ _) => .error (.data (.invalidType .bareVariant "struct variant"))
    | v => mismatch v "a variant name"
  | .record name fields, v =>
    match v with
    | .map entries =>
      match readKnown (readNamed fields) entries with
      | .error e => .error e
      | .ok (known, others) => (assemble fields known others).map .record
    | .list items =>
      if fields.any (·.spliced) then mismatch v ("struct " ++ name)
      else
        let words := "struct " ++ name ++ " with " ++ elementCount fields.length
        match readPositions fields words 0 items with
        | .error e => .error e
        | .ok (ds, rest) => noMore fields.length rest (.record ds)
    | v => mismatch v ("struct " ++ name)
termination_by structural type => type

/-- Items as data of the types of a tuple, and the items behind them. -/
def readTuple : List DataType → String → Nat → List Value →
    Except ValueError (List Datum × List Value)
  | [], _, _, rest => .ok ([], rest)
  | type :: types, words, done, items =>
    match items with
    | [] => .error (.data (.invalidLength done words))
    | v :: rest =>
      match type.read v with
      | .error e => .error e
      | .ok d => (readTuple types words (done + 1) rest).map fun p => (d :: p.1, p.2)
termination_by structural types => types

/-- The value of an entry as data of the field that its key names. -/
def readNamed : List RecordField → String → Value → Option (Except ValueError Datum)
  | [], _, _ => none
  | ⟨name, type, _, spliced⟩ :: fields, key, v =>
    if name = key ∧ spliced = false then some (type.read v) else readNamed fields key v
termination_by structural fields => fields

/-- The fields of a record in order, from the data read and from the entries that no field names,
which are left to the spliced fields. -/
def assemble : List RecordField → Dict Datum → Dict Value →
    Except ValueError (List (String × Datum))
  | [], _, _ => .ok []
  | ⟨name, type, fallback, spliced⟩ :: fields, known, others =>
    if spliced then
      match type.read (.map others) with
      | .error e => .error e
      | .ok (.record inner) => (assemble fields known others).map (inner ++ ·)
      | .ok d => (assemble fields known others).map ((name, d) :: ·)
    else
      match known.find? name with
      | some d => (assemble fields known others).map ((name, d) :: ·)
      | none =>
        match RecordField.missing ⟨name, type, fallback, spliced⟩ with
        | .error e => .error e
        | .ok d => (assemble fields known others).map ((name, d) :: ·)
termination_by structural fields => fields

/-- Items as the fields of a record by position, and the items behind them. -/
def readPositions : List RecordField → String → Nat → List Value →
    Except ValueError (List (String × Datum) × List Value)
  | [], _, _, rest => .ok ([], rest)
  | ⟨name, type, fallback, _⟩ :: fields, words, done, items =>
    match items with
    | [] =>
      match fallback with
      | some d => (readPositions fields words (done + 1) []).map fun p => ((name, d) :: p.1, p.2)
      | none => .error (.data (.invalidLength done words))
    | v :: rest =>
      match type.read v with
      | .error e => .error e
      | .ok d =>
        (readPositions fields words (done + 1) rest).map fun p => ((name, d) :: p.1, p.2)
termination_by structural fields => fields

end

end Intake
