import Intake.Data.Error
import Intake.Value.Json

set_option autoImplicit false

/-!
# Typed data

A datum is a piece of typed data on its way to a value. Wrappers of one datum are transparent, so
they are that datum; a tuple with a name is a tuple.

## Main definitions

* `IntType` — the integer types, by width and sign.
* `Datum` — typed data.
* `Datum.toValue` — the value of a datum.
* `Value.toDatum` — a value as typed data.
-/

namespace Intake

/-- The integer types. -/
inductive IntType where
  | i8 | i16 | i32 | i64 | i128 | u8 | u16 | u32 | u64 | u128
  /-- Lengths and positions in memory, of 64 bits. -/
  | usize
  /-- Differences of positions in memory, of 64 bits. -/
  | isize
  deriving DecidableEq, Repr

namespace IntType

/-- The name of a type in messages. -/
def name : IntType → String
  | .i8 => "i8"
  | .i16 => "i16"
  | .i32 => "i32"
  | .i64 => "i64"
  | .i128 => "i128"
  | .u8 => "u8"
  | .u16 => "u16"
  | .u32 => "u32"
  | .u64 => "u64"
  | .u128 => "u128"
  | .usize => "usize"
  | .isize => "isize"

/-- The least integer of a type. -/
def least : IntType → Int
  | .i8 => -(Nat.pow 2 7 : Int)
  | .i16 => -(Nat.pow 2 15 : Int)
  | .i32 => -(Nat.pow 2 31 : Int)
  | .i64 => -(Nat.pow 2 63 : Int)
  | .i128 => -(Nat.pow 2 127 : Int)
  | .isize => -(Nat.pow 2 63 : Int)
  | _ => 0

/-- The greatest integer of a type. -/
def greatest : IntType → Int
  | .i8 => Nat.pow 2 7 - 1
  | .i16 => Nat.pow 2 15 - 1
  | .i32 => Nat.pow 2 31 - 1
  | .i64 => Nat.pow 2 63 - 1
  | .i128 => Nat.pow 2 127 - 1
  | .u8 => Nat.pow 2 8 - 1
  | .u16 => Nat.pow 2 16 - 1
  | .u32 => Nat.pow 2 32 - 1
  | .u64 => Nat.pow 2 64 - 1
  | .u128 => Nat.pow 2 128 - 1
  | .usize => Nat.pow 2 64 - 1
  | .isize => Nat.pow 2 63 - 1

/-- Whether a type holds an integer. -/
def holds (t : IntType) (n : Int) : Bool := decide (t.least ≤ n) && decide (n ≤ t.greatest)

end IntType

/-- Typed data. -/
inductive Datum where
  | bool (b : Bool)
  | int (type : IntType) (n : Int)
  /-- A number of 32 bits, by its word. -/
  | float32 (word : UInt32)
  | float64 (x : Binary64)
  | char (c : Char)
  | text (s : String)
  | bytes (data : List UInt8)
  /-- An option without a datum. -/
  | absent
  /-- An option with a datum. -/
  | present (d : Datum)
  | unit
  | list (items : List Datum)
  | tuple (items : List Datum)
  /-- Keys and values in the order in which they are written; an entry may lack either. -/
  | map (entries : List (Option Datum × Option Datum))
  | record (fields : List (String × Datum))
  | unitVariant (name : String)
  | wrapperVariant (name : String) (d : Datum)
  | tupleVariant (name : String) (items : List Datum)
  | recordVariant (name : String) (fields : List (String × Datum))
  deriving Inhabited, Repr

/-- The text that a value is as a key of a map: text, or an integer in decimal. -/
def keyOfValue : Value → Except ValueError String
  | .string s => .ok s
  | .int n => .ok (String.ofList (intChars n.toInt))
  | other => .error (.nonStringKey other.kind.name)

/-- The value of an integer. Types wider than 64 bits have none. -/
def valueOfInt (type : IntType) (n : Int) : Except ValueError Value :=
  match type with
  | .i128 => .error (.data (.unsupported "i128"))
  | .u128 => .error (.data (.unsupported "u128"))
  | .u64 | .usize => .ok (Value.ofUnsigned (UInt64.ofNat n.toNat))
  | _ => .ok (.int (Int64.ofInt n))

namespace Datum

mutual

/-- The value of a datum. A variant with data becomes a map with one entry. -/
def toValue : Datum → Except ValueError Value
  | .bool b => .ok (.bool b)
  | .int type n => valueOfInt type n
  | .float32 word => .ok (.float (Binary64.ofBinary32 word))
  | .float64 x => .ok (.float x)
  | .char c => .ok (.string (String.singleton c))
  | .text s => .ok (.string s)
  | .bytes data => .ok (.bytes data)
  | .absent => .ok .null
  | .present d => d.toValue
  | .unit => .ok .null
  | .list items => (itemValues items).map .list
  | .tuple items => (itemValues items).map .list
  | .map entries => (entryValues entries none []).map .map
  | .record fields => (fieldValues fields []).map .map
  | .unitVariant name => .ok (.string name)
  | .wrapperVariant name d => d.toValue.map (Value.tagged name)
  | .tupleVariant name items => (itemValues items).map fun vs => Value.tagged name (.list vs)
  | .recordVariant name fields => (fieldValues fields []).map fun es => Value.tagged name (.map es)
termination_by structural d => d

/-- The values of items; the first one without a value decides. -/
def itemValues : List Datum → Except ValueError (List Value)
  | [] => .ok []
  | d :: rest =>
    match d.toValue with
    | .error e => .error e
    | .ok v => (itemValues rest).map (v :: ·)
termination_by structural items => items

/-- Writes entries one after another into a map, given the key that waits for its value. -/
def entryValues : List (Option Datum × Option Datum) → Option String → Dict Value →
    Except ValueError (Dict Value)
  | [], _, done => .ok done
  | (key, value) :: rest, waiting, done =>
    match keyText? key with
    | .error e => .error e
    | .ok found =>
      match valueAt? value with
      | none => entryValues rest (found.or waiting) done
      | some written =>
        match found.or waiting with
        | none => .error (.data .valueBeforeKey)
        | some k =>
          match written with
          | .error e => .error e
          | .ok v => entryValues rest none (done.insert k v)
termination_by structural entries => entries

/-- The text of a key that is there. -/
def keyText? : Option Datum → Except ValueError (Option String)
  | none => .ok none
  | some d =>
    match d.toValue with
    | .error e => .error e
    | .ok v => (keyOfValue v).map some
termination_by structural key => key

/-- What writing a value that is there gives. -/
def valueAt? : Option Datum → Option (Except ValueError Value)
  | none => none
  | some d => some d.toValue
termination_by structural value => value

/-- Writes fields one after another into a map. -/
def fieldValues : List (String × Datum) → Dict Value → Except ValueError (Dict Value)
  | [], done => .ok done
  | (name, d) :: rest, done =>
    match d.toValue with
    | .error e => .error e
    | .ok v => fieldValues rest (done.insert name v)
termination_by structural fields => fields

end

end Datum

namespace Value

mutual

/-- A value as typed data: each kind as the type that it stands for. -/
def toDatum : Value → Datum
  | .null => .unit
  | .bool b => .bool b
  | .int n => .int .i64 n.toInt
  | .float x => .float64 x
  | .string s => .text s
  | .bytes data => .bytes data
  | .list items => .list (itemData items)
  | .map entries => .map (entryData entries)
termination_by structural v => v

/-- Every item as typed data. -/
def itemData : List Value → List Datum
  | [] => []
  | v :: rest => v.toDatum :: itemData rest
termination_by structural items => items

/-- Every entry as typed data. -/
def entryData : List (String × Value) → List (Option Datum × Option Datum)
  | [] => []
  | (k, v) :: rest => (some (.text k), some v.toDatum) :: entryData rest
termination_by structural entries => entries

end

end Value

end Intake
