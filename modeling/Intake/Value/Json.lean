import Intake.Json.Printer
import Intake.Json.Reader
import Intake.Value.Visitor

set_option autoImplicit false

/-!
# Values and JSON

## Main definitions

* `Value.ofJson` — a document as a value. Integers beyond 64 bits with a sign become floats.
* `Value.toJson` — a value as a document in insertion order: bytes become lists of integers, and
  infinities and NaN become null, since JSON has no form for any of them.
* `Value.toSortedJson` — the same with the members of every object in the order of their names.
* `Value.display` — a value in a message: text stands bare, all else is compact JSON.
* `Value.readJson?` — a JSON text as a value.
-/

namespace Intake

namespace Value

/-- An unsigned integer as a value; beyond the range of signed 64 bits it becomes a float. -/
def ofUnsigned (n : UInt64) : Value :=
  if n.toNat < Nat.pow 2 63 then .int (Int64.ofInt n.toNat) else .float (Binary64.ofNat n.toNat)

mutual

/-- A document as a value. -/
def ofJson : Json → Value
  | .null => .null
  | .bool b => .bool b
  | .unsigned n => ofUnsigned n
  | .signed n => .int n
  | .float x => .float x
  | .string s => .string s
  | .array items => .list (ofJsonItems items)
  | .object members => .map (Dict.ofEntries (ofJsonMembers members))
termination_by structural j => j

/-- Every item as a value. -/
def ofJsonItems : List Json → List Value
  | [] => []
  | j :: rest => ofJson j :: ofJsonItems rest
termination_by structural items => items

/-- Every member as an entry. -/
def ofJsonMembers : List (String × Json) → List (String × Value)
  | [] => []
  | (k, j) :: rest => (k, ofJson j) :: ofJsonMembers rest
termination_by structural members => members

end

/-- An integer as a JSON number. -/
def jsonOfInt (n : Int64) : Json :=
  if n.toInt < 0 then .signed n else .unsigned (UInt64.ofNat n.toInt.toNat)

mutual

/-- A value as a document in insertion order. -/
def toJson : Value → Json
  | .null => .null
  | .bool b => .bool b
  | .int n => jsonOfInt n
  | .float x => if x.isFinite then .float x else .null
  | .string s => .string s
  | .bytes data => .array (data.map fun b => .unsigned (UInt64.ofNat b.toNat))
  | .list items => .array (toJsonItems items)
  | .map entries => .object (toJsonMembers entries)
termination_by structural v => v

/-- Every item as a document. -/
def toJsonItems : List Value → List Json
  | [] => []
  | v :: rest => v.toJson :: toJsonItems rest
termination_by structural items => items

/-- Every entry as a member. -/
def toJsonMembers : List (String × Value) → List (String × Json)
  | [] => []
  | (k, v) :: rest => (k, v.toJson) :: toJsonMembers rest
termination_by structural entries => entries

end

/-- A value as a document with the members of every object in the order of their names. -/
def toSortedJson (v : Value) : Json := v.toJson.sorted

/-- A value in a message. -/
def display : Value → String
  | .string s => s
  | other => other.toSortedJson.compact

/-- A JSON text as a value, each node told to the visitor. -/
def readJson? (text : String) : Option Value := (Json.read? text).map deserialize

end Value

end Intake
