import Intake.Json.Tree
import Intake.Value.Basic

set_option autoImplicit false

/-!
# Values told node by node

A deserializer that reads a document tells a visitor each node as it comes to it, the items of an
array and the members of an object one after another. The visitor here makes a value of what it is
told: items are pushed to the end of a list, members inserted into a map.

## Main definitions

* `Visitor.visitUnsigned`, … — what one node becomes.
* `Value.deserialize` — the value that a whole document becomes.
-/

namespace Intake

namespace Visitor

/-! ### Single nodes -/

/-- No value, or the unit. -/
def visitUnit : Value := .null

/-- A boolean. -/
def visitBool (b : Bool) : Value := .bool b

/-- An integer with a sign. -/
def visitSigned (n : Int64) : Value := .int n

/-- The integer with a sign that an integer without one is, if 64 bits hold it. -/
def signed? (n : UInt64) : Option Int64 :=
  if (n.toNat : Int) ≤ Int64.maxValue.toInt then some (Int64.ofInt n.toNat) else none

/-- An integer without a sign: itself if it fits, the nearest float otherwise. -/
def visitUnsigned (n : UInt64) : Value :=
  match signed? n with
  | some i => .int i
  | none => .float (Binary64.ofNat n.toNat)

/-- A float. -/
def visitFloat (x : Binary64) : Value := .float x

/-- A text. -/
def visitText (s : String) : Value := .string s

/-- Bytes. -/
def visitBytes (data : List UInt8) : Value := .bytes data

end Visitor

/-! ### Documents -/

namespace Value

open Visitor

mutual

/-- The value that a document becomes, told to the visitor from its root. -/
def deserialize : Json → Value
  | .null => visitUnit
  | .bool b => visitBool b
  | .unsigned n => visitUnsigned n
  | .signed n => visitSigned n
  | .float x => visitFloat x
  | .string s => visitText s
  | .array items => .list (visitItems items [])
  | .object members => .map (visitMembers members [])
termination_by structural j => j

/-- The next items are pushed to a list, which is held with the last one first. -/
def visitItems : List Json → List Value → List Value
  | [], pushed => pushed.reverse
  | j :: rest, pushed => visitItems rest (deserialize j :: pushed)
termination_by structural items => items

/-- The next members are inserted into a map. -/
def visitMembers : List (String × Json) → Dict Value → Dict Value
  | [], done => done
  | (k, j) :: rest, done => visitMembers rest (done.insert k (deserialize j))
termination_by structural members => members

end

end Value

end Intake
