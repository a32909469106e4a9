import Intake.Number.Binary64
import Intake.Value.Dict

set_option autoImplicit false

/-!
# JSON trees

## Main definitions

* `Json` — a JSON document. Numbers are kept apart by how they are written: integers of 64 bits
  without a sign, negative integers of 64 bits, and floats.
* `Json.sorted` — the document with the members of every object in the order of their names,
  a repeated name keeping its last value.
-/

namespace Intake

/-- A JSON document. -/
inductive Json where
  | null
  | bool (b : Bool)
  /-- An integer from zero up. -/
  | unsigned (n : UInt64)
  /-- An integer below zero. -/
  | signed (n : Int64)
  | float (x : Binary64)
  | string (s : String)
  | array (items : List Json)
  | object (members : List (String × Json))
  deriving Inhabited, Repr

namespace Json

mutual

/-- The document with the members of every object in ascending order of names. -/
def sorted : Json → Json
  | .array items => .array (sortedItems items)
  | .object members => .object (Dict.sorted (Dict.ofEntries (sortedMembers members)))
  | other => other
termination_by structural j => j

/-- Every item sorted. -/
def sortedItems : List Json → List Json
  | [] => []
  | j :: rest => j.sorted :: sortedItems rest
termination_by structural items => items

/-- The value of every member sorted, the members in place. -/
def sortedMembers : List (String × Json) → List (String × Json)
  | [] => []
  | (k, j) :: rest => (k, j.sorted) :: sortedMembers rest
termination_by structural members => members

end

end Json

end Intake
