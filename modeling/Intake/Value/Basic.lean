import Intake.Number.Binary64
import Intake.Value.Dict

set_option autoImplicit false

/-!
# Dynamic values

A value is the untyped tree that documents are read into and that every rule, form and coercion
works on. Absence and null are the same thing: a missing entry of a map reads as null.

## Main definitions

* `Value` — the tree.
* `ValueKind`, `Value.kind` — the kind of a value, as diagnostics name it.
* `Value.WellFormed` — no map anywhere inside repeats a key; this is decidable.
* `Value.get?`, `Value.toFloat?`, … — partial views.
-/

namespace Intake

/-- A dynamic value. -/
inductive Value where
  | null
  | bool (b : Bool)
  | int (n : Int64)
  | float (x : Binary64)
  | string (s : String)
  | bytes (data : List UInt8)
  | list (items : List Value)
  | map (entries : List (String × Value))
  deriving Inhabited, Repr

/-- The kind of a value. -/
inductive ValueKind where
  | null | bool | int | float | string | bytes | list | map
  deriving DecidableEq, Repr

/-- The name of a kind in diagnostics. -/
def ValueKind.name : ValueKind → String
  | .null => "null"
  | .bool => "bool"
  | .int => "int"
  | .float => "float"
  | .string => "string"
  | .bytes => "bytes"
  | .list => "list"
  | .map => "map"

namespace Value

/-- The kind of a value. -/
def kind : Value → ValueKind
  | .null => .null
  | .bool _ => .bool
  | .int _ => .int
  | .float _ => .float
  | .string _ => .string
  | .bytes _ => .bytes
  | .list _ => .list
  | .map _ => .map

/-- Whether a value is null. -/
def isNull : Value → Bool
  | .null => true
  | _ => false

/-- The boolean that a value is. -/
def toBool? : Value → Option Bool
  | .bool b => some b
  | _ => none

/-- The integer that a value is; floats are not converted. -/
def toInt? : Value → Option Int64
  | .int n => some n
  | _ => none

/-- The number that a value is; integers are widened. -/
def toFloat? : Value → Option Binary64
  | .int n => some (Binary64.ofInt n.toInt)
  | .float x => some x
  | _ => none

/-- The text that a value is. -/
def toText? : Value → Option String
  | .string s => some s
  | _ => none

/-- The bytes that a value is. -/
def toBytes? : Value → Option (List UInt8)
  | .bytes b => some b
  | _ => none

/-- The items of a list. -/
def toList? : Value → Option (List Value)
  | .list items => some items
  | _ => none

/-- The entries of a map. -/
def toMap? : Value → Option (Dict Value)
  | .map entries => some entries
  | _ => none

/-- The value under a key of a map. -/
def get? (v : Value) (key : String) : Option Value :=
  v.toMap?.bind fun entries => entries.find? key

/-- The map with one entry. -/
def tagged (name : String) (v : Value) : Value := .map [(name, v)]

mutual

/-- No map inside a value repeats a key. -/
def WellFormed : Value → Prop
  | .list items => AllWellFormed items
  | .map entries => Dict.Distinct entries ∧ EntriesWellFormed entries
  | _ => True
termination_by structural v => v

/-- Every item is well formed. -/
def AllWellFormed : List Value → Prop
  | [] => True
  | v :: rest => v.WellFormed ∧ AllWellFormed rest
termination_by structural items => items

/-- The value of every entry is well formed. -/
def EntriesWellFormed : List (String × Value) → Prop
  | [] => True
  | (_, v) :: rest => v.WellFormed ∧ EntriesWellFormed rest
termination_by structural entries => entries

end

mutual

/-- Whether a value is well formed is decided by looking at all maps inside it. -/
def decideWellFormed : (v : Value) → Decidable v.WellFormed
  | .list items => decideAllWellFormed items
  | .map entries =>
    have := decideEntriesWellFormed entries
    inferInstanceAs (Decidable (Dict.Distinct entries ∧ EntriesWellFormed entries))
  | .null | .bool _ | .int _ | .float _ | .string _ | .bytes _ => .isTrue trivial
termination_by structural v => v

/-- Whether all items are well formed is decided one by one. -/
def decideAllWellFormed : (items : List Value) → Decidable (AllWellFormed items)
  | [] => .isTrue trivial
  | v :: rest =>
    have := v.decideWellFormed
    have := decideAllWellFormed rest
    inferInstanceAs (Decidable (v.WellFormed ∧ AllWellFormed rest))
termination_by structural items => items

/-- Whether all entries are well formed is decided one by one. -/
def decideEntriesWellFormed :
    (entries : List (String × Value)) → Decidable (EntriesWellFormed entries)
  | [] => .isTrue trivial
  | (_, v) :: rest =>
    have := v.decideWellFormed
    have := decideEntriesWellFormed rest
    inferInstanceAs (Decidable (v.WellFormed ∧ EntriesWellFormed rest))
termination_by structural entries => entries

end

instance : DecidablePred WellFormed := decideWellFormed

mutual

/-- How many lists and maps lie inside one another. -/
def depth : Value → Nat
  | .list items => depthOfItems items + 1
  | .map entries => depthOfEntries entries + 1
  | _ => 0
termination_by structural v => v

/-- The largest depth of the items. -/
def depthOfItems : List Value → Nat
  | [] => 0
  | v :: rest => max v.depth (depthOfItems rest)
termination_by structural items => items

/-- The largest depth of the values of entries. -/
def depthOfEntries : List (String × Value) → Nat
  | [] => 0
  | (_, v) :: rest => max v.depth (depthOfEntries rest)
termination_by structural entries => entries

end

end Value

end Intake
