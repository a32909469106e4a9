import Intake.Data.Error
import Intake.Value.Visitor

set_option autoImplicit false

/-!
# Dynamic values read from values

A value is read as a dynamic value in the same way as a document: every node is told to the
visitor, which builds the value anew from what it is told.

## Main definitions

* `Value.retell` — the value that the visitor builds when it is told a value.

## Implementation notes

The visitor asks for items and entries until there are none left, so nothing is left over behind
the last one. It asks for every key as a text, which the keys of a map are.
-/

namespace Intake

namespace Value

open Visitor

mutual

/-- The value that the visitor builds when it is told a value from its root. -/
def retell : Value → Except ValueError Value
  | .null => .ok visitUnit
  | .bool b => .ok (visitBool b)
  | .int n => .ok (visitSigned n)
  | .float x => .ok (visitFloat x)
  | .string s => .ok (visitText s)
  | .bytes data => .ok (visitBytes data)
  | .list items => (retellItems items []).map .list
  | .map entries => (retellEntries entries []).map .map
termination_by structural v => v

/-- The next items are pushed to a list, which is held with the last one first. -/
def retellItems : List Value → List Value → Except ValueError (List Value)
  | [], pushed => .ok pushed.reverse
  | v :: rest, pushed =>
    match v.retell with
    | .error e => .error e
    | .ok w => retellItems rest (w :: pushed)
termination_by structural items => items

/-- The next entries are inserted into a map. -/
def retellEntries : List (String × Value) → Dict Value → Except ValueError (Dict Value)
  | [], done => .ok done
  | (k, v) :: rest, done =>
    match v.retell with
    | .error e => .error e
    | .ok w => retellEntries rest (done.insert k w)
termination_by structural entries => entries

end

end Value

end Intake
