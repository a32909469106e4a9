import Intake.Value.Basic

set_option autoImplicit false

/-!
# Equality of values

Two values are equal when they have the same kind and content. Maps compare without regard to
the order of their entries, floats compare as numbers (both zeros are equal, NaN equals
nothing), and an integer never equals a float.

## Main definitions

* `Value.equal` — the comparison.
-/

namespace Intake

namespace Value

mutual

/-- Equality blind to the order of map entries. -/
def equal : Value → Value → Bool
  | .null, .null => true
  | .bool a, .bool b => a == b
  | .int a, .int b => a == b
  | .float a, .float b => a.equal b
  | .string a, .string b => a == b
  | .bytes a, .bytes b => a == b
  | .list xs, .list ys => equalItems xs ys
  | .map es, .map fs => es.length == fs.length && entriesWithin es fs
  | _, _ => false
termination_by structural v => v

/-- Equality of lists, item by item. -/
def equalItems : List Value → List Value → Bool
  | [], [] => true
  | x :: xs, y :: ys => x.equal y && equalItems xs ys
  | _, _ => false
termination_by structural xs => xs

/-- Whether every entry has a partner of the same key and an equal value. -/
def entriesWithin : List (String × Value) → List (String × Value) → Bool
  | [], _ => true
  | (k, v) :: rest, fs =>
    (match Dict.find? fs k with
      | some w => v.equal w
      | none => false) && entriesWithin rest fs
termination_by structural es => es

end

/-- Equality of maps, blind to the order of entries. -/
def equalMaps (es fs : Dict Value) : Bool := (Value.map es).equal (.map fs)

end Value

end Intake
