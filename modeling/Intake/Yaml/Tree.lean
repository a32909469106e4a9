import Intake.Json.Printer
import Intake.Number.FloatText
import Intake.Text.Quoted
import Intake.Value.Basic

set_option autoImplicit false

/-!
# YAML trees

## Main definitions

* `Yaml` — a YAML document. Any node may be the key of a mapping, and any node may carry a tag.
* `Yaml.untag` — the document without its tags.
* `Yaml.same` — equality of nodes, blind to the order of mappings.
* `Yaml.describeKey` — a key as an error message names it.
-/

namespace Intake

/-- A YAML document. -/
inductive Yaml where
  | null
  | bool (b : Bool)
  /-- An integer from zero up. -/
  | unsigned (n : UInt64)
  /-- An integer below zero. -/
  | signed (n : Int64)
  | float (x : Binary64)
  | string (s : String)
  | sequence (items : List Yaml)
  | mapping (entries : List (Yaml × Yaml))
  | tagged (tag : String) (node : Yaml)
  deriving Inhabited, Repr

namespace Yaml

mutual

/-- The document without its tags. -/
def untag : Yaml → Yaml
  | .sequence items => .sequence (untagItems items)
  | .mapping entries => .mapping (untagEntries entries)
  | .tagged _ node => node.untag
  | other => other
termination_by structural y => y

/-- Every item without its tags. -/
def untagItems : List Yaml → List Yaml
  | [] => []
  | y :: rest => y.untag :: untagItems rest
termination_by structural items => items

/-- Every key and value without its tags. -/
def untagEntries : List (Yaml × Yaml) → List (Yaml × Yaml)
  | [] => []
  | (k, v) :: rest => (k.untag, v.untag) :: untagEntries rest
termination_by structural entries => entries

end

mutual

/-- Equality of nodes, blind to the order of mappings; NaN equals itself. -/
def same : Yaml → Yaml → Bool
  | .null, .null => true
  | .bool a, .bool b => a == b
  | .unsigned a, .unsigned b => a == b
  | .signed a, .signed b => a == b
  | .float a, .float b => a.equal b || (a.isNaN && b.isNaN)
  | .string a, .string b => a == b
  | .sequence xs, .sequence ys => sameItems xs ys
  | .mapping es, .mapping fs => es.length == fs.length && sameEntries es fs
  | .tagged s a, .tagged t b => s == t && a.same b
  | _, _ => false
termination_by structural y => y

/-- Equality of sequences, item by item. -/
def sameItems : List Yaml → List Yaml → Bool
  | [], [] => true
  | x :: xs, y :: ys => x.same y && sameItems xs ys
  | _, _ => false
termination_by structural xs => xs

/-- Whether every entry has a partner with the same key and value. -/
def sameEntries : List (Yaml × Yaml) → List (Yaml × Yaml) → Bool
  | [], _ => true
  | (k, v) :: rest, fs => (fs.any fun f => k.same f.1 && v.same f.2) && sameEntries rest fs
termination_by structural es => es

end

/-- A key as an error message names it. -/
def describeKey : Yaml → String
  | .null => "null"
  | .bool b => "bool " ++ (if b then "true" else "false")
  | .unsigned n => "number " ++ String.ofList (natChars n.toNat)
  | .signed n => "number " ++ String.ofList (intChars n.toInt)
  | .float x => "number " ++ FloatStyle.yaml.write x
  | .string s => "string " ++ quoteText s
  | .sequence _ => "sequence"
  | .mapping _ => "mapping"
  | .tagged _ node => node.describeKey

end Yaml

end Intake
