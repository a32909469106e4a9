import Intake.Data.Error
import Intake.Value.Json
import Intake.Yaml.Tree

set_option autoImplicit false

/-!
# Values and YAML

## Main definitions

* `Value.ofYaml` — a document as a value. Tags are dropped and every key must be text.
* `Value.toYaml?` — a value as a document; bytes have no form in YAML.
-/

namespace Intake

namespace Value

mutual

/-- A document as a value. Tags on nodes are dropped, a tagged key is no text, and integers beyond
64 bits with a sign become floats. -/
def ofYaml : Yaml → Except ValueError Value
  | .null => .ok .null
  | .bool b => .ok (.bool b)
  | .unsigned n => .ok (ofUnsigned n)
  | .signed n => .ok (.int n)
  | .float x => .ok (.float x)
  | .string s => .ok (.string s)
  | .sequence items =>
    match ofYamlItems items with
    | .ok vs => .ok (.list vs)
    | .error e => .error e
  | .mapping entries =>
    match ofYamlEntries entries [] with
    | .ok es => .ok (.map es)
    | .error e => .error e
  | .tagged _ node => ofYaml node
termination_by structural y => y

/-- Every item as a value. -/
def ofYamlItems : List Yaml → Except ValueError (List Value)
  | [] => .ok []
  | y :: rest =>
    match ofYaml y with
    | .error e => .error e
    | .ok v =>
      match ofYamlItems rest with
      | .error e => .error e
      | .ok vs => .ok (v :: vs)
termination_by structural items => items

/-- Entries inserted one after another into a map. -/
def ofYamlEntries : List (Yaml × Yaml) → Dict Value → Except ValueError (Dict Value)
  | [], done => .ok done
  | (key, y) :: rest, done =>
    match key with
    | .string k =>
      match ofYaml y with
      | .error e => .error e
      | .ok v => ofYamlEntries rest (done.insert k v)
    | other => .error (.nonStringKey other.describeKey)
termination_by structural entries => entries

end

mutual

/-- A value as a document; bytes have no form in YAML. -/
def toYaml? : Value → Option Yaml
  | .null => some .null
  | .bool b => some (.bool b)
  | .int n => some (if n.toInt < 0 then .signed n else .unsigned (UInt64.ofNat n.toInt.toNat))
  | .float x => some (.float x)
  | .string s => some (.string s)
  | .bytes _ => none
  | .list items => (toYamlItems? items).map .sequence
  | .map entries => (toYamlEntries? entries).map .mapping
termination_by structural v => v

/-- Every item as a document. -/
def toYamlItems? : List Value → Option (List Yaml)
  | [] => some []
  | v :: rest =>
    match v.toYaml?, toYamlItems? rest with
    | some y, some ys => some (y :: ys)
    | _, _ => none
termination_by structural items => items

/-- Every entry as an entry of a mapping. -/
def toYamlEntries? : List (String × Value) → Option (List (Yaml × Yaml))
  | [] => some []
  | (k, v) :: rest =>
    match v.toYaml?, toYamlEntries? rest with
    | some y, some ys => some ((.string k, y) :: ys)
    | _, _ => none
termination_by structural entries => entries

end

end Value

end Intake
