import Intake.Value.Yaml
import Intake.Yaml.Reader

set_option autoImplicit false

/-!
# Documents

A document is a text in JSON or YAML. The name of its file decides which: the extension `json`, in
any case, means JSON, and every other name means YAML, which JSON documents are part of.

## Main definitions

* `DocumentFormat`, `DocumentFormat.ofPath`, `DocumentFormat.ofExtension` — the two formats.
* `DocumentFormat.parse`, `parseDocument` — a text as a value.
-/

namespace Intake

/-- The formats of documents. -/
inductive DocumentFormat where
  | json
  | yaml
  deriving DecidableEq, Repr

/-- The last component of a path, unless there is none: repeated and final slashes and components
`.` do not count. -/
def fileName? (path : String) : Option String :=
  let parts := (path.splitOn "/").filter fun p => p ≠ "" ∧ p ≠ "."
  match parts.getLast? with
  | none => none
  | some ".." => none
  | some name => some name

/-- The part of a file name behind its last point; a name whose only point comes first has none. -/
def extension? (name : String) : Option String :=
  let reversed := name.toList.reverse
  let tail := reversed.takeWhile (· != '.')
  let head := reversed.drop (tail.length + 1)
  if tail.length = reversed.length ∨ head.isEmpty then none
  else some (String.ofList tail.reverse)

namespace DocumentFormat

/-- The format that an extension means. -/
def ofExtension (ext : String) : DocumentFormat :=
  if ext.toList.map Char.toLower = ['j', 's', 'o', 'n'] then .json else .yaml

/-- The format that a path means. -/
def ofPath (path : String) : DocumentFormat :=
  match (fileName? path).bind extension? with
  | some ext => ofExtension ext
  | none => .yaml

/-- A text in this format as a value. -/
def parse (format : DocumentFormat) (text : String) : Except ValueError Value :=
  match format with
  | .json =>
    match Value.readJson? text with
    | some v => .ok v
    | none => .error .json
  | .yaml =>
    match Yaml.read? text with
    | some y => Value.ofYaml y
    | none => .error .yaml

end DocumentFormat

/-- A text as a value, the path deciding on the format. -/
def parseDocument (path text : String) : Except ValueError Value :=
  (DocumentFormat.ofPath path).parse text

end Intake
