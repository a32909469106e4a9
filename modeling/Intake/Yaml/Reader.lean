import Intake.Yaml.Node
import Intake.Yaml.Scalar

set_option autoImplicit false

/-!
# Reading YAML

A text is read into tokens, the tokens into nodes with anchors and aliases, and those into a tree in
which every alias is replaced by what it stands for. A text that is not a single document has no
reading; the reason is not kept.

## Main definitions

* `Yaml.ofNode?` — the tree of a node.
* `Yaml.read?` — a whole text as a document.

## Implementation notes

Collections may nest 128 deep, the ones that aliases stand for included, and aliases may be followed
a hundred times as often as the document has parts. So an alias for a collection around it has no
tree. A repeated key has none either.
-/

namespace Intake

namespace Yaml

/-! ### Anchors -/

namespace Node

mutual

/-- How many parts a node has: one for a scalar or an alias, and the two ends of a collection. -/
def partCount : Node → Nat
  | .alias _ => 1
  | .scalar _ _ _ => 1
  | .sequence _ items => itemParts items + 2
  | .mapping _ entries => entryParts entries + 2
termination_by structural n => n

/-- How many parts the items of a sequence have. -/
def itemParts : List Node → Nat
  | [] => 0
  | n :: rest => n.partCount + itemParts rest
termination_by structural items => items

/-- How many parts the entries of a mapping have. -/
def entryParts : List (Node × Node) → Nat
  | [] => 0
  | (k, v) :: rest => k.partCount + v.partCount + entryParts rest
termination_by structural entries => entries

end

/-- A node by the number of its anchor, if it has one. -/
def numbered (head : NodeHead) (n : Node) : List (Nat × Node) :=
  head.anchor.toList.map fun number => (number, n)

mutual

/-- The nodes with an anchor inside a node and the node itself, by the numbers of their anchors, in
the order in which they begin. -/
def anchored : Node → List (Nat × Node)
  | .alias _ => []
  | .scalar head plain text => numbered head (.scalar head plain text)
  | .sequence head items => numbered head (.sequence head items) ++ anchoredItems items
  | .mapping head entries => numbered head (.mapping head entries) ++ anchoredEntries entries
termination_by structural n => n

/-- The nodes with an anchor among the items of a sequence. -/
def anchoredItems : List Node → List (Nat × Node)
  | [] => []
  | n :: rest => n.anchored ++ anchoredItems rest
termination_by structural items => items

/-- The nodes with an anchor among the entries of a mapping. -/
def anchoredEntries : List (Node × Node) → List (Nat × Node)
  | [] => []
  | (k, v) :: rest => k.anchored ++ v.anchored ++ anchoredEntries rest
termination_by structural entries => entries

end

end Node

/-! ### Trees -/

/-- What aliases stand for, and how often they may be followed. -/
structure Aliases where
  targets : List (Nat × Node)
  limit : Nat

/-- The node that an alias stands for: the last one of its number. -/
def Aliases.target? (a : Aliases) (number : Nat) : Option Node :=
  (a.targets.reverse.find? (·.1 == number)).map (·.2)

/-- A tree under a tag, which is one only if it begins with an exclamation mark. -/
def underTag (tag : Option String) (y : Yaml) : Yaml :=
  match tag with
  | some name => if name.startsWith "!" then .tagged name y else y
  | none => y

/-- Whether a tag is one. -/
def isOwnTag (tag : Option String) : Bool := tag.any (·.startsWith "!")

/-- The tree of a scalar. Where its own tag is already known, it is left aside. -/
def scalarTree? (known : Bool) (tag : Option String) (plain : Bool) (text : String) : Option Yaml :=
  match tag with
  | none => ofScalar? plain text
  | some name =>
    if known then ofScalar? plain text
    else if isOwnTag tag then (ofScalar? plain text).map (underTag tag)
    else ofTagged? name text

/-- Whether a key occurs among the keys of entries. -/
def hasKey (entries : List (Yaml × Yaml)) (key : Yaml) : Bool := entries.any fun e => e.1.same key

/-- Whether no key occurs twice. -/
def keysDiffer : List (Yaml × Yaml) → Bool
  | [] => true
  | (key, _) :: rest => !hasKey rest key && keysDiffer rest

/-- The tree of a node that is no alias, within so many levels of collections. The state counts how
often aliases have been followed. A tag may be known already: the keys of a mapping with a tag of
its own are read as if theirs were. -/
def ofContent (aliases : Aliases) : Nat → Bool → Node → StateT Nat Option Yaml
  | _, _, .alias _ => failure
  | _, known, .scalar head plain text => liftM (scalarTree? known head.tag plain text)
  | 0, _, .sequence _ _ => failure
  | 0, _, .mapping _ _ => failure
  | room + 1, known, .sequence head items => do
    let tree (n : Node) : StateT Nat Option Yaml := inside room false n
    let items ← items.mapM tree
    return if known then .sequence items else underTag head.tag (.sequence items)
  | room + 1, known, .mapping head entries => do
    let tagged := known || isOwnTag head.tag
    let entries ← entries.mapM fun (k, v) => do
      let key ← inside room tagged k
      let value ← inside room false v
      return (key, value)
    if keysDiffer entries then
      return if known then .mapping entries else underTag head.tag (.mapping entries)
    else failure
where
  /-- The tree of a node within so many levels, aliases followed. -/
  inside (room : Nat) (known : Bool) : Node → StateT Nat Option Yaml
    | .alias number => do
      let followed ← get
      set (followed + 1)
      if aliases.limit ≤ followed then failure
      match aliases.target? number with
      | some n => ofContent aliases room false n
      | none => failure
    | n => ofContent aliases room known n

/-- How many collections may lie inside one another. -/
def maxDepth : Nat := 128

/-- The tree of a node. -/
def ofNode? (n : Node) : Option Yaml :=
  ((ofContent ⟨n.anchored, 100 * n.partCount⟩ maxDepth false n).run 0).map (·.1)

/-- A whole text as a document. A text without a node is null. -/
def read? (text : String) : Option Yaml :=
  match (Token.ofText? text.toList).bind Node.ofTokens? with
  | none => none
  | some none => some .null
  | some (some n) => ofNode? n

end Yaml

end Intake
