import Intake.Yaml.Token

set_option autoImplicit false

/-!
# Nodes of a document

A document is a node: a scalar, a sequence or a mapping, with its tag and its anchor, or an alias
for a node with an anchor. A node that is left out is an empty plain scalar.

## Main definitions

* `Yaml.Node` — the nodes.
* `Yaml.Node.ofTokens?` — the single document that tokens write.

## Implementation notes

The readers pass on the tokens that are left and the anchors met so far. An anchor is numbered by
how many names of anchors are in use before it, so an anchor whose name is used again takes a number
that a later one takes too; an alias then means the last node of that number.
-/

namespace Intake

namespace Yaml

/-- What a node says about itself. -/
structure NodeHead where
  anchor : Option Nat
  tag : Option String
  deriving Repr

/-- The nodes of a document. -/
inductive Node where
  | alias (anchor : Nat)
  | scalar (head : NodeHead) (plain : Bool) (text : String)
  | sequence (head : NodeHead) (items : List Node)
  | mapping (head : NodeHead) (entries : List (Node × Node))
  deriving Repr

/-- A node that is left out. -/
def Node.missing : Node := .scalar ⟨none, none⟩ true ""

/-- What is left to read, and what has been learned on the way. -/
structure NodeReader where
  tokens : List Token
  /-- The anchors whose names are in use, by their names. -/
  anchors : List (String × Nat)
  prefixes : Prefixes

/-- A reader of some part of a document. -/
abbrev ReadNode := StateT NodeReader Option

namespace ReadNode

/-- The next token. -/
def peek : ReadNode (Option Token) := return (← get).tokens.head?

/-- Passes over a token. -/
def skip : ReadNode Unit := modify fun r => { r with tokens := r.tokens.drop 1 }

/-- Whether the next token is among some. -/
def sees (ts : List Token) : ReadNode Bool := return (← peek).any ts.contains

/-- Passes over a token, which must be the next one. -/
def expect (t : Token) : ReadNode Unit := do
  if ← sees [t] then skip else failure

/-- Numbers an anchor of a name. -/
def setAnchor (name : String) : ReadNode Nat := do
  let r ← get
  let number := r.anchors.length
  set { r with anchors := (name, number) :: r.anchors.filter (·.1 != name) }
  return number

/-- The number of the anchor that an alias names. -/
def findAnchor (name : String) : ReadNode Nat := do
  match (← get).anchors.find? (·.1 == name) with
  | some (_, number) => return number
  | none => failure

/-- The name of an anchor, if one stands next. -/
def readAnchor : ReadNode (Option String) := do
  match ← peek with
  | some (.anchor name) => skip; return some name
  | _ => return none

/-- The tag that stands next, if there is one, as the name that it stands for. -/
def readTag : ReadNode (Option String) := do
  match ← peek with
  | some (.tag t) =>
    skip
    match t.resolve? (← get).prefixes with
    | some name => return some name
    | none => failure
  | _ => return none

/-- The anchor and the tag of a node, which stand in either order. -/
def readHead : ReadNode (Option String × Option String) := do
  match ← readAnchor with
  | some name => return (some name, ← readTag)
  | none =>
    match ← readTag with
    | some tag => return (← readAnchor, some tag)
    | none => return (none, none)

/-- The head of a node, its anchor numbered. -/
def numberHead (anchor tag : Option String) : ReadNode NodeHead := do
  match anchor with
  | some name => return ⟨some (← setAnchor name), tag⟩
  | none => return ⟨none, tag⟩

mutual

/-- A node. Block collections are told apart from flow style, and a sequence in a mapping need not
be set in. -/
def node : Nat → Bool → Bool → ReadNode Node
  | 0, _, _ => failure
  | fuel + 1, block, unindented => do
    if let some (.alias name) ← peek then
      skip
      return .alias (← findAnchor name)
    let (anchor, tag) ← readHead
    match ← peek with
    | some (.scalar plain text) =>
      skip
      return .scalar (← numberHead anchor (if tag = some "!" then none else tag)) plain text
    | some .flowSequenceStart =>
      skip
      return .sequence (← numberHead anchor tag) (← flowItems fuel true)
    | some .flowMappingStart =>
      skip
      return .mapping (← numberHead anchor tag) (← flowEntries fuel true)
    | t =>
      if unindented && t == some .blockEntry then
        return .sequence (← numberHead anchor tag) (← unindentedItems fuel)
      else if block && t == some .blockSequenceStart then
        skip
        return .sequence (← numberHead anchor tag) (← blockItems fuel)
      else if block && t == some .blockMappingStart then
        skip
        return .mapping (← numberHead anchor tag) (← blockEntries fuel)
      else if anchor.isSome || tag.isSome then
        return .scalar (← numberHead anchor tag) true ""
      else failure

/-- A node that is left out if one of some tokens comes next. -/
def nodeUnless : Nat → List Token → Bool → Bool → ReadNode Node
  | 0, _, _, _ => failure
  | fuel + 1, ends, block, unindented => do
    let next ← peek
    if next.all ends.contains then return .missing else node fuel block unindented

/-- The items of a block sequence up to its end. -/
def blockItems : Nat → ReadNode (List Node)
  | 0 => failure
  | fuel + 1 => do
    if ← sees [.blockEntry] then
      skip
      let item ← nodeUnless fuel [.blockEntry, .blockEnd] true false
      return item :: (← blockItems fuel)
    else
      expect .blockEnd
      return []

/-- The items of a block sequence that is not set in. -/
def unindentedItems : Nat → ReadNode (List Node)
  | 0 => failure
  | fuel + 1 => do
    if ← sees [.blockEntry] then
      skip
      let item ← nodeUnless fuel [.blockEntry, .key, .value, .blockEnd] true false
      return item :: (← unindentedItems fuel)
    else return []

/-- The entries of a block mapping up to its end. Either half of an entry may be left out. -/
def blockEntries : Nat → ReadNode (List (Node × Node))
  | 0 => failure
  | fuel + 1 => do
    if ← sees [.key] then
      skip
      let key ← nodeUnless fuel [.key, .value, .blockEnd] true true
      let value ← blockValue fuel
      return (key, value) :: (← blockEntries fuel)
    else
      expect .blockEnd
      return []

/-- The value of an entry of a block mapping. -/
def blockValue : Nat → ReadNode Node
  | 0 => failure
  | fuel + 1 => do
    if ← sees [.value] then
      skip
      nodeUnless fuel [.key, .value, .blockEnd] true true
    else return .missing

/-- The items of a flow sequence up to its end, with a comma before each but the first. An item may
be a mapping of one entry, written without braces. -/
def flowItems : Nat → Bool → ReadNode (List Node)
  | 0, _ => failure
  | fuel + 1, first => do
    if !(← sees [.flowSequenceEnd]) && !first then expect .flowEntry
    if ← sees [.flowSequenceEnd] then
      skip
      return []
    else if ← sees [.key] then
      skip
      let key ← flowPairKey fuel
      let value ← flowValue fuel [.flowEntry, .flowSequenceEnd]
      return .mapping ⟨none, none⟩ [(key, value)] :: (← flowItems fuel false)
    else
      let item ← node fuel false false
      return item :: (← flowItems fuel false)

/-- The key of an entry without braces. Where it is left out, the token in its place is passed
over. -/
def flowPairKey : Nat → ReadNode Node
  | 0 => failure
  | fuel + 1 => do
    let next ← peek
    if next.all [Token.value, .flowEntry, .flowSequenceEnd].contains then
      skip
      return .missing
    else node fuel false false

/-- The value of an entry of a flow mapping, which is left out if one of some tokens comes next. -/
def flowValue : Nat → List Token → ReadNode Node
  | 0, _ => failure
  | fuel + 1, ends => do
    if ← sees [.value] then
      skip
      nodeUnless fuel ends false false
    else return .missing

/-- The entries of a flow mapping up to its end, with a comma before each but the first. -/
def flowEntries : Nat → Bool → ReadNode (List (Node × Node))
  | 0, _ => failure
  | fuel + 1, first => do
    if !(← sees [.flowMappingEnd]) && !first then expect .flowEntry
    if ← sees [.flowMappingEnd] then
      skip
      return []
    else if ← sees [.key] then
      skip
      let key ← nodeUnless fuel [.value, .flowEntry, .flowMappingEnd] false false
      let value ← flowValue fuel [.flowEntry, .flowMappingEnd]
      return (key, value) :: (← flowEntries fuel false)
    else
      let key ← node fuel false false
      return (key, .missing) :: (← flowEntries fuel false)

end

/-- The directives that come next. -/
def readDirectives : Nat → ReadNode (List Directive)
  | 0 => return []
  | fuel + 1 => do
    match ← peek with
    | some (.directive d) =>
      skip
      return d :: (← readDirectives fuel)
    | _ => return []

/-- The one document that is to be read, if there is one. Directives need a mark behind them, and
behind a mark the document itself may be left out. -/
def document : ReadNode (Option Node) := do
  let room := (← get).tokens.length
  if room = 0 then return none
  let fuel := 4 * room + 4
  let directives ← readDirectives room
  match prefixes? directives with
  | none => failure
  | some prefixes => modify fun r => { r with prefixes }
  let marked ← sees [.documentStart]
  if !directives.isEmpty && !marked then failure
  let content ←
    if marked then
      skip
      nodeUnless fuel [.documentStart, .documentEnd] true false
    else node fuel true false
  for _ in List.range room do
    if ← sees [.documentEnd] then skip
  if (← get).tokens.isEmpty then return some content else failure

end ReadNode

/-- The single document that tokens write, which need not hold a node. -/
def Node.ofTokens? (tokens : List Token) : Option (Option Node) :=
  (ReadNode.document.run ⟨tokens, [], defaultPrefixes⟩).map (·.1)

end Yaml

end Intake
