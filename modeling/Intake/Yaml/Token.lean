import Intake.Yaml.Scalar.Block
import Intake.Yaml.Scalar.Plain
import Intake.Yaml.Tag

set_option autoImplicit false

/-!
# Tokens of a YAML text

The tokens of a text are its marks, names and scalars, and besides them the places where the
collections of block style begin and end, which only the columns of the text show.

## Main definitions

* `Yaml.Token` — the tokens.
* `Yaml.Scanner` — what is known of a text up to a place.
* `Yaml.Token.ofText?` — all tokens of a text.

## Implementation notes

That a scalar or a collection is the key of a mapping shows only at the colon behind it. So wherever
a key may begin the scanner notes a candidate, and a colon puts the tokens for the key in front of
the candidate. A candidate counts on its own line and for 1024 bytes.
-/

namespace Intake

namespace Yaml

/-- The tokens of a text. -/
inductive Token where
  | directive (d : Directive)
  | documentStart
  | documentEnd
  | blockSequenceStart
  | blockMappingStart
  | blockEnd
  | flowSequenceStart
  | flowSequenceEnd
  | flowMappingStart
  | flowMappingEnd
  | blockEntry
  | flowEntry
  | key
  | value
  | anchor (name : String)
  | alias (name : String)
  | tag (t : TagName)
  | scalar (plain : Bool) (text : String)
  deriving DecidableEq, Repr

/-- A place where a key may begin. -/
structure KeyCandidate where
  mark : Mark
  /-- How many tokens lie before it. -/
  position : Nat
  /-- Whether nothing but a key may begin there. -/
  required : Bool
  deriving Repr

/-- What is known of a text up to a place. -/
structure Scanner where
  cursor : Cursor
  tokens : Array Token
  /-- The column of the innermost block collection, and those of the collections around it. -/
  columns : List Nat
  /-- The candidate of the innermost flow collection, or of the block around all. -/
  candidate : Option KeyCandidate
  /-- The candidates of the collections around the innermost one, which tell how many there are. -/
  outer : List (Option KeyCandidate)
  /-- Whether a key may begin at the place. -/
  keyAllowed : Bool
  deriving Repr

namespace Scanner

/-- The beginning of a text. -/
def start (text : List Char) : Scanner := ⟨.start text, #[], [], none, [], true⟩

/-- Whether a place lies in a collection in flow style. -/
def inFlow (s : Scanner) : Bool := !s.outer.isEmpty

/-- The column from which on text belongs to the innermost block collection. -/
def leastColumn (s : Scanner) : Nat := (s.columns.head?.map (· + 1)).getD 0

/-- The scanner behind a token. -/
def push (s : Scanner) (t : Token) (behind : Cursor) : Scanner :=
  { s with tokens := s.tokens.push t, cursor := behind }

/-- The scanner behind a token of so many characters. -/
def pushMark (s : Scanner) (t : Token) (length : Nat) : Scanner :=
  s.push t (s.cursor.skip length)

/-- The scanner after it is settled whether a key may begin. -/
def allowKey (s : Scanner) (allowed : Bool) : Scanner := { s with keyAllowed := allowed }

/-! ### Candidates for keys -/

/-- Drops the candidate; nothing if a key is required there. -/
def dropCandidate? (s : Scanner) : Option Scanner :=
  if (s.candidate.map (·.required)).getD false then none else some { s with candidate := none }

/-- Notes a candidate where a key may begin. In block style a key is required at the column of the
innermost collection. -/
def noteCandidate? (s : Scanner) : Option Scanner :=
  if !s.keyAllowed then some s
  else
    let required := !s.inFlow && s.columns.head? == some s.cursor.column
    s.dropCandidate?.map fun s =>
      { s with candidate := some ⟨s.cursor.mark, s.tokens.size, required⟩ }

/-- Whether a candidate no longer counts at a place. -/
def isStale (place : Mark) (k : KeyCandidate) : Bool :=
  decide (k.mark.line < place.line) || decide (k.mark.index + 1024 < place.index)

/-- The candidates without those that no longer count; nothing if a key is required at one of
those. -/
def dropStale? (s : Scanner) : Option Scanner :=
  let all := s.candidate :: s.outer
  let stale (k? : Option KeyCandidate) : Bool := k?.any (isStale s.cursor.mark)
  if all.any fun k? => stale k? && k?.any (·.required) then none
  else
    let fresh (k? : Option KeyCandidate) : Option KeyCandidate := if stale k? then none else k?
    some { s with candidate := fresh s.candidate, outer := s.outer.map fresh }

/-! ### Block collections -/

/-- Begins a block collection at a column, if it is deeper than the innermost one; its token goes to
a position. -/
def openBlock (s : Scanner) (column position : Nat) (t : Token) : Scanner :=
  if !s.inFlow && decide (s.leastColumn ≤ column) then
    { s with
      columns := column :: s.columns
      tokens := s.tokens.insertIdxIfInBounds position t }
  else s

/-- Ends the block collections deeper than a column, given how many columns are noted. -/
def closeDeeper (holds : Nat → Bool) : List Nat → Array Token → List Nat × Array Token
  | [], tokens => ([], tokens)
  | c :: columns, tokens =>
    if holds c then closeDeeper holds columns (tokens.push .blockEnd) else (c :: columns, tokens)

/-- Ends the block collections that are deeper than the place. -/
def closeBlocks (s : Scanner) : Scanner :=
  if s.inFlow then s
  else
    let (columns, tokens) :=
      closeDeeper (fun c => decide (s.cursor.column < c)) s.columns s.tokens
    { s with columns, tokens }

/-- Ends all block collections. -/
def closeAllBlocks (s : Scanner) : Scanner :=
  if s.inFlow then s
  else
    let (columns, tokens) := closeDeeper (fun _ => true) s.columns s.tokens
    { s with columns, tokens }

/-! ### Between tokens -/

/-- Passes over blanks, comments and line breaks up to the next token, in so many rounds at most. In
block style a key may begin on each new line, and no tab may stand before it. -/
def skipToToken : Nat → Scanner → Scanner
  | 0, s => s
  | fuel + 1, s =>
    let tabs := s.inFlow || !s.keyAllowed
    let c := s.cursor.skipWhile fun x => x == ' ' || (tabs && x == '\t')
    let c := if c.sees '#' then c.skipWhile (fun x => !isBreak x) else c
    match c.peek? 0 with
    | none => { s with cursor := c }
    | some x =>
      if isBreak x then
        skipToToken fuel
          { s with cursor := c.takeBreak.2, keyAllowed := s.keyAllowed || !s.inFlow }
      else { s with cursor := c }

/-- Passes over a byte order mark at the front of the text. -/
def skipOrderMark (s : Scanner) : Scanner :=
  if s.cursor.mark.index == 0 && s.cursor.peek? 0 == some (Char.ofNat 0xFEFF) then
    { s with cursor := s.cursor.skip 1 }
  else s

/-! ### Tokens -/

/-- Reads a mark between documents, or a directive, which ends all that came before. -/
def betweenDocuments? (s : Scanner) (read : Scanner → Option Scanner) : Option Scanner :=
  match s.closeAllBlocks.dropCandidate? with
  | none => none
  | some s => (read s).map (·.allowKey false)

/-- Begins a collection in flow style, which may itself be a key. -/
def openFlow? (s : Scanner) (t : Token) : Option Scanner :=
  s.noteCandidate?.map fun s =>
    ({ s with candidate := none, outer := s.candidate :: s.outer }.pushMark t 1).allowKey true

/-- Ends a collection in flow style. -/
def closeFlow? (s : Scanner) (t : Token) : Option Scanner :=
  s.dropCandidate?.map fun s =>
    let s := match s.outer with
      | candidate :: outer => { s with candidate, outer }
      | [] => s
    (s.pushMark t 1).allowKey false

/-- Reads a comma. -/
def flowEntry? (s : Scanner) : Option Scanner :=
  s.dropCandidate?.map fun s => (s.pushMark .flowEntry 1).allowKey true

/-- Reads the dash of an item. -/
def blockEntry? (s : Scanner) : Option Scanner :=
  if !s.inFlow && !s.keyAllowed then none
  else
    (s.openBlock s.cursor.column s.tokens.size .blockSequenceStart).dropCandidate?.map fun s =>
      (s.pushMark .blockEntry 1).allowKey true

/-- Reads the question mark of a key. -/
def key? (s : Scanner) : Option Scanner :=
  if !s.inFlow && !s.keyAllowed then none
  else
    (s.openBlock s.cursor.column s.tokens.size .blockMappingStart).dropCandidate?.map fun s =>
      (s.pushMark .key 1).allowKey !s.inFlow

/-- Reads the colon of a value. If there is a candidate, it is the key. -/
def value? (s : Scanner) : Option Scanner :=
  match s.candidate with
  | some k =>
    let s := { s with tokens := s.tokens.insertIdxIfInBounds k.position .key, candidate := none }
    let s := s.openBlock k.mark.column k.position .blockMappingStart
    some ((s.pushMark .value 1).allowKey false)
  | none =>
    if !s.inFlow && !s.keyAllowed then none
    else
      let s := s.openBlock s.cursor.column s.tokens.size .blockMappingStart
      some ((s.pushMark .value 1).allowKey !s.inFlow)

/-- Reads the name of an anchor or of an alias. -/
def name? (s : Scanner) (t : String → Token) : Option Scanner :=
  match s.noteCandidate? with
  | none => none
  | some s =>
    let (name, behind) := (s.cursor.skip 1).takeWhile isNameChar
    let next := behind.peek? 0
    let follows := endsWord next ||
      next.any fun c => ['?', ':', ',', ']', '\x7d', '%', '@', '\x60'].contains c
    if name.isEmpty || !follows then none
    else some ((s.push (t (String.ofList name)) behind).allowKey false)

/-- Reads a tag. -/
def tag? (s : Scanner) : Option Scanner :=
  match s.noteCandidate? with
  | none => none
  | some s =>
    (takeTag s.inFlow s.cursor).map fun p => (s.push (.tag p.1) p.2).allowKey false

/-- Reads a block scalar. -/
def blockScalar? (s : Scanner) : Option Scanner :=
  match s.dropCandidate? with
  | none => none
  | some s =>
    (takeBlock s.columns.head? s.cursor).map fun p =>
      (s.push (.scalar false (String.ofList p.1)) p.2).allowKey true

/-- Reads a quoted scalar. -/
def quotedScalar? (s : Scanner) : Option Scanner :=
  match s.noteCandidate? with
  | none => none
  | some s =>
    (takeQuoted s.cursor).map fun p =>
      (s.push (.scalar false (String.ofList p.1)) p.2).allowKey false

/-- Reads a plain scalar. -/
def plainScalar? (s : Scanner) : Option Scanner :=
  match s.noteCandidate? with
  | none => none
  | some s =>
    (takePlain s.inFlow s.leastColumn s.cursor).map fun p =>
      (s.push (.scalar true (String.ofList p.text)) p.behind).allowKey p.endsLine

/-- Reads the token at a place that begins with a character. -/
def token? (s : Scanner) (c : Char) : Option Scanner :=
  let next := s.cursor.peek? 1
  let apart := endsWord next
  if s.cursor.column == 0 && c == '%' then
    s.betweenDocuments? fun s => (takeDirective s.cursor).map fun p => s.push (.directive p.1) p.2
  else if s.cursor.seesTriple '-' then
    s.betweenDocuments? fun s => some (s.pushMark .documentStart 3)
  else if s.cursor.seesTriple '.' then
    s.betweenDocuments? fun s => some (s.pushMark .documentEnd 3)
  else if c == '[' then s.openFlow? .flowSequenceStart
  else if c == '\x7b' then s.openFlow? .flowMappingStart
  else if c == ']' then s.closeFlow? .flowSequenceEnd
  else if c == '\x7d' then s.closeFlow? .flowMappingEnd
  else if c == ',' then s.flowEntry?
  else if c == '-' && apart then s.blockEntry?
  else if c == '?' && (s.inFlow || apart) then s.key?
  else if c == ':' && (s.inFlow || apart) then s.value?
  else if c == '*' then s.name? .alias
  else if c == '&' then s.name? .anchor
  else if c == '!' then s.tag?
  else if (c == '|' || c == '>') && !s.inFlow then s.blockScalar?
  else if c == '\'' || c == '"' then s.quotedScalar?
  else if mayBeginPlain s.inFlow c next then s.plainScalar?
  else none

/-- Reads all tokens from a place on, in so many rounds at most. -/
def run? : Nat → Scanner → Option (Array Token)
  | 0, _ => none
  | fuel + 1, s =>
    match (skipToToken (s.cursor.rest.length + 1) s.skipOrderMark).dropStale? with
    | none => none
    | some s =>
      let s := s.closeBlocks
      match s.cursor.peek? 0 with
      | none => s.closeAllBlocks.dropCandidate?.map (·.tokens)
      | some c =>
        match s.token? c with
        | none => none
        | some s => run? fuel s

end Scanner

/-- All tokens of a text; nothing if some part of it is no token. Every round takes a character, so
the length of the text is fuel enough. -/
def Token.ofText? (text : List Char) : Option (List Token) :=
  if text.all mayOccur then (Scanner.run? (text.length + 1) (.start text)).map (·.toList) else none

end Yaml

end Intake
