import Intake.Yaml.Cursor

set_option autoImplicit false

/-!
# Block scalars

A block scalar is a header and the lines below it that are set in. Literal blocks keep their lines;
folded ones join them, except those that begin with a blank. The header may say how deep the lines
are set in, and whether the line breaks at the end are kept, dropped, or clipped to one.

## Main definitions

* `Yaml.BlockHeader`, `Yaml.takeBlockHeader` — the header.
* `Yaml.takeBlock` — the text of a block scalar.
-/

namespace Intake

namespace Yaml

/-- What becomes of the line breaks at the end of a block. -/
inductive Chomping where
  | clip
  | drop
  | keep
  deriving DecidableEq, Repr

/-- The header of a block scalar. -/
structure BlockHeader where
  folded : Bool
  chomping : Chomping
  /-- By how many columns the lines are set in, if the header says so. -/
  step : Option Nat
  deriving Repr

/-- The mark for the line breaks at the end, if one stands at a place. -/
def takeChomping (c : Cursor) : Option (Chomping × Cursor) :=
  if c.sees '+' then some (.keep, c.skip 1)
  else if c.sees '-' then some (.drop, c.skip 1)
  else none

/-- The digit for the indentation at a place, if there is one, and the place behind it. A zero is
refused. -/
def takeStep (c : Cursor) : Option (Option Nat × Cursor) :=
  match c.peek? 0 with
  | some d =>
    if !d.isDigit then some (none, c)
    else if d = '0' then none
    else some (some (d.toNat - 48), c.skip 1)
  | none => some (none, c)

/-- The header of a block scalar at a place, and the place behind its line. The two marks may stand
in either order. -/
def takeBlockHeader (c : Cursor) : Option (BlockHeader × Cursor) :=
  let folded := c.sees '>'
  let c := c.skip 1
  let marks : Option (BlockHeader × Cursor) :=
    match takeChomping c with
    | some (chomping, c) => (takeStep c).map fun p => (⟨folded, chomping, p.1⟩, p.2)
    | none =>
      match takeStep c with
      | none => none
      | some (none, c) => some (⟨folded, .clip, none⟩, c)
      | some (step, c) =>
        match takeChomping c with
        | some (chomping, c) => some (⟨folded, chomping, step⟩, c)
        | none => some (⟨folded, .clip, step⟩, c)
  match marks with
  | none => none
  | some (header, c) => c.skipLineEnd?.map fun c => (header, c)

/-- The empty lines at a place: the deepest column reached, their line breaks, and the place behind
them and behind the indentation of the next line. The depth of the lines may not be known yet; up to
it, no tab may stand. -/
def takeEmptyLines (depth : Option Nat) : Nat → List Char → Mark → List Char →
    Option (Nat × List Char × Cursor)
  | deepest, breaks, m, ' ' :: rest =>
    if (depth.map fun d => decide (m.column < d)).getD true then
      takeEmptyLines depth (max deepest (m.column + 1)) breaks (m.along 1) rest
    else some (deepest, breaks, ⟨' ' :: rest, m⟩)
  | deepest, breaks, m, '\t' :: rest =>
    if (depth.map fun d => decide (m.column < d)).getD true then none
    else some (deepest, breaks, ⟨'\t' :: rest, m⟩)
  | deepest, breaks, m, '\r' :: '\n' :: rest =>
    takeEmptyLines depth deepest (breaks ++ ['\n']) (m.nextLine 2) rest
  | deepest, breaks, m, c :: rest =>
    if isBreak c then
      takeEmptyLines depth deepest (breaks ++ [readBreak c]) (m.nextLine c.utf8Size) rest
    else some (deepest, breaks, ⟨c :: rest, m⟩)
  | deepest, breaks, m, [] => some (deepest, breaks, ⟨[], m⟩)

/-- The lines of a block so far: the text, the break behind its last line, the breaks of the empty
lines behind that, and whether the last line begins with a blank. -/
structure BlockText where
  text : List Char
  lineBreak : List Char
  emptyLines : List Char
  blankFirst : Bool

namespace BlockText

/-- A block with one more line. In a folded block a line feed between two lines that begin with no
blank is a space, or is dropped if empty lines follow it. -/
def addLine (b : BlockText) (folded : Bool) (line : List Char) : BlockText :=
  let blankFirst := (line.head?.map isGap).getD false
  let joint :=
    if folded && b.lineBreak == ['\n'] && !b.blankFirst && !blankFirst then
      if b.emptyLines.isEmpty then [' '] else []
    else b.lineBreak
  ⟨b.text ++ joint ++ b.emptyLines ++ line, [], [], blankFirst⟩

/-- The text of a block whose line breaks at the end are treated in a way. -/
def finish (b : BlockText) : Chomping → List Char
  | .drop => b.text
  | .clip => b.text ++ b.lineBreak
  | .keep => b.text ++ b.lineBreak ++ b.emptyLines

end BlockText

/-- The lines of a block from a place on, all set in up to a depth. -/
def takeBlockLines (folded : Bool) (depth : Nat) : Nat → BlockText → Cursor →
    Option (BlockText × Cursor)
  | 0, _, _ => none
  | fuel + 1, b, c =>
    if c.column ≠ depth ∨ c.rest.isEmpty then some (b, c)
    else
      let (line, c) := c.takeWhile (fun x => !isBreak x)
      let (lineBreak, c) := c.takeBreak
      match takeEmptyLines (some depth) 0 [] c.mark c.rest with
      | none => none
      | some (_, breaks, c) =>
        let b := { b.addLine folded line with lineBreak := lineBreak, emptyLines := breaks }
        takeBlockLines folded depth fuel b c

/-- The text of a block scalar whose mark stands at a place, in a collection that is set in up to a
column, if it is in one, and the place behind it. Every round takes a line, so the length of the
text is fuel enough. -/
def takeBlock (around : Option Nat) (c : Cursor) : Option (List Char × Cursor) :=
  match takeBlockHeader c with
  | none => none
  | some (header, c) =>
    let depth? := header.step.map (around.getD 0 + ·)
    match takeEmptyLines depth? 0 [] c.mark c.rest with
    | none => none
    | some (deepest, breaks, c) =>
      let least := max 1 ((around.map (· + 1)).getD 0)
      let depth := depth?.getD (max deepest least)
      match takeBlockLines header.folded depth (c.rest.length + 1) ⟨[], [], breaks, false⟩ c with
      | none => none
      | some (b, c) => some (b.finish header.chomping, c)

end Yaml

end Intake
