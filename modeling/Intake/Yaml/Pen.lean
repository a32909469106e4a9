import Intake.Yaml.Cursor

set_option autoImplicit false

/-!
# The pen that writes a document

What is written next depends on where the pen stands: a line is begun only if it has not just been
begun, and a blank is left only where none is.

## Main definitions

* `Yaml.Pen` — what has been written, and where the pen stands.
* `Yaml.Pen.indentTo`, `Yaml.Pen.mark` — the steps of a printer.
-/

namespace Intake

namespace Yaml

/-- What has been written, and where the pen stands. -/
structure Pen where
  /-- The characters written, the last one first. -/
  written : List Char
  column : Nat
  /-- Whether no blank is needed before the next mark. -/
  afterBlank : Bool
  /-- Whether nothing but indentation and marks of block collections stands on the line. -/
  indenting : Bool
  deriving Repr

namespace Pen

/-- The pen at the beginning of a document. -/
def start : Pen := ⟨[], 0, true, true⟩

/-- The text that has been written. -/
def text (p : Pen) : String := String.ofList p.written.reverse

/-- Writes a character. -/
def put (p : Pen) (c : Char) : Pen := { p with written := c :: p.written, column := p.column + 1 }

/-- Writes some characters. -/
def putAll (p : Pen) (cs : List Char) : Pen := cs.foldl put p

/-- Ends the line with a character. -/
def breakWith (p : Pen) (c : Char) : Pen := { p with written := c :: p.written, column := 0 }

/-- Goes to a column that text is set in to, on a new line if something stands on this one. -/
def indentTo (p : Pen) (column : Nat) : Pen :=
  let fresh := p.indenting && decide (p.column ≤ column) && (p.column != column || p.afterBlank)
  let p := if fresh then p else p.breakWith '\n'
  { p.putAll (List.replicate (column - p.column) ' ') with afterBlank := true, indenting := true }

/-- Leaves a blank where one is needed. -/
def leaveBlank (p : Pen) : Pen := if p.afterBlank then p else p.put ' '

/-- Writes a mark behind a blank. Only marks of block collections leave the line open for others. -/
def mark (p : Pen) (cs : List Char) (ofBlock : Bool) : Pen :=
  { p.leaveBlank.putAll cs with afterBlank := false, indenting := p.indenting && ofBlock }

/-- Writes a mark directly behind what stands before it. -/
def markClose (p : Pen) (cs : List Char) : Pen :=
  { p.putAll cs with afterBlank := false, indenting := false }

end Pen

end Yaml

end Intake
