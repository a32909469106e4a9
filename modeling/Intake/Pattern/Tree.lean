import Intake.Unicode.CharSet

set_option autoImplicit false

/-!
# Patterns as trees

## Main definitions

* `PatternTree` — what a pattern is made of.
* `Place` — the places in a text that a pattern can ask for.
* `PatternTree.nesting` — how deep the parts of a pattern lie inside one another.

## Implementation notes

Whether a repetition prefers few or many turns decides only where a match ends, so it is not part of
the tree.
-/

namespace Intake

/-- Places between the characters of a text. -/
inductive Place where
  | textStart
  | textEnd
  | lineStart
  | lineEnd
  /-- A line start where lines may also end in a carriage return, alone or before a line feed. -/
  | lineStartAnyEnding
  | lineEndAnyEnding
  | wordBoundary (unicode : Bool)
  | noWordBoundary (unicode : Bool)
  | wordStart (unicode : Bool)
  | wordEnd (unicode : Bool)
  /-- Behind anything that is no part of a word. -/
  | wordStartHalf (unicode : Bool)
  /-- Before anything that is no part of a word. -/
  | wordEndHalf (unicode : Bool)

/-- What a pattern is made of. -/
inductive PatternTree where
  | empty
  /-- One character of a set, which is written with so many classes inside one another. -/
  | one (set : CharSet) (depth : Nat)
  | place (p : Place)
  /-- A group, which may capture what it matches. -/
  | group (captures : Bool) (t : PatternTree)
  | sequence (items : List PatternTree)
  | choice (options : List PatternTree)
  /-- So many turns at least, and so many at most, if there is a limit. -/
  | turns (least : Nat) (most : Option Nat) (t : PatternTree)

namespace PatternTree

mutual

/-- How many groups, repetitions, sequences, choices and classes lie inside one another. -/
def nesting : PatternTree → Nat
  | .one _ depth => depth
  | .group _ t => t.nesting + 1
  | .sequence items => nestingOf items + 1
  | .choice options => nestingOf options + 1
  | .turns _ _ t => t.nesting + 1
  | .empty => 0
  | .place _ => 0
termination_by structural t => t

/-- The deepest nesting of some patterns. -/
def nestingOf : List PatternTree → Nat
  | [] => 0
  | t :: rest => max t.nesting (nestingOf rest)
termination_by structural items => items

end

/-- The deepest nesting that a pattern may have. -/
def maxNesting : Nat := 250

end PatternTree

end Intake
