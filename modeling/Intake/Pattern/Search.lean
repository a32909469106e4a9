import Intake.Pattern.Tree
import Intake.Unicode.Named

set_option autoImplicit false

/-!
# Searching for patterns

A pattern is searched for from all places of a text at once: it leads from a set of places to the
set of places that its matches from there end at. A set of places is a number, of which bit `i` says
whether it holds the place before character `i`.

## Main definitions

* `PatternTree.reach` — the places that a pattern leads to.
* `PatternTree.occursIn` — whether a pattern matches anywhere in a text.
-/

namespace Intake

/-- A set of places of a text, as bits. -/
abbrev Places := Nat

namespace Places

/-- The places of which a condition holds, up to the place behind the last character. -/
def filter (count : Nat) (holds : Nat → Bool) : Places :=
  (List.range (count + 1)).foldl (fun s i => if holds i then s ||| 1 <<< i else s) 0

/-- All places of a text of so many characters. -/
def all (count : Nat) : Places := 1 <<< (count + 1) - 1

end Places

/-- The character before a place, if it belongs to a set. -/
def hasBefore (text : Array Char) (set : CharSet) (i : Nat) : Bool :=
  match i with
  | 0 => false
  | k + 1 => (text[k]?.map fun c => set.has c.toNat).getD false

/-- The character behind a place, if it belongs to a set. -/
def hasBehind (text : Array Char) (set : CharSet) (i : Nat) : Bool :=
  (text[i]?.map fun c => set.has c.toNat).getD false

/-- The line feed. -/
def lineFeed : CharSet := .ofPoints [10]

/-- The carriage return. -/
def carriageReturn : CharSet := .ofPoints [13]

/-- Whether a place of a text is the place asked for. -/
def Place.holds (text : Array Char) (i : Nat) : Place → Bool
  | .textStart => i == 0
  | .textEnd => i == text.size
  | .lineStart => i == 0 || hasBefore text lineFeed i
  | .lineEnd => i == text.size || hasBehind text lineFeed i
  | .lineStartAnyEnding =>
    i == 0 || hasBefore text lineFeed i ||
      (hasBefore text carriageReturn i && !hasBehind text lineFeed i)
  | .lineEndAnyEnding =>
    i == text.size || hasBehind text carriageReturn i ||
      (hasBehind text lineFeed i && !hasBefore text carriageReturn i)
  | .wordBoundary u =>
    hasBefore text (.wordCharacters u) i != hasBehind text (.wordCharacters u) i
  | .noWordBoundary u =>
    hasBefore text (.wordCharacters u) i == hasBehind text (.wordCharacters u) i
  | .wordStart u =>
    !hasBefore text (.wordCharacters u) i && hasBehind text (.wordCharacters u) i
  | .wordEnd u =>
    hasBefore text (.wordCharacters u) i && !hasBehind text (.wordCharacters u) i
  | .wordStartHalf u => !hasBefore text (.wordCharacters u) i
  | .wordEndHalf u => !hasBehind text (.wordCharacters u) i

/-- Takes exactly so many turns; no place is left when one turn leads nowhere. -/
def takeTurns (turn : Places → Places) : Nat → Places → Places
  | 0, s => s
  | n + 1, s => if s = 0 then 0 else takeTurns turn n (turn s)

/-- Takes up to so many turns and keeps all places on the way. Once a turn leads to no new place,
no later one does. -/
def takeUpTo (turn : Places → Places) : Nat → Places → Places
  | 0, s => s
  | n + 1, s =>
    let t := s ||| turn s
    if t = s then s else takeUpTo turn n t

namespace PatternTree

mutual

/-- The places that the matches of a pattern from a set of places end at. As many turns as a text
has characters reach every place that more turns reach. -/
def reach (text : Array Char) : PatternTree → Places → Places
  | .empty, s => s
  | .one set _, s => (s &&& Places.filter text.size (hasBehind text set)) <<< 1
  | .place p, s => s &&& Places.filter text.size fun i => p.holds text i
  | .group _ t, s => t.reach text s
  | .sequence items, s => reachThrough text items s
  | .choice options, s => reachAny text options s
  | .turns least most t, s =>
    let start := takeTurns (t.reach text) least s
    match most with
    | none => takeUpTo (t.reach text) (text.size + 1) start
    | some most => takeUpTo (t.reach text) (most - least) start
termination_by structural t => t

/-- The places that some patterns one after another lead to. -/
def reachThrough (text : Array Char) : List PatternTree → Places → Places
  | [], s => s
  | t :: rest, s => reachThrough text rest (t.reach text s)
termination_by structural items => items

/-- The places that any of some patterns leads to. -/
def reachAny (text : Array Char) : List PatternTree → Places → Places
  | [], _ => 0
  | t :: rest, s => t.reach text s ||| reachAny text rest s
termination_by structural options => options

end

/-- Whether a pattern matches anywhere in a text. -/
def occursIn (t : PatternTree) (s : String) : Bool :=
  let text := s.toList.toArray
  t.reach text (Places.all text.size) != 0

end PatternTree

end Intake
