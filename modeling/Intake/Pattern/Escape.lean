import Intake.Json.Reader
import Intake.Pattern.Flags
import Intake.Unicode.Named

set_option autoImplicit false

/-!
# Escapes in patterns

A backslash makes a literal of a sign, or a sign of a letter: a character by its number, a class of
characters, or a place.

## Main definitions

* `Escape` — what an escape means.
* `PatternReader.readEscape` — an escape, behind its backslash.
-/

namespace Intake

namespace PatternReader

/-- What an escape means. -/
inductive Escape where
  | literal (point : Nat)
  | class (set : CharSet)
  | place (p : Place)

/-- A code point that is a character. -/
def validPoint? (n : Nat) : Option Nat :=
  if n < 0xD800 ∨ (0xE000 ≤ n ∧ n ≤ 0x10FFFF) then some n else none

/-- The value of hexadecimal digits. -/
def hexPoint? (cs : List Char) : Option Nat :=
  if cs.isEmpty then none
  else (cs.foldl (fun n? c => n?.bind fun n => (Json.hexValue? c).map (16 * n + ·)) (some 0)).bind
    validPoint?

/-- Takes so many characters of a text, blanks before them passed over. -/
def takeCounted (f : PatternFlags) : Nat → List Char → Option (List Char × List Char)
  | 0, cs => some ([], cs)
  | n + 1, cs =>
    match f.skip cs with
    | [] => none
    | c :: rest => (takeCounted f n rest).map fun p => (c :: p.1, p.2)

/-- Takes the characters of a text up to a closing brace, blanks passed over. -/
def takeBraced (f : PatternFlags) : Nat → List Char → Option (List Char × List Char)
  | 0, _ => none
  | fuel + 1, cs =>
    match f.skip cs with
    | [] => none
    | c :: rest =>
      if c = '\x7d' then some ([], rest)
      else (takeBraced f fuel rest).map fun p => (c :: p.1, p.2)

/-- A code point in hexadecimal, in so many digits or in braces. -/
def readHex (f : PatternFlags) (count : Nat) (cs : List Char) : Option (Nat × List Char) :=
  match f.skip cs with
  | [] => none
  | c :: rest =>
    let taken :=
      if c = '\x7b' then takeBraced f (rest.length + 1) rest else takeCounted f count (c :: rest)
    match taken with
    | none => none
    | some (digits, rest) => (hexPoint? digits).map fun n => (n, rest)

/-- The part of a text before the first sign of inequality. -/
def beforeUnequal : List Char → List Char
  | '!' :: '=' :: _ => []
  | c :: cs => c :: beforeUnequal cs
  | [] => []

/-- A property name with a relation to its value, split at the first relation of each kind: whether
it is denied, the name and the value. -/
def splitProperty (cs : List Char) : Bool × List Char × Option (List Char) :=
  let unequal := beforeUnequal cs
  let colon := cs.takeWhile (· != ':')
  let equal := cs.takeWhile (· != '=')
  if unequal.length < cs.length then (true, unequal, some (cs.drop (unequal.length + 2)))
  else if colon.length < cs.length then (false, colon, some (cs.drop (colon.length + 1)))
  else if equal.length < cs.length then (false, equal, some (cs.drop (equal.length + 1)))
  else (false, cs, none)

/-- The set that a property means, given the text between its braces: whether it is denied, and the
set. -/
def propertySet? (cs : List Char) : Option (Bool × CharSet) :=
  match splitProperty cs with
  | (denied, property, some value) =>
    (CharSet.valued? property value).map fun set => (denied, set)
  | (_, property, none) => (CharSet.named? property).map fun set => (false, set)

/-- A class of a property, behind its letter. -/
def readProperty (f : PatternFlags) (negated : Bool) (cs : List Char) :
    Option (Escape × List Char) :=
  let taken : Option (List Char × List Char) := match f.skip cs with
    | [] => none
    | c :: rest =>
      if c = '\x7b' then takeBraced f (rest.length + 1) rest else some ([c], rest)
  match taken with
  | none => none
  | some (name, rest) =>
    match propertySet? name with
    | none => none
    | some (denied, set) =>
      if !f.unicode then none
      else (f.class? (negated != denied) set).map fun set => (.class set, rest)

/-- A word boundary of a kind in braces, behind the opening brace; nothing if the brace opens the
count of a repetition. -/
def readBoundary (f : PatternFlags) (cs : List Char) : Option (Option (Place × List Char)) :=
  let nameChar (c : Char) : Bool := c.isAlpha || c == '-'
  match f.skip cs with
  | [] => none
  | c :: _ =>
    if !nameChar c then some none
    else
      match takeBraced f (cs.length + 1) cs with
      | none => none
      | some (name, rest) =>
        match String.ofList name with
        | "start" => some (some (.wordStart f.unicode, rest))
        | "end" => some (some (.wordEnd f.unicode, rest))
        | "start-half" => some (some (.wordStartHalf f.unicode, rest))
        | "end-half" => some (some (.wordEndHalf f.unicode, rest))
        | _ => none

/-- An escape, behind its backslash. -/
def readEscape (f : PatternFlags) : List Char → Option (Escape × List Char)
  | [] => none
  | c :: cs =>
    let ofClass (negated : Bool) (set : CharSet) : Option (Escape × List Char) :=
      (f.denied? negated set).map fun set => (.class set, cs)
    let ofPoint (n : Nat) : Option (Escape × List Char) := some (.literal n, cs)
    let ofPlace (p : Place) : Option (Escape × List Char) := some (.place p, cs)
    let braced : Bool := (f.skip cs).head? == some '\x7b'
    match c with
    | 'x' =>
      match readHex f 2 cs with
      | none => none
      | some (n, rest) =>
        if !f.unicode && !braced && decide (128 ≤ n) then none
        else some (.literal n, rest)
    | 'u' => (readHex f 4 cs).map fun p => (.literal p.1, p.2)
    | 'U' => (readHex f 8 cs).map fun p => (.literal p.1, p.2)
    | 'p' => readProperty f false cs
    | 'P' => readProperty f true cs
    | 'd' => ofClass false (.digits f.unicode)
    | 'D' => ofClass true (.digits f.unicode)
    | 's' => ofClass false (.blanks f.unicode)
    | 'S' => ofClass true (.blanks f.unicode)
    | 'w' => ofClass false (.wordCharacters f.unicode)
    | 'W' => ofClass true (.wordCharacters f.unicode)
    | 'a' => ofPoint 7
    | 'f' => ofPoint 12
    | 't' => ofPoint 9
    | 'n' => ofPoint 10
    | 'r' => ofPoint 13
    | 'v' => ofPoint 11
    | 'A' => ofPlace .textStart
    | 'z' => ofPlace .textEnd
    | 'B' => ofPlace (.noWordBoundary f.unicode)
    | '<' => ofPlace (.wordStart f.unicode)
    | '>' => ofPlace (.wordEnd f.unicode)
    | 'b' =>
      match cs with
      | '\x7b' :: rest =>
        match readBoundary f rest with
        | none => none
        | some (some (p, rest)) => some (.place p, rest)
        | some none => ofPlace (.wordBoundary f.unicode)
      | _ => ofPlace (.wordBoundary f.unicode)
    | c => if c.toNat < 128 ∧ ¬c.isAlphanum then ofPoint c.toNat else none

end PatternReader

end Intake
