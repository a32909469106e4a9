set_option autoImplicit false

/-!
# Sets of characters

A set of characters is a list of intervals of code points in ascending order. Sets are joined by
sorting their intervals, and the complement consists of the gaps between them; all other operations
come from these two.

## Main definitions

* `CharSet`, `CharSet.has` — the sets and membership, by bisection.
* `CharSet.union`, `CharSet.complement`, `CharSet.inter`, `CharSet.diff` — the set algebra.
* `CharSet.ofHex` — the set that a table in hexadecimal writes.
-/

namespace Intake

/-- A set of characters: intervals of code points in ascending order, each with its first and its
last point. -/
structure CharSet where
  spans : Array (Nat × Nat)
  deriving DecidableEq, Repr, Inhabited

namespace CharSet

/-- The last code point. -/
def lastPoint : Nat := 0x10FFFF

/-! ### Membership -/

/-- The index of the interval that holds a point, among those from `low` up to `high`. -/
def search (spans : Array (Nat × Nat)) (point : Nat) : Nat → Nat → Nat → Option Nat
  | 0, _, _ => none
  | fuel + 1, low, high =>
    if high ≤ low then none
    else
      let mid := (low + high) / 2
      match spans[mid]? with
      | none => none
      | some (first, last) =>
        if point < first then search spans point fuel low mid
        else if last < point then search spans point fuel (mid + 1) high
        else some mid

/-- The index of the interval that holds a point. Each step halves the intervals in question. -/
def index? (s : CharSet) (point : Nat) : Option Nat :=
  search s.spans point (Nat.log2 s.spans.size + 1) 0 s.spans.size

/-- Whether a set has a code point. -/
def has (s : CharSet) (point : Nat) : Bool := (s.index? point).isSome

/-! ### Building sets -/

/-- Joins intervals that meet or touch. They are given in ascending order, and the first of them
apart. -/
def joinFrom (first last : Nat) : List (Nat × Nat) → List (Nat × Nat)
  | [] => [(first, last)]
  | (a, b) :: rest =>
    if a ≤ last + 1 then joinFrom first (max last b) rest
    else (first, last) :: joinFrom a b rest

/-- The set of the points of some intervals. -/
def ofSpans (spans : List (Nat × Nat)) : CharSet :=
  match (spans.filter fun s => decide (s.1 ≤ s.2)).mergeSort fun s t => decide (s.1 ≤ t.1) with
  | [] => ⟨#[]⟩
  | (a, b) :: rest => ⟨(joinFrom a b rest).toArray⟩

/-- The set without characters. -/
def empty : CharSet := ⟨#[]⟩

/-- The set of all characters. -/
def all : CharSet := ⟨#[(0, lastPoint)]⟩

/-- The points from one to another, both included. -/
def range (first last : Nat) : CharSet := ofSpans [(first, last)]

/-- The set of some points. -/
def ofPoints (points : List Nat) : CharSet := ofSpans (points.map fun n => (n, n))

/-! ### Set algebra -/

/-- The characters of any of some sets. -/
def unions (sets : List CharSet) : CharSet := ofSpans (sets.flatMap fun s => s.spans.toList)

/-- The characters of either set. -/
def union (a b : CharSet) : CharSet := unions [a, b]

/-- The gaps between intervals, from a point on. -/
def gapsFrom (start : Nat) : List (Nat × Nat) → List (Nat × Nat)
  | [] => if start ≤ lastPoint then [(start, lastPoint)] else []
  | (a, b) :: rest =>
    if start < a then (start, a - 1) :: gapsFrom (b + 1) rest else gapsFrom (b + 1) rest

/-- The characters that a set lacks. -/
def complement (s : CharSet) : CharSet := ⟨(gapsFrom 0 s.spans.toList).toArray⟩

/-- The characters of both sets. -/
def inter (a b : CharSet) : CharSet := (a.complement.union b.complement).complement

/-- The characters of the first set that the second lacks. -/
def diff (a b : CharSet) : CharSet := (a.complement.union b).complement

/-- The characters of exactly one of two sets. -/
def symmDiff (a b : CharSet) : CharSet := (a.diff b).union (b.diff a)

/-! ### Tables -/

/-- The number that hexadecimal digits write. -/
def hexNumber (digits : List Char) : Nat :=
  digits.foldl (fun n c => 16 * n + if c.isDigit then c.toNat - 48 else c.toNat - 55) 0

/-- The interval that an entry of a table writes: a point, or two points around a hyphen. -/
def spanOfHex (entry : List Char) : Nat × Nat :=
  let first := hexNumber (entry.takeWhile (· != '-'))
  match entry.dropWhile (· != '-') with
  | [] => (first, first)
  | _ :: digits => (first, hexNumber digits)

/-- The set that the lines of a table write, entries between blanks. -/
def ofHex (lines : List String) : CharSet :=
  ofSpans ((lines.flatMap fun line => line.splitOn " ").map fun entry => spanOfHex entry.toList)

end CharSet

/-- Labels of characters: each interval of `domain` has a label for all its characters. -/
structure CharTable where
  domain : CharSet
  labels : Array String
  deriving Inhabited

namespace CharTable

/-- The table that some lines write: entries between commas, each an interval and a label. -/
def ofLines (lines : List String) : CharTable :=
  let entries := (lines.flatMap fun line => line.splitOn ", ").map fun entry =>
    let span := entry.toList.takeWhile (· != ' ')
    (CharSet.spanOfHex span, String.ofList (entry.toList.drop (span.length + 1)))
  ⟨⟨(entries.map (·.1)).toArray⟩, (entries.map (·.2)).toArray⟩

/-- The label of a character. -/
def label? (t : CharTable) (point : Nat) : Option String :=
  (t.domain.index? point).bind fun i => t.labels[i]?

/-- The entries of a table. -/
def entries (t : CharTable) : List ((Nat × Nat) × String) :=
  t.domain.spans.toList.zip t.labels.toList

/-- The characters whose label satisfies a condition. -/
def charSet (t : CharTable) (holds : String → Bool) : CharSet :=
  .ofSpans ((t.entries.filter fun e => holds e.2).map (·.1))

end CharTable

end Intake
