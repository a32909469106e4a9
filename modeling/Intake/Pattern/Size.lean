import Intake.Pattern.Tree

set_option autoImplicit false

/-!
# Sizes of patterns

A pattern may not take more room than a limit allows. What is counted is the room of a machine that
reads a text byte by byte, in which repetitions are written out: a state takes 32 bytes, a way out
of a state that has several takes 8 if a range of bytes guards it and else 4. Options that begin
alike are counted as if they shared nothing.

## Main definitions

* `CharSet.byteRanges` — the ranges of bytes that the characters of a set are written with.
* `PatternTree.size` — the room that a pattern takes.
* `PatternTree.maxSize` — the limit.
-/

namespace Intake

/-! ### Characters as bytes -/

/-- How many bytes a character takes. -/
def encodedLength (point : Nat) : Nat :=
  if point < 0x80 then 1 else if point < 0x800 then 2 else if point < 0x10000 then 3 else 4

/-- The bytes of a character that takes so many. -/
def bytesOf : Nat → Nat → List Nat
  | 0, _ => []
  | 1, point => [point]
  | 2, point => [0xC0 + point / 64, 0x80 + point % 64]
  | 3, point => [0xE0 + point / 4096, 0x80 + point / 64 % 64, 0x80 + point % 64]
  | _, point =>
    [0xF0 + point / 262144, 0x80 + point / 4096 % 64, 0x80 + point / 64 % 64, 0x80 + point % 64]

/-- An interval without the code points that are no characters and cut where characters begin to
take more bytes. -/
def cutByLength (span : Nat × Nat) : List (Nat × Nat) :=
  [(0, 0x7F), (0x80, 0x7FF), (0x800, 0xD7FF), (0xE000, 0xFFFF), (0x10000, 0x10FFFF)].filterMap
    fun part =>
      let first := max span.1 part.1
      let last := min span.2 part.2
      if first ≤ last then some (first, last) else none

/-- An interval cut so that within each part the last `level` bytes run through all values if any
byte before them changes. -/
def cutByBytes : Nat → Nat × Nat → List (Nat × Nat)
  | 0, span => [span]
  | level + 1, (first, last) =>
    let unit := Nat.pow 64 (level + 1)
    if first / unit = last / unit then cutByBytes level (first, last)
    else
      let start := if first % unit = 0 then first else (first / unit + 1) * unit
      let stop := if last % unit = unit - 1 then last + 1 else last / unit * unit
      (if first < start then cutByBytes level (first, start - 1) else [])
        ++ (if start < stop then [(start, stop - 1)] else [])
        ++ (if stop ≤ last then cutByBytes level (stop, last) else [])

/-- The ranges of bytes, one behind another, that the characters of a set are written with. -/
def CharSet.byteRanges (s : CharSet) : List (List (Nat × Nat)) :=
  (s.spans.toList.flatMap cutByLength).flatMap fun span =>
    let count := encodedLength span.1
    (cutByBytes (count - 1) span).map fun part =>
      (bytesOf count part.1).zip (bytesOf count part.2)

/-- The length of the common beginning of two lists. -/
def sharedLength {α : Type} [BEq α] : List α → List α → Nat
  | a :: as, b :: bs => if a == b then sharedLength as bs + 1 else 0
  | _, _ => 0

/-- How many elements some lists have behind what each shares with the list before it. -/
def unsharedCount {α : Type} [BEq α] : List α → List (List α) → Nat
  | _, [] => 0
  | before, l :: rest => l.length - sharedLength before l + unsharedCount l rest

/-- The room that one character of a set takes. -/
def CharSet.size (s : CharSet) : Nat :=
  match s.spans.toList with
  | [(first, last)] => if first = last then 32 * encodedLength first else spread
  | _ => spread
where
  /-- The room of a set with several characters. -/
  spread : Nat :=
    let ranges := s.byteRanges
    if ranges.all fun r => r.length == 1 && r.all fun b => decide (b.2 < 0x80) then
      64 + (if ranges.length = 1 then 0 else 8 * ranges.length)
    else 64 + 4 * ranges.length + 32 * unsharedCount [] ranges

namespace PatternTree

/-! ### Patterns -/

/-- A set if a pattern is one character of it. -/
def set? : PatternTree → Option CharSet
  | .one set _ => some set
  | _ => none

mutual

/-- Whether a pattern matches the empty text only, given that it matches at all. -/
def isEmptyOnly : PatternTree → Bool
  | .empty => true
  | .one _ _ => false
  | .place _ => true
  | .group _ t => t.isEmptyOnly
  | .sequence items => allEmptyOnly items
  | .choice options => allEmptyOnly options
  | .turns _ most t => most == some 0 || t.isEmptyOnly
termination_by structural t => t

/-- Whether all of some patterns match the empty text only. -/
def allEmptyOnly : List PatternTree → Bool
  | [] => true
  | t :: rest => t.isEmptyOnly && allEmptyOnly rest
termination_by structural items => items

end

mutual

/-- Whether nothing of a pattern is left in a sequence: it is empty or of no turns. -/
def vanishes : PatternTree → Bool
  | .empty => true
  | .group captures t => !captures && t.vanishes
  | .sequence items => allVanish items
  | .turns least most t => most == some 0 || (decide (1 ≤ least) && t.vanishes)
  | .one _ _ | .place _ | .choice _ => false
termination_by structural t => t

/-- Whether nothing is left of some patterns one behind another. -/
def allVanish : List PatternTree → Bool
  | [] => true
  | t :: rest => t.vanishes && allVanish rest
termination_by structural items => items

end

mutual

/-- The number of characters of the shortest text that a pattern matches, unless some part of the
pattern matches no text. -/
def shortest? : PatternTree → Option Nat
  | .empty => some 0
  | .one set _ => if set.spans.isEmpty then none else some 1
  | .place _ => some 0
  | .group _ t => t.shortest?
  | .sequence items => shortestOfItems? items
  | .choice options =>
    match options.mapM set? with
    | some sets => if (CharSet.unions sets).spans.isEmpty then none else some 1
    | none => shortestOfOptions? options
  | .turns least most t => if most = some 0 then some 0 else t.shortest?.map (least * ·)
termination_by structural t => t

/-- The length of the shortest text of some patterns one behind another. -/
def shortestOfItems? : List PatternTree → Option Nat
  | [] => some 0
  | t :: rest => do return (← t.shortest?) + (← shortestOfItems? rest)
termination_by structural items => items

/-- The length of the shortest text of one of some patterns. -/
def shortestOfOptions? : List PatternTree → Option Nat
  | [] => none
  | [t] => t.shortest?
  | t :: rest => do return min (← t.shortest?) (← shortestOfOptions? rest)
termination_by structural options => options

end

/-- The room of a repetition, given the room of a turn and whether every turn takes a character.
Turns that are certain stand one behind another. -/
def sizeOfTurns (takesCharacter : Bool) (least : Nat) (most : Option Nat) (turn : Nat) : Nat :=
  match least, most with
  | 0, some 0 => 32
  | 0, some 1 => turn + 72
  | 0, none => turn + if takesCharacter then 40 else 112
  | least, none => least * turn + 40
  | least, some most =>
    if least = most then least * turn
    else max (least * turn) 32 + 32 + (most - least) * (turn + 40)

mutual

/-- The room that a pattern takes. Turns that match nothing are taken once at most. -/
def size : PatternTree → Nat
  | .empty => 32
  | .one set _ => set.size
  | .place _ => 32
  | .group captures t => t.size + (if captures then 64 else 0)
  | .sequence items => if allVanish items then 32 else sizeOfItems items
  | .choice options =>
    match options.mapM set? with
    | some sets => (CharSet.unions sets).size
    | none => sizeOfOptions options + 64
  | .turns least most t =>
    if t.isEmptyOnly then sizeOfTurns false (min least 1) (some (min (most.getD 1) 1)) t.size
    else sizeOfTurns (t.shortest?.any (0 < ·)) least most t.size
termination_by structural t => t

/-- The room that some patterns one behind another take, apart from those that vanish. -/
def sizeOfItems : List PatternTree → Nat
  | [] => 0
  | t :: rest => (if t.vanishes then 0 else t.size) + sizeOfItems rest
termination_by structural items => items

/-- The room that some patterns beside one another take. -/
def sizeOfOptions : List PatternTree → Nat
  | [] => 0
  | t :: rest => t.size + 4 + sizeOfOptions rest
termination_by structural options => options

end

/-- The room that a pattern may take: ten mebibytes, of which the machine around it needs some. -/
def maxSize : Nat := 10 * 1024 * 1024 - 200

end PatternTree

end Intake
