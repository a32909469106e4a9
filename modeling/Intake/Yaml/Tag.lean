import Intake.Yaml.Scalar.Quoted

set_option autoImplicit false

/-!
# Tags and directives

A tag names the type of a node: in full between angle brackets, or as a handle and a suffix, where a
directive may say which prefix a handle stands for. Directives stand before a document.

## Main definitions

* `Yaml.TagName`, `Yaml.takeTag` — a tag as it is written.
* `Yaml.Directive`, `Yaml.takeDirective` — the directives.
* `Yaml.TagName.resolve?` — the name that a tag stands for.
-/

namespace Intake

namespace Yaml

/-- A tag as it is written: a handle, which is empty if the tag is written in full, and a suffix. -/
structure TagName where
  handle : String
  suffix : String
  deriving DecidableEq, Repr

/-- What a document says about itself before it begins. -/
inductive Directive where
  | version (major minor : Nat)
  | tagPrefix (handle : String) (text : String)
  deriving DecidableEq, Repr

/-- Whether a character may stand in a tag. The marks of collections may do so only where the end of
the tag is marked. -/
def isTagChar (enclosed : Bool) (c : Char) : Bool :=
  isNameChar c || [';', '/', '?', ':', '@', '&', '=', '+', '$', '.', '%', '!', '~', '*', '\'', '(',
    ')'].contains c || (enclosed && (c == ',' || c == '[' || c == ']'))

/-- How many bytes a character takes that begins with a byte; zero if none does. -/
def sequenceLength (lead : Nat) : Nat :=
  if lead < 0x80 then 1
  else if 0xC0 ≤ lead ∧ lead < 0xE0 then 2
  else if 0xE0 ≤ lead ∧ lead < 0xF0 then 3
  else if 0xF0 ≤ lead ∧ lead < 0xF8 then 4
  else 0

/-- Bytes that are written as escapes, of which so many are left to read in the current character,
and whose next character begins a character if none is left. -/
def escapesFit : Nat → List Char → Bool
  | left, '%' :: a :: b :: rest =>
    match hexNumber? [a, b] with
    | none => false
    | some byte =>
      match left with
      | 0 => sequenceLength byte != 0 && escapesFit (sequenceLength byte - 1) rest
      | left + 1 => (byte / 64 == 2) && escapesFit left rest
  | 0, c :: rest => c != '%' && escapesFit 0 rest
  | left, rest => left == 0 && rest.isEmpty

/-- The bytes of a tag, its escaped bytes among them. -/
def tagBytes : List Char → List UInt8
  | '%' :: a :: b :: rest => UInt8.ofNat ((hexNumber? [a, b]).getD 0) :: tagBytes rest
  | c :: rest => UInt8.ofNat c.toNat :: tagBytes rest
  | [] => []

/-- The text of a tag, its escapes decoded; a tag whose bytes are no text keeps its escapes. -/
def decodeTag (cs : List Char) : String :=
  (String.fromUTF8? ⟨(tagBytes cs).toArray⟩).getD (String.ofList cs)

/-- The characters of a tag at a place, behind a head that has been read, and the place behind them.
There must be a character, in the head or behind it. -/
def takeTagText (enclosed : Bool) (head : List Char) (c : Cursor) : Option (String × Cursor) :=
  let (text, behind) := c.takeWhile (isTagChar enclosed)
  if (head.isEmpty && text.isEmpty) || !escapesFit 0 text then none
  else some (decodeTag (head.drop 1 ++ text), behind)

/-- The handle at a place: an exclamation mark, a name, and perhaps another exclamation mark. -/
def takeHandle (c : Cursor) : Option (List Char × Cursor) :=
  if !c.sees '!' then none
  else
    let (name, behind) := (c.skip 1).takeWhile isNameChar
    if behind.sees '!' then some ('!' :: (name ++ ['!']), behind.skip 1)
    else some ('!' :: name, behind)

/-- Whether a handle is one, and not the beginning of a suffix. -/
def isHandle (handle : List Char) : Bool :=
  decide (1 < handle.length) && handle.getLast? == some '!'

/-- The tag at a place, and the place behind it. A blank must follow, or a comma in flow style. -/
def takeTag (flow : Bool) (c : Cursor) : Option (TagName × Cursor) :=
  let read : Option (TagName × Cursor) :=
    if c.peek? 1 == some '<' then
      match takeTagText true [] (c.skip 2) with
      | some (suffix, c) => if c.sees '>' then some (⟨"", suffix⟩, c.skip 1) else none
      | none => none
    else
      match takeHandle c with
      | none => none
      | some (handle, c) =>
        if isHandle handle then
          (takeTagText false [] c).map fun p => (⟨String.ofList handle, p.1⟩, p.2)
        else
          (takeTagText false handle c).map fun p =>
            (if p.1.isEmpty then ⟨"", "!"⟩ else ⟨"!", p.1⟩, p.2)
  match read with
  | none => none
  | some (tag, c) =>
    if endsWord (c.peek? 0) || (flow && c.sees ',') then some (tag, c) else none

/-! ### Directives -/

/-- The number at a place, of at most nine digits. -/
def takeNumber (c : Cursor) : Option (Nat × Cursor) :=
  let (digits, behind) := c.takeWhile Char.isDigit
  if digits.isEmpty ∨ 9 < digits.length then none
  else some (digits.foldl (fun n d => 10 * n + (d.toNat - 48)) 0, behind)

/-- The numbers of a version at a place. -/
def takeVersion (c : Cursor) : Option (Directive × Cursor) :=
  match takeNumber (c.skipWhile isGap) with
  | none => none
  | some (major, c) =>
    if !c.sees '.' then none
    else (takeNumber (c.skip 1)).map fun p => (.version major p.1, p.2)

/-- A handle and its prefix at a place. -/
def takePrefix (c : Cursor) : Option (Directive × Cursor) :=
  match takeHandle (c.skipWhile isGap) with
  | none => none
  | some (handle, c) =>
    if (handle ≠ ['!'] ∧ ¬isHandle handle) ∨ ¬(c.peek? 0).any isGap then none
    else
      match takeTagText true [] (c.skipWhile isGap) with
      | none => none
      | some (text, c) =>
        if endsWord (c.peek? 0) then some (.tagPrefix (String.ofList handle) text, c) else none

/-- The directive whose mark stands at a place, and the place behind its line. -/
def takeDirective (c : Cursor) : Option (Directive × Cursor) :=
  let (name, c) := (c.skip 1).takeWhile isNameChar
  if !endsWord (c.peek? 0) then none
  else
    let read : Option (Directive × Cursor) :=
      if name = "YAML".toList then takeVersion c
      else if name = "TAG".toList then takePrefix c
      else none
    match read with
    | none => none
    | some (directive, c) => c.skipLineEnd?.map fun c => (directive, c)

/-! ### Meaning -/

/-- The handles that stand for a prefix, each with it. -/
abbrev Prefixes := List (String × String)

/-- The prefixes of handles that no directive is about. -/
def defaultPrefixes : Prefixes := [("!", "!"), ("!!", "tag:yaml.org,2002:")]

/-- The prefixes that the directives of a document set. The version may be given once and must be
one of those known, and no handle may be given a prefix twice. -/
def prefixes? (directives : List Directive) : Option Prefixes :=
  let versions := directives.filterMap fun d => match d with
    | .version major minor => some (major, minor)
    | .tagPrefix _ _ => none
  let given := directives.filterMap fun d => match d with
    | .version _ _ => none
    | .tagPrefix handle text => some (handle, text)
  if 1 < versions.length ∨ ¬versions.all (fun v => v == (1, 1) || v == (1, 2)) ∨
      ¬(given.map (·.1)).Nodup then none
  else some (given ++ defaultPrefixes)

/-- The name that a tag stands for; nothing if its handle stands for no prefix. -/
def TagName.resolve? (tag : TagName) (prefixes : Prefixes) : Option String :=
  if tag.handle.isEmpty then some tag.suffix
  else (prefixes.find? fun p => p.1 == tag.handle).map fun p => p.2 ++ tag.suffix

end Yaml

end Intake
