import Intake.Document
import Intake.Proofs.Json.Documents
import Intake.Proofs.Value.Loading
import Intake.Proofs.Value.Parts

set_option autoImplicit false

/-!
# Values in JSON texts

A value that is written as a JSON text and read again keeps its integers, its strings, the order of
its items and the order of its keys. Bytes come back as lists of integers, and numbers that JSON has
no numerals for come back as null.

## Main definitions

* `Value.throughJson` — what JSON keeps of a value.
* `Value.FloatsIn`, `Value.FloatFree` — values whose floats are restricted.
* `Value.Portable` — values that JSON has a form for.

## Main results

* `Value.throughJson_eq_self_iff` — JSON keeps the values that it has a form for.
* `Value.ofJson_toJson` — what JSON keeps, as documents.
* `Value.readJson?_compact`, `Value.readJson?_pretty` — what JSON keeps, as texts of both printers.
* `Value.parse_compact_of_floatFree` — without floats, only bytes change.
-/

namespace Intake

namespace Value

/-! ### What JSON keeps -/

mutual

/-- What JSON keeps of a value: bytes become lists of integers, and infinities and NaN become
null. -/
def throughJson : Value → Value
  | .float x => if x.isFinite then .float x else .null
  | .bytes data => .list (data.map fun b => .int (Int64.ofInt b.toNat))
  | .list items => .list (itemsThroughJson items)
  | .map entries => .map (entriesThroughJson entries)
  | other => other
termination_by structural v => v

/-- What JSON keeps of every item. -/
def itemsThroughJson : List Value → List Value
  | [] => []
  | v :: rest => v.throughJson :: itemsThroughJson rest
termination_by structural items => items

/-- What JSON keeps of the value of every entry. -/
def entriesThroughJson : List (String × Value) → List (String × Value)
  | [] => []
  | (k, v) :: rest => (k, v.throughJson) :: entriesThroughJson rest
termination_by structural entries => entries

end

mutual

/-- Every float inside a value is one of some floats. -/
def FloatsIn (floats : Binary64 → Prop) : Value → Prop
  | .float x => floats x
  | .list items => ItemFloatsIn floats items
  | .map entries => EntryFloatsIn floats entries
  | _ => True
termination_by structural v => v

/-- Every float inside the items is one of some floats. -/
def ItemFloatsIn (floats : Binary64 → Prop) : List Value → Prop
  | [] => True
  | v :: rest => v.FloatsIn floats ∧ ItemFloatsIn floats rest
termination_by structural items => items

/-- Every float inside the values of entries is one of some floats. -/
def EntryFloatsIn (floats : Binary64 → Prop) : List (String × Value) → Prop
  | [] => True
  | (_, v) :: rest => v.FloatsIn floats ∧ EntryFloatsIn floats rest
termination_by structural entries => entries

end

/-- There is no float inside a value. -/
def FloatFree (v : Value) : Prop := v.FloatsIn fun _ => False

mutual

/-- JSON has a form for a value: no bytes lie inside it, and the floats inside it are finite. -/
def Portable : Value → Prop
  | .float x => x.isFinite = true
  | .bytes _ => False
  | .list items => ItemsPortable items
  | .map entries => EntriesPortable entries
  | _ => True
termination_by structural v => v

/-- JSON has a form for every item. -/
def ItemsPortable : List Value → Prop
  | [] => True
  | v :: rest => v.Portable ∧ ItemsPortable rest
termination_by structural items => items

/-- JSON has a form for the value of every entry. -/
def EntriesPortable : List (String × Value) → Prop
  | [] => True
  | (_, v) :: rest => v.Portable ∧ EntriesPortable rest
termination_by structural entries => entries

end

/-- JSON keeps the keys of a map and their order. -/
lemma keys_entriesThroughJson (entries : Dict Value) :
    Dict.keys (entriesThroughJson entries) = entries.keys := by
  induction entries with
  | nil => rfl
  | cons e rest ih => exact congrArg (e.1 :: ·) ih

/-- JSON keeps a list item by item. -/
lemma itemsThroughJson_eq_map (items : List Value) :
    itemsThroughJson items = items.map throughJson := by
  induction items with
  | nil => rfl
  | cons v rest ih => exact congrArg (v.throughJson :: ·) ih

/-- JSON keeps a map entry by entry. -/
lemma entriesThroughJson_eq_map (entries : List (String × Value)) :
    entriesThroughJson entries = entries.map fun e => (e.1, e.2.throughJson) := by
  induction entries with
  | nil => rfl
  | cons e rest ih => exact congrArg ((e.1, e.2.throughJson) :: ·) ih

mutual

/-- **JSON keeps the values that it has a form for, and no others.** -/
theorem throughJson_eq_self_iff : ∀ v : Value, v.throughJson = v ↔ v.Portable
  | .null => iff_of_true rfl trivial
  | .bool _ => iff_of_true rfl trivial
  | .int _ => iff_of_true rfl trivial
  | .float x => by
    rw [throughJson, Portable]
    split_ifs with hfinite
    · exact iff_of_true rfl hfinite
    · exact iff_of_false nofun hfinite
  | .string _ => iff_of_true rfl trivial
  | .bytes _ => iff_of_false nofun id
  | .list items => by
    rw [throughJson, list.injEq, itemsThroughJson_eq_self_iff items, Portable]
  | .map entries => by
    rw [throughJson, map.injEq, entriesThroughJson_eq_self_iff entries, Portable]
termination_by structural v => v

/-- JSON keeps items that it has a form for. -/
theorem itemsThroughJson_eq_self_iff : ∀ items : List Value,
    itemsThroughJson items = items ↔ ItemsPortable items
  | [] => iff_of_true rfl trivial
  | v :: rest => by
    rw [itemsThroughJson, List.cons.injEq, throughJson_eq_self_iff v,
      itemsThroughJson_eq_self_iff rest, ItemsPortable]
termination_by structural items => items

/-- JSON keeps entries whose values it has a form for. -/
theorem entriesThroughJson_eq_self_iff : ∀ entries : List (String × Value),
    entriesThroughJson entries = entries ↔ EntriesPortable entries
  | [] => iff_of_true rfl trivial
  | (k, v) :: rest => by
    rw [entriesThroughJson, List.cons.injEq, Prod.mk.injEq, eq_self_iff_true, true_and,
      throughJson_eq_self_iff v, entriesThroughJson_eq_self_iff rest, EntriesPortable]
termination_by structural entries => entries

end

/-! ### Documents -/

/-- A natural of less than 64 bits is the integer that it was. -/
lemma ofUnsigned_ofNat {n : Nat} (hn : n < Nat.pow 2 63) :
    ofUnsigned (UInt64.ofNat n) = .int (Int64.ofInt n) := by
  have hnat : (UInt64.ofNat n).toNat = n :=
    UInt64.toNat_ofNat_of_lt' (Nat.lt_trans hn (by decide))
  rw [ofUnsigned, hnat, if_pos hn]

/-- An integer of 64 bits comes back, whether it is read with a sign or without. -/
lemma ofJson_jsonOfInt (n : Int64) : ofJson (jsonOfInt n) = .int n := by
  rw [jsonOfInt]
  split_ifs with hn
  · rfl
  · have hlt : n.toInt < Nat.pow 2 63 := n.toInt_lt
    have hnat : n.toInt.toNat < Nat.pow 2 63 := by omega
    have hint : (n.toInt.toNat : Int) = n.toInt := Int.toNat_of_nonneg (by omega)
    rw [ofJson, ofUnsigned_ofNat hnat, hint, Int64.ofInt_toInt]

/-- Bytes come back as integers. -/
lemma ofJsonItems_bytes (data : List UInt8) :
    ofJsonItems (data.map fun b => .unsigned (UInt64.ofNat b.toNat)) =
      data.map fun b => .int (Int64.ofInt b.toNat) := by
  induction data with
  | nil => rfl
  | cons b rest ih =>
    have hb : b.toNat < Nat.pow 2 63 := Nat.lt_trans b.toNat_lt (by decide)
    rw [List.map_cons, ofJsonItems, ofJson, ofUnsigned_ofNat hb, ih, List.map_cons]

mutual

/-- **A value comes back from its document as what JSON keeps of it.** -/
theorem ofJson_toJson : ∀ v : Value, v.WellFormed → ofJson v.toJson = v.throughJson
  | .null, _ => rfl
  | .bool _, _ => rfl
  | .int n, _ => ofJson_jsonOfInt n
  | .float x, _ => by
    rw [toJson, throughJson]
    split_ifs <;> rfl
  | .string _, _ => rfl
  | .bytes data, _ => congrArg Value.list (ofJsonItems_bytes data)
  | .list items, h => congrArg Value.list (ofJsonItems_toJsonItems items h)
  | .map entries, h => by
    obtain ⟨hdistinct, hentries⟩ : Dict.Distinct entries ∧ EntriesWellFormed entries := h
    have hkeys := keys_entriesThroughJson entries
    have hthrough : Dict.Distinct (entriesThroughJson entries) := by
      rw [Dict.Distinct, hkeys]
      exact hdistinct
    rw [toJson, ofJson, ofJsonMembers_toJsonMembers entries hentries, hthrough.ofEntries_eq,
      throughJson]
termination_by structural v => v

/-- Items come back from their documents. -/
theorem ofJsonItems_toJsonItems : ∀ items : List Value, AllWellFormed items →
    ofJsonItems (toJsonItems items) = itemsThroughJson items
  | [], _ => rfl
  | v :: rest, h => by
    rw [toJsonItems, ofJsonItems, ofJson_toJson v h.1, ofJsonItems_toJsonItems rest h.2,
      itemsThroughJson]
termination_by structural items => items

/-- Entries come back from their members. -/
theorem ofJsonMembers_toJsonMembers : ∀ entries : List (String × Value),
    EntriesWellFormed entries → ofJsonMembers (toJsonMembers entries) = entriesThroughJson entries
  | [], _ => rfl
  | (k, v) :: rest, h => by
    rw [toJsonMembers, ofJsonMembers, ofJson_toJson v h.1, ofJsonMembers_toJsonMembers rest h.2,
      entriesThroughJson]
termination_by structural entries => entries

end

mutual

/-- A value that is read from a document repeats no key. -/
theorem wellFormed_ofJson : ∀ j : Json, (ofJson j).WellFormed
  | .null => trivial
  | .bool _ => trivial
  | .unsigned n => by
    rw [ofJson, ofUnsigned]
    split_ifs <;> trivial
  | .signed _ => trivial
  | .float _ => trivial
  | .string _ => trivial
  | .array items => wellFormed_list_iff.mpr (wellFormed_of_mem_ofJsonItems items)
  | .object members => wellFormed_map_iff.mpr ⟨Dict.distinct_ofEntries _,
      fun e he => wellFormed_of_mem_ofJsonMembers members e (Dict.mem_ofEntries he)⟩
termination_by structural j => j

/-- Items that are read from a document repeat no key. -/
theorem wellFormed_of_mem_ofJsonItems :
    ∀ items : List Json, ∀ v ∈ ofJsonItems items, v.WellFormed
  | [] => List.forall_mem_nil _
  | j :: rest =>
    List.forall_mem_cons.mpr ⟨wellFormed_ofJson j, wellFormed_of_mem_ofJsonItems rest⟩
termination_by structural items => items

/-- Values of members that are read from a document repeat no key. -/
theorem wellFormed_of_mem_ofJsonMembers :
    ∀ members : List (String × Json), ∀ e ∈ ofJsonMembers members, e.2.WellFormed
  | [] => List.forall_mem_nil _
  | (_, j) :: rest =>
    List.forall_mem_cons.mpr ⟨wellFormed_ofJson j, wellFormed_of_mem_ofJsonMembers rest⟩
termination_by structural members => members

end

/-- What JSON keeps of a value repeats no key. -/
lemma wellFormed_throughJson {v : Value} (hv : v.WellFormed) : v.throughJson.WellFormed :=
  ofJson_toJson v hv ▸ wellFormed_ofJson v.toJson

/-! ### Texts -/

section Texts

variable {floats : Binary64 → Prop}

/-- Bytes are legible. -/
lemma legibleItems_bytes (data : List UInt8) :
    Json.LegibleItems floats (data.map fun b => .unsigned (UInt64.ofNat b.toNat)) := by
  induction data with
  | nil => trivial
  | cons b rest ih => exact ⟨trivial, ih⟩

mutual

/-- The document of a value is legible if its floats are. -/
theorem legible_toJson : ∀ v : Value, v.FloatsIn floats → v.toJson.Legible floats
  | .null, _ => trivial
  | .bool _, _ => trivial
  | .int n, _ => by
    rw [toJson, jsonOfInt]
    split_ifs with hn
    · exact hn
    · trivial
  | .float x, h => by
    rw [toJson]
    split_ifs
    · exact h
    · trivial
  | .string _, _ => trivial
  | .bytes data, _ => legibleItems_bytes data
  | .list items, h => legibleItems_toJsonItems items h
  | .map entries, h => legibleMembers_toJsonMembers entries h
termination_by structural v => v

/-- The documents of items are legible if their floats are. -/
theorem legibleItems_toJsonItems : ∀ items : List Value, ItemFloatsIn floats items →
    Json.LegibleItems floats (toJsonItems items)
  | [], _ => trivial
  | v :: rest, h => ⟨legible_toJson v h.1, legibleItems_toJsonItems rest h.2⟩
termination_by structural items => items

/-- The members of entries are legible if their floats are. -/
theorem legibleMembers_toJsonMembers : ∀ entries : List (String × Value),
    EntryFloatsIn floats entries → Json.LegibleMembers floats (toJsonMembers entries)
  | [], _ => trivial
  | (_, v) :: rest, h => ⟨legible_toJson v h.1, legibleMembers_toJsonMembers rest h.2⟩
termination_by structural entries => entries

end

variable (hfloats : Json.ReadsFloats floats) {v : Value} (hv : v.WellFormed)
  (hdepth : v.toJson.depth < 128)

include hfloats hv hdepth

/-- What JSON keeps of a value is read from its compact text. -/
theorem readJson?_compact (hin : v.FloatsIn floats) :
    readJson? v.toJson.compact = some v.throughJson := by
  have hread := Json.read?_compact hfloats (legible_toJson v hin) hdepth
  rw [readJson?, hread, Option.map_some, deserialize_eq_ofJson, ofJson_toJson v hv]

/-- What JSON keeps of a value is read from its indented text, also with blanks behind it. -/
theorem readJson?_pretty (hlegible : v.toJson.Legible floats) {bs : List Char}
    (hbs : ∀ c ∈ bs, Json.Blank c) :
    readJson? (v.toJson.pretty ++ String.ofList bs) = some v.throughJson := by
  have hread := Json.read?_pretty hfloats hlegible hdepth hbs
  rw [readJson?, hread, Option.map_some, deserialize_eq_ofJson, ofJson_toJson v hv]

end Texts

/-- **A value without floats survives its JSON text.** The text of a well-formed value without
floats whose document nests fewer than 128 levels is read as the value, with every payload of bytes
replaced by the list of its bytes; integers up to both limits, strings of any characters, items and
keys stand where they stood.

**Proof sketch.** The compact printer puts no blanks between the parts of the document, and the
reader takes each part up to where the next one begins, by induction over the document. Every
character of a string is read from what it is escaped as, and the digits of an integer of 64 bits
are read as the integer. The keys of the document are distinct, so reading them into a map keeps
their order. -/
theorem parse_compact_of_floatFree {v : Value} (hv : v.WellFormed) (hfree : v.FloatFree)
    (hdepth : v.toJson.depth < 128) :
    DocumentFormat.json.parse v.toJson.compact = .ok v.throughJson := by
  have hread := readJson?_compact Json.readsFloats_false hv hdepth hfree
  simp only [DocumentFormat.parse, hread]

section Sample

/-- A map with strings that need escapes, integers at both limits and bytes. -/
def escapedSample : Value :=
  .map [("a \"quote\"\n", .list [.int Int64.minValue, .int Int64.maxValue]),
    ("back\\slash", .bytes [0, 255]), ("\x01é", .null)]

/-- It is read from its text with the bytes as integers. -/
theorem escaped_parse_compact_of_floatFree :
    DocumentFormat.json.parse escapedSample.toJson.compact =
      .ok (.map [("a \"quote\"\n", .list [.int Int64.minValue, .int Int64.maxValue]),
        ("back\\slash", .list [.int 0, .int 255]), ("\x01é", .null)]) := by
  have hv : escapedSample.WellFormed := by
    simp [escapedSample, WellFormed, EntriesWellFormed, AllWellFormed, Dict.Distinct, Dict.keys]
  have hfree : escapedSample.FloatFree := by
    simp [escapedSample, FloatFree, FloatsIn, EntryFloatsIn, ItemFloatsIn]
  have hdepth : escapedSample.toJson.depth < 128 := by decide
  exact parse_compact_of_floatFree hv hfree hdepth

end Sample

end Value

end Intake
