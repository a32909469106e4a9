import Intake.Proofs.Value.Equality

set_option autoImplicit false

/-!
# Values as JSON trees

A JSON tree that keeps the members of objects in the order of their names gives a value back with
the keys of its maps in order. What it changes besides is what JSON has no form for, so the value
that comes back equals the value that went in exactly when JSON has a form for it.

## Main definitions

* `Value.sortKeys` — a value with the keys of every map inside it sorted.
* `Value.KeysAscend` — values with the keys of every map inside in ascending order.

## Main results

* `Dict.sorted_map` — sorting does not look at the values.
* `Value.ofJson_sorted` — a sorted document is read as the value of the document, sorted.
* `Value.ofJson_toSortedJson` — what comes back from the JSON tree of a value.
* `Value.throughJson_equal_iff` — only what JSON has a form for is equal to what JSON keeps of it.
* `Value.jsonTree_round_trip` — the way to a JSON tree and back.
-/

namespace Intake

/-! ### Sorting and changing values -/

namespace Dict

variable {α β : Type}

/-- Insertion in order does not look at the values. -/
lemma insertSorted_map (f : α → β) (key : String) (value : α) (d : Dict α) :
    insertSorted key (f value) (d.map fun e => (e.1, f e.2)) =
      (insertSorted key value d).map fun e => (e.1, f e.2) := by
  induction d with
  | nil => rfl
  | cons e rest ih =>
    rw [List.map_cons, insertSorted, insertSorted]
    split_ifs
    · rw [ih, List.map_cons]
    · rfl

/-- The first entry is inserted into the others in order. -/
lemma sorted_cons (e : String × α) (d : Dict α) :
    Dict.sorted (e :: d) = insertSorted e.1 e.2 d.sorted := rfl

/-- Sorting does not look at the values. -/
lemma sorted_map (f : α → β) (d : Dict α) :
    Dict.sorted (d.map fun e => (e.1, f e.2)) = d.sorted.map fun e => (e.1, f e.2) := by
  induction d with
  | nil => rfl
  | cons e rest ih =>
    rw [List.map_cons, sorted_cons, sorted_cons, ih]
    exact insertSorted_map f e.1 e.2 (Dict.sorted rest)

/-- Entries that were sorted, and whose values were changed, need not be sorted again. -/
lemma sorted_map_sorted (f : α → β) (d : Dict α) :
    Dict.sorted (d.sorted.map fun e => (e.1, f e.2)) =
      Dict.sorted (d.map fun e => (e.1, f e.2)) := by
  rw [sorted_map, sorted_map, (ascending_sorted d).sorted_eq]

end Dict

namespace Value

/-! ### Keys in order -/

mutual

/-- A value with the keys of every map inside it sorted. -/
def sortKeys : Value → Value
  | .list items => .list (sortItemKeys items)
  | .map entries => .map (Dict.sorted (sortEntryKeys entries))
  | other => other
termination_by structural v => v

/-- Every item with its keys sorted. -/
def sortItemKeys : List Value → List Value
  | [] => []
  | v :: rest => v.sortKeys :: sortItemKeys rest
termination_by structural items => items

/-- Entries in place, the value of each with its keys sorted. -/
def sortEntryKeys : List (String × Value) → List (String × Value)
  | [] => []
  | (k, v) :: rest => (k, v.sortKeys) :: sortEntryKeys rest
termination_by structural entries => entries

end

mutual

/-- The keys of every map inside a value stand in ascending order. -/
def KeysAscend : Value → Prop
  | .list items => ItemKeysAscend items
  | .map entries => Dict.Ascending entries ∧ EntryKeysAscend entries
  | _ => True
termination_by structural v => v

/-- The keys inside every item stand in ascending order. -/
def ItemKeysAscend : List Value → Prop
  | [] => True
  | v :: rest => v.KeysAscend ∧ ItemKeysAscend rest
termination_by structural items => items

/-- The keys inside the value of every entry stand in ascending order. -/
def EntryKeysAscend : List (String × Value) → Prop
  | [] => True
  | (_, v) :: rest => v.KeysAscend ∧ EntryKeysAscend rest
termination_by structural entries => entries

end

/-- The keys inside a list are sorted item by item. -/
@[simp] lemma sortKeys_list (items : List Value) :
    (list items).sortKeys = .list (items.map sortKeys) := by
  have hitems : sortItemKeys items = items.map sortKeys := by
    induction items with
    | nil => rfl
    | cons v rest ih => rw [sortItemKeys, ih, List.map_cons]
  rw [sortKeys, hitems]

/-- The keys inside a map are sorted entry by entry, and then its own. -/
@[simp] lemma sortKeys_map (entries : Dict Value) :
    (map entries).sortKeys = .map (Dict.sorted (entries.map fun e => (e.1, e.2.sortKeys))) := by
  have hentries : sortEntryKeys entries = entries.map fun e => (e.1, e.2.sortKeys) := by
    induction entries with
    | nil => rfl
    | cons e rest ih => rw [sortEntryKeys, ih, List.map_cons]
  rw [sortKeys, hentries]

/-- Items have their keys in order one by one. -/
lemma itemKeysAscend_iff {items : List Value} :
    ItemKeysAscend items ↔ ∀ v ∈ items, v.KeysAscend := by
  induction items with
  | nil => simp [ItemKeysAscend]
  | cons v rest ih => simp [ItemKeysAscend, ih]

/-- Entries have the keys inside their values in order one by one. -/
lemma entryKeysAscend_iff {entries : Dict Value} :
    EntryKeysAscend entries ↔ ∀ e ∈ entries, e.2.KeysAscend := by
  induction entries with
  | nil => simp [EntryKeysAscend]
  | cons e rest ih =>
    obtain ⟨k, v⟩ := e
    simp [EntryKeysAscend, ih]

/-- Sorted keys stand in ascending order. -/
theorem keysAscend_sortKeys (v : Value) : v.sortKeys.KeysAscend := by
  induction v using Value.induction with
  | null | bool | int | float | string | bytes => trivial
  | list items ih =>
    rw [sortKeys_list, KeysAscend, itemKeysAscend_iff]
    exact List.forall_mem_map.mpr ih
  | map entries ih =>
    rw [sortKeys_map, KeysAscend, entryKeysAscend_iff]
    refine ⟨Dict.ascending_sorted _, fun e he => ?_⟩
    obtain ⟨e, hmem, rfl⟩ := List.mem_map.mp ((Dict.sorted_perm _).mem_iff.mp he)
    exact ih e hmem

/-- Sorting the keys puts the entries of maps in another order and does nothing else. -/
theorem reordered_sortKeys (v : Value) : v.Reordered v.sortKeys := by
  induction v using Value.induction with
  | null | bool | int | float | string | bytes => exact .refl _
  | list items ih =>
    rw [sortKeys_list]
    exact .list (List.forall₂_map_right_iff.mpr (List.forall₂_same.mpr ih))
  | map entries ih =>
    rw [sortKeys_map]
    refine .map (List.forall₂_map_right_iff.mpr (List.forall₂_same.mpr fun e he => ?_))
      (Dict.sorted_perm _).symm
    exact .intro (ih e he)

/-- Keys that are sorted stay as they are. -/
lemma sortKeys_sortKeys (v : Value) : v.sortKeys.sortKeys = v.sortKeys := by
  induction v using Value.induction with
  | null | bool | int | float | string | bytes => rfl
  | list items ih =>
    rw [sortKeys_list, sortKeys_list, List.map_map]
    exact congrArg list (List.map_congr_left ih)
  | map entries ih =>
    rw [sortKeys_map, sortKeys_map, Dict.sorted_map_sorted, List.map_map]
    refine congrArg (fun es => map (Dict.sorted es)) (List.map_congr_left fun e he => ?_)
    exact congrArg (Prod.mk e.1) (ih e he)

/-! ### Reading a sorted document -/

/-- An integer without a sign has no keys to sort. -/
lemma sortKeys_ofUnsigned (n : UInt64) : (ofUnsigned n).sortKeys = ofUnsigned n := by
  rw [ofUnsigned]
  split_ifs <;> rfl

mutual

/-- **A sorted document is read as the value of the document, sorted.** -/
theorem ofJson_sorted : ∀ j : Json, j.Proper → ofJson j.sorted = (ofJson j).sortKeys
  | .null, _ => rfl
  | .bool _, _ => rfl
  | .unsigned n, _ => (sortKeys_ofUnsigned n).symm
  | .signed _, _ => rfl
  | .float _, _ => rfl
  | .string _, _ => rfl
  | .array items, h => congrArg list (ofJsonItems_sortedItems items h)
  | .object members, h => by
    have hdistinct : Dict.Distinct (members.map fun m => (m.1, m.2.sorted)) := by
      rw [Dict.Distinct, Dict.keys_map]
      exact h.1
    have hsorted : Dict.Distinct (Dict.sorted (members.map fun m => (m.1, m.2.sorted))) :=
      Dict.distinct_of_perm hdistinct (Dict.sorted_perm _).symm
    have hmembers : (members.map fun m => (m.1, m.2.sorted)).map (fun m => (m.1, ofJson m.2)) =
        (members.map fun m => (m.1, ofJson m.2)).map fun e => (e.1, e.2.sortKeys) := by
      rw [List.map_map, List.map_map]
      exact List.map_congr_left fun m hm =>
        congrArg (Prod.mk m.1) (ofJson_sorted_of_mem members h.2 m hm)
    rw [Json.sorted, Json.sortedMembers_eq_map, hdistinct.ofEntries_eq, ofJson_object hsorted,
      ofJsonMembers_eq_map, ← Dict.sorted_map, hmembers, ofJson_object h.1, ofJsonMembers_eq_map,
      sortKeys_map]
termination_by structural j => j

/-- Sorted items are read as the items, each sorted. -/
theorem ofJsonItems_sortedItems : ∀ items : List Json, Json.ItemsProper items →
    ofJsonItems (Json.sortedItems items) = sortItemKeys (ofJsonItems items)
  | [], _ => rfl
  | j :: rest, h => by
    rw [Json.sortedItems, ofJsonItems, ofJson_sorted j h.1, ofJsonItems_sortedItems rest h.2,
      ofJsonItems, sortItemKeys]
termination_by structural items => items

/-- Sorted values of members are read as the values, sorted. -/
theorem ofJson_sorted_of_mem : ∀ members : List (String × Json), Json.MembersProper members →
    ∀ m ∈ members, ofJson m.2.sorted = (ofJson m.2).sortKeys
  | [], _ => List.forall_mem_nil _
  | (_, j) :: rest, h =>
    List.forall_mem_cons.mpr ⟨ofJson_sorted j h.1, ofJson_sorted_of_mem rest h.2⟩
termination_by structural members => members

end

/-- Entries become members under their keys. -/
lemma keys_toJsonMembers (entries : Dict Value) :
    Dict.keys (toJsonMembers entries) = entries.keys := by
  induction entries with
  | nil => rfl
  | cons e rest ih => exact congrArg (e.1 :: ·) ih

/-- Bytes become a proper array. -/
lemma itemsProper_bytes (data : List UInt8) :
    Json.ItemsProper (data.map fun b => .unsigned (UInt64.ofNat b.toNat)) := by
  induction data with
  | nil => trivial
  | cons b rest ih => exact ⟨trivial, ih⟩

mutual

/-- The document of a value that repeats no key is proper. -/
theorem proper_toJson : ∀ v : Value, v.WellFormed → v.toJson.Proper
  | .null, _ => trivial
  | .bool _, _ => trivial
  | .int n, _ => by
    rw [toJson, jsonOfInt]
    split_ifs <;> trivial
  | .float x, _ => by
    rw [toJson]
    split_ifs with hfinite
    · exact hfinite
    · trivial
  | .string _, _ => trivial
  | .bytes data, _ => itemsProper_bytes data
  | .list items, h => itemsProper_toJsonItems items h
  | .map entries, h => by
    have hdistinct : Dict.Distinct (toJsonMembers entries) := by
      rw [Dict.Distinct, keys_toJsonMembers]
      exact h.1
    exact ⟨hdistinct, membersProper_toJsonMembers entries h.2⟩
termination_by structural v => v

/-- The documents of items are proper. -/
theorem itemsProper_toJsonItems : ∀ items : List Value, AllWellFormed items →
    Json.ItemsProper (toJsonItems items)
  | [], _ => trivial
  | v :: rest, h => ⟨proper_toJson v h.1, itemsProper_toJsonItems rest h.2⟩
termination_by structural items => items

/-- The members of entries are proper. -/
theorem membersProper_toJsonMembers : ∀ entries : List (String × Value),
    EntriesWellFormed entries → Json.MembersProper (toJsonMembers entries)
  | [], _ => trivial
  | (_, v) :: rest, h => ⟨proper_toJson v h.1, membersProper_toJsonMembers rest h.2⟩
termination_by structural entries => entries

end

/-- From its JSON tree a value comes back as what JSON keeps of it, with the keys sorted. -/
theorem ofJson_toSortedJson {v : Value} (hv : v.WellFormed) :
    ofJson v.toSortedJson = v.throughJson.sortKeys := by
  rw [toSortedJson, ofJson_sorted _ (proper_toJson v hv), ofJson_toJson v hv]

/-! ### What JSON keeps -/

/-- JSON has a form for a list when it has one for each item. -/
lemma itemsPortable_iff {items : List Value} : ItemsPortable items ↔ ∀ v ∈ items, v.Portable := by
  induction items with
  | nil => simp [ItemsPortable]
  | cons v rest ih => simp [ItemsPortable, ih]

/-- JSON has a form for a map when it has one for the value of each entry. -/
lemma entriesPortable_iff {entries : Dict Value} :
    EntriesPortable entries ↔ ∀ e ∈ entries, e.2.Portable := by
  induction entries with
  | nil => simp [EntriesPortable]
  | cons e rest ih =>
    obtain ⟨k, v⟩ := e
    simp [EntriesPortable, ih]

/-- JSON keeps a list item by item. -/
@[simp] lemma throughJson_list (items : List Value) :
    (list items).throughJson = .list (items.map throughJson) := by
  rw [throughJson, itemsThroughJson_eq_map]

/-- JSON keeps a map entry by entry. -/
@[simp] lemma throughJson_map (entries : Dict Value) :
    (map entries).throughJson = .map (entries.map fun e => (e.1, e.2.throughJson)) := by
  rw [throughJson, entriesThroughJson_eq_map]

/-- JSON has a form for what it keeps. -/
theorem portable_throughJson (v : Value) : v.throughJson.Portable := by
  induction v using Value.induction with
  | null | bool | int | string => trivial
  | float x =>
    rw [throughJson]
    split_ifs with hfinite
    · exact hfinite
    · trivial
  | bytes data =>
    rw [throughJson, Portable, itemsPortable_iff]
    exact List.forall_mem_map.mpr fun _ _ => trivial
  | list items ih =>
    rw [throughJson_list, Portable, itemsPortable_iff]
    exact List.forall_mem_map.mpr ih
  | map entries ih =>
    rw [throughJson_map, Portable, entriesPortable_iff]
    exact List.forall_mem_map.mpr ih

/-- There is no NaN inside a value that JSON has a form for. -/
theorem Portable.nanFree {v : Value} (h : v.Portable) : v.NaNFree := by
  induction v using Value.induction with
  | null | bool | int | string | bytes => trivial
  | float x => exact Binary64.not_isNaN_of_isFinite h
  | list items ih =>
    exact itemFloatsIn_iff.mpr fun v hv => ih v hv (itemsPortable_iff.mp h v hv)
  | map entries ih =>
    exact entryFloatsIn_iff.mpr fun e he => ih e he (entriesPortable_iff.mp h e he)

/-- The order of keys makes no difference to what JSON keeps. -/
lemma throughJson_sortKeys (v : Value) : v.sortKeys.throughJson = v.throughJson.sortKeys := by
  induction v using Value.induction with
  | null | bool | int | string => rfl
  | float x =>
    show (float x).throughJson = (float x).throughJson.sortKeys
    rw [throughJson]
    split_ifs <;> rfl
  | bytes data =>
    show (bytes data).throughJson = (bytes data).throughJson.sortKeys
    rw [throughJson, sortKeys_list, List.map_map]
    rfl
  | list items ih =>
    rw [sortKeys_list, throughJson_list, throughJson_list, sortKeys_list, List.map_map,
      List.map_map]
    exact congrArg list (List.map_congr_left ih)
  | map entries ih =>
    rw [sortKeys_map, throughJson_map, ← Dict.sorted_map, throughJson_map, sortKeys_map,
      List.map_map, List.map_map]
    refine congrArg (fun es => map (Dict.sorted es)) (List.map_congr_left fun e he => ?_)
    exact congrArg (Prod.mk e.1) (ih e he)

/-- **What JSON keeps of a value equals the value exactly when JSON has a form for it.** -/
theorem throughJson_equal_iff {v : Value} (hv : v.WellFormed) :
    v.throughJson.equal v = true ↔ v.Portable := by
  induction v using Value.induction with
  | null | bool | int | string => exact iff_of_true ((equal_self_iff hv).mpr trivial) trivial
  | float x =>
    rw [throughJson, Portable]
    split_ifs with hfinite
    · have hnan := Binary64.not_isNaN_of_isFinite hfinite
      exact iff_of_true (Binary64.equal_self_of_not_isNaN hnan) hfinite
    · exact iff_of_false nofun hfinite
  | bytes data => exact iff_of_false nofun id
  | list items ih =>
    rw [throughJson_list, list_map_equal_iff, Portable, itemsPortable_iff]
    exact forall₂_congr fun v hmem => ih v hmem (wellFormed_list_iff.mp hv v hmem)
  | map entries ih =>
    obtain ⟨hdistinct, hvalues⟩ := wellFormed_map_iff.mp hv
    rw [throughJson_map, map_map_equal_iff hdistinct, Portable, entriesPortable_iff]
    exact forall₂_congr fun e he => ih e he (hvalues e he)

/-! ### The way to a JSON tree and back -/

/-- A value equals itself with the keys sorted, both ways round, if there is no NaN inside it. -/
lemma equal_sortKeys {v : Value} (hv : v.WellFormed) (hnan : v.NaNFree) :
    v.equal v.sortKeys = true ∧ v.sortKeys.equal v = true := by
  have hequal := equal_of_reordered hv hnan (reordered_sortKeys v)
  exact ⟨hequal, equal_symm hv hequal⟩

/-- **A JSON tree gives back what JSON has a form for.** A value that is made a JSON tree and read
back has its bytes as lists of integers and null for infinities and NaN, and the keys of every map
in ascending order; nothing else is changed. It equals the value that went in, with maps compared
without order, exactly when there are no bytes, infinities and NaN inside. Going to a JSON tree and
back once more changes nothing.

**Proof sketch.** Reading a sorted document is sorting the value of the document, and the value of
the document is what JSON keeps (`Value.ofJson_toSortedJson`). What JSON keeps holds no NaN, so it
equals itself with the keys sorted, and it equals the value only if nothing was replaced
(`Value.throughJson_equal_iff`). Keeping and sorting each change nothing the second time, and the
order in which they are done makes no difference. -/
theorem jsonTree_round_trip {v : Value} (hv : v.WellFormed) :
    ∃ w, ofJson v.toSortedJson = w ∧ v.throughJson.Reordered w ∧ w.KeysAscend ∧
      (w.equal v = true ↔ v.Portable) ∧ ofJson w.toSortedJson = w := by
  have hkept : v.throughJson.WellFormed := wellFormed_throughJson hv
  obtain ⟨hto, hfrom⟩ := equal_sortKeys hkept (portable_throughJson v).nanFree
  have hback := ofJson_toSortedJson hv
  have hwell : v.throughJson.sortKeys.WellFormed := hback ▸ wellFormed_ofJson v.toSortedJson
  refine ⟨_, hback, reordered_sortKeys _, keysAscend_sortKeys _, ?_, ?_⟩
  · rw [← throughJson_equal_iff hv]
    exact ⟨equal_trans hto, equal_trans hfrom⟩
  · have hagain : v.throughJson.throughJson = v.throughJson :=
      (throughJson_eq_self_iff _).mpr (portable_throughJson v)
    rw [ofJson_toSortedJson hwell, throughJson_sortKeys, hagain, sortKeys_sortKeys]

section Sample

/-- A map out of order with bytes and a NaN inside. -/
def mixedSample : Value :=
  .map [("z", .bytes [0, 255]),
    ("a", .map [("y", .list [.float Binary64.nan, .int (-1)]), ("x", .float (.zero true))])]

/-- What comes back of it. -/
def keptSample : Value :=
  .map [("a", .map [("x", .float (.zero true)), ("y", .list [.null, .int (-1)])]),
    ("z", .list [.int 0, .int 255])]

/-- It comes back in order, does not equal what went in, and is not changed any more. -/
theorem mixed_jsonTree_round_trip :
    mixedSample.WellFormed ∧ ofJson mixedSample.toSortedJson = keptSample ∧
      mixedSample.throughJson.Reordered keptSample ∧ keptSample.KeysAscend ∧
      keptSample.equal mixedSample ≠ true ∧ ofJson keptSample.toSortedJson = keptSample := by
  have hv : mixedSample.WellFormed := by
    simp [mixedSample, WellFormed, EntriesWellFormed, AllWellFormed, Dict.Distinct, Dict.keys]
  have hkept : ofJson mixedSample.toSortedJson = keptSample := by rfl
  have hlost : ¬ mixedSample.Portable := by simp [mixedSample, Portable, EntriesPortable]
  obtain ⟨w, hw, hreordered, hascend, hequal, hagain⟩ := jsonTree_round_trip hv
  obtain rfl : keptSample = w := hkept.symm.trans hw
  exact ⟨hv, hkept, hreordered, hascend, fun h => hlost (hequal.mp h), hagain⟩

end Sample

end Value

end Intake
