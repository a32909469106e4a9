import Intake.Proofs.Number.Order
import Intake.Proofs.Value.Dict
import Intake.Value.Equality
import Intake.Value.Yaml

set_option autoImplicit false

/-!
# The ways from a document to a value

A document becomes a value by recursion over its JSON tree, by recursion over the same document as
a YAML tree, or node by node as a deserializer tells it to a visitor. All three give one value,
with the items and entries where the document has them.

## Main definitions

* `Json.Proper` — documents without repeated names, infinities or NaN.
* `Json.toYaml` — the same document as a YAML tree.
* `Json.Loads` — the value of a document, node by node and in its order.

## Main results

* `Value.deserialize_eq_ofJson`, `Value.ofYaml_toYaml` — the visitor and the YAML tree lead to the
  value of the JSON tree.
* `Value.loads_ofJson` — that value stands in the order of the document.
* `Value.equal_ofJson_sorted` — sorting the names inside a document gives an equal value.
* `Value.loaders_agree` — every way gives the same value.
-/

namespace Intake

namespace Dict

variable {α : Type}

/-- The order of the entries does not matter for whether a key occurs twice. -/
lemma distinct_of_perm {d e : Dict α} (hd : d.Distinct) (h : d.Perm e) : e.Distinct :=
  (h.map Prod.fst).nodup_iff.mp hd

end Dict

/-! ### Documents -/

namespace Json

mutual

/-- No object inside a document repeats a name, and every float is a number of the real line. -/
def Proper : Json → Prop
  | .float x => x.isFinite = true
  | .array items => ItemsProper items
  | .object members => Dict.Distinct members ∧ MembersProper members
  | _ => True
termination_by structural j => j

/-- Every item is proper. -/
def ItemsProper : List Json → Prop
  | [] => True
  | j :: rest => j.Proper ∧ ItemsProper rest
termination_by structural items => items

/-- The value of every member is proper. -/
def MembersProper : List (String × Json) → Prop
  | [] => True
  | (_, j) :: rest => j.Proper ∧ MembersProper rest
termination_by structural members => members

end

mutual

/-- The same document as a YAML tree. -/
def toYaml : Json → Yaml
  | .null => .null
  | .bool b => .bool b
  | .unsigned n => .unsigned n
  | .signed n => .signed n
  | .float x => .float x
  | .string s => .string s
  | .array items => .sequence (toYamlItems items)
  | .object members => .mapping (toYamlEntries members)
termination_by structural j => j

/-- Every item as a YAML tree. -/
def toYamlItems : List Json → List Yaml
  | [] => []
  | j :: rest => j.toYaml :: toYamlItems rest
termination_by structural items => items

/-- Every member as an entry under a text. -/
def toYamlEntries : List (String × Json) → List (Yaml × Yaml)
  | [] => []
  | (k, j) :: rest => (.string k, j.toYaml) :: toYamlEntries rest
termination_by structural members => members

end

mutual

/-- The value of a document, node by node: an integer without a sign is the integer as long as 64
bits with a sign hold it and the nearest float beyond, and the members of an object stand under
their names in their order. -/
def Loads : Json → Value → Prop
  | .null, v => v = .null
  | .bool b, v => v = .bool b
  | .unsigned n, v =>
    (n.toNat < 2 ^ 63 → v = .int (Int64.ofInt n.toNat)) ∧
      (2 ^ 63 ≤ n.toNat → v = .float (Binary64.ofNat n.toNat))
  | .signed n, v => v = .int n
  | .float x, v => v = .float x
  | .string s, v => v = .string s
  | .array items, v => ∃ vs, v = .list vs ∧ LoadsItems items vs
  | .object members, v => ∃ es, v = .map es ∧ LoadsMembers members es
termination_by structural j => j

/-- The values of items, one for one. -/
def LoadsItems : List Json → List Value → Prop
  | [], vs => vs = []
  | j :: rest, vs => ∃ v ws, vs = v :: ws ∧ j.Loads v ∧ LoadsItems rest ws
termination_by structural items => items

/-- The entries of members, one for one. -/
def LoadsMembers : List (String × Json) → List (String × Value) → Prop
  | [], es => es = []
  | (k, j) :: rest, es => ∃ v fs, es = (k, v) :: fs ∧ j.Loads v ∧ LoadsMembers rest fs
termination_by structural members => members

end

/-- The values of members are proper one by one. -/
lemma membersProper_iff {members : Dict Json} :
    MembersProper members ↔ ∀ m ∈ members, m.2.Proper := by
  induction members with
  | nil => simp [MembersProper]
  | cons m rest ih =>
    obtain ⟨k, j⟩ := m
    simp [MembersProper, ih]

/-- Members are sorted inside one by one. -/
lemma sortedMembers_eq_map (members : Dict Json) :
    sortedMembers members = members.map fun m => (m.1, m.2.sorted) := by
  induction members with
  | nil => rfl
  | cons m rest ih =>
    obtain ⟨k, j⟩ := m
    rw [sortedMembers, ih, List.map_cons]

/-- The members of a sorted object are those of the object, each sorted inside. -/
lemma sorted_object_perm {members : Dict Json} (h : members.Distinct) :
    ∃ ms, (object members).sorted = .object ms ∧ Dict.Distinct ms ∧
      ms.Perm (members.map fun m => (m.1, m.2.sorted)) := by
  have hdistinct : Dict.Distinct (members.map fun m => (m.1, m.2.sorted)) := by
    rw [Dict.Distinct, Dict.keys_map]
    exact h
  have hsorted : (object members).sorted =
      .object (Dict.sorted (members.map fun m => (m.1, m.2.sorted))) := by
    rw [sorted, sortedMembers_eq_map, hdistinct.ofEntries_eq]
  have hperm := Dict.sorted_perm (members.map fun m => (m.1, m.2.sorted))
  exact ⟨_, hsorted, Dict.distinct_of_perm hdistinct hperm.symm, hperm⟩

mutual

/-- Sorting keeps a document proper. -/
theorem proper_sorted : ∀ j : Json, j.Proper → j.sorted.Proper
  | .null, _ => trivial
  | .bool _, _ => trivial
  | .unsigned _, _ => trivial
  | .signed _, _ => trivial
  | .float _, h => h
  | .string _, _ => trivial
  | .array items, h => itemsProper_sortedItems items h
  | .object members, h => by
    obtain ⟨ms, hsorted, hdistinct, hperm⟩ := sorted_object_perm h.1
    have hmembers : MembersProper ms := by
      refine membersProper_iff.mpr fun m hm => ?_
      obtain ⟨m, hmem, rfl⟩ := List.mem_map.mp (hperm.mem_iff.mp hm)
      exact proper_sorted_of_mem members h.2 m hmem
    rw [hsorted]
    exact ⟨hdistinct, hmembers⟩
termination_by structural j => j

/-- Sorting keeps items proper. -/
theorem itemsProper_sortedItems : ∀ items : List Json, ItemsProper items →
    ItemsProper (sortedItems items)
  | [], _ => trivial
  | j :: rest, h => ⟨proper_sorted j h.1, itemsProper_sortedItems rest h.2⟩
termination_by structural items => items

/-- Sorting keeps the value of each member proper. -/
theorem proper_sorted_of_mem : ∀ members : List (String × Json), MembersProper members →
    ∀ m ∈ members, m.2.sorted.Proper
  | [], _ => fun _ hm => nomatch hm
  | (_, j) :: rest, h =>
    List.forall_mem_cons.mpr ⟨proper_sorted j h.1, proper_sorted_of_mem rest h.2⟩
termination_by structural members => members

end

end Json

namespace Value

/-! ### The visitor -/

/-- The visitor takes an integer without a sign as the recursion does. -/
lemma visitUnsigned_eq (n : UInt64) : Visitor.visitUnsigned n = ofUnsigned n := by
  have hmax : Int64.maxValue.toInt = Nat.pow 2 63 - 1 := by decide
  by_cases h : n.toNat < Nat.pow 2 63
  · have hle : (n.toNat : Int) ≤ Int64.maxValue.toInt := by omega
    rw [Visitor.visitUnsigned, Visitor.signed?, if_pos hle, ofUnsigned, if_pos h]
  · have hlt : ¬ (n.toNat : Int) ≤ Int64.maxValue.toInt := by omega
    rw [Visitor.visitUnsigned, Visitor.signed?, if_neg hlt, ofUnsigned, if_neg h]

mutual

/-- **What a visitor is told is the value of the document.** -/
theorem deserialize_eq_ofJson : ∀ j : Json, deserialize j = ofJson j
  | .null => rfl
  | .bool _ => rfl
  | .unsigned n => visitUnsigned_eq n
  | .signed _ => rfl
  | .float _ => rfl
  | .string _ => rfl
  | .array items => by rw [deserialize, visitItems_eq, ofJson, List.reverse_nil, List.nil_append]
  | .object members => by rw [deserialize, visitMembers_eq, ofJson, Dict.ofEntries]
termination_by structural j => j

/-- Items are pushed behind those already there. -/
theorem visitItems_eq : ∀ (items : List Json) (pushed : List Value),
    visitItems items pushed = pushed.reverse ++ ofJsonItems items
  | [], pushed => by rw [visitItems, ofJsonItems, List.append_nil]
  | j :: rest, pushed => by
    rw [visitItems, visitItems_eq rest, deserialize_eq_ofJson j, ofJsonItems, List.reverse_cons,
      List.append_assoc, List.singleton_append]
termination_by structural items => items

/-- Members are inserted one after another. -/
theorem visitMembers_eq : ∀ (members : List (String × Json)) (done : Dict Value),
    visitMembers members done =
      (ofJsonMembers members).foldl (fun d e => d.insert e.1 e.2) done
  | [], _ => rfl
  | (k, j) :: rest, done => by
    rw [visitMembers, visitMembers_eq rest, deserialize_eq_ofJson j, ofJsonMembers, List.foldl_cons]
termination_by structural members => members

end

/-! ### The YAML tree -/

mutual

/-- **A document is read from its YAML tree as from its JSON tree.** -/
theorem ofYaml_toYaml : ∀ j : Json, ofYaml j.toYaml = .ok (ofJson j)
  | .null => rfl
  | .bool _ => rfl
  | .unsigned _ => rfl
  | .signed _ => rfl
  | .float _ => rfl
  | .string _ => rfl
  | .array items => by rw [Json.toYaml, ofYaml, ofYamlItems_toYamlItems items, ofJson]
  | .object members => by
    rw [Json.toYaml, ofYaml, ofYamlEntries_toYamlEntries members, ofJson, Dict.ofEntries]
termination_by structural j => j

/-- Items are read from their YAML trees. -/
theorem ofYamlItems_toYamlItems : ∀ items : List Json,
    ofYamlItems (Json.toYamlItems items) = .ok (ofJsonItems items)
  | [] => rfl
  | j :: rest => by
    rw [Json.toYamlItems, ofYamlItems, ofYaml_toYaml j, ofYamlItems_toYamlItems rest, ofJsonItems]
termination_by structural items => items

/-- Members are inserted one after another. -/
theorem ofYamlEntries_toYamlEntries : ∀ (members : List (String × Json)) (done : Dict Value),
    ofYamlEntries (Json.toYamlEntries members) done =
      .ok ((ofJsonMembers members).foldl (fun d e => d.insert e.1 e.2) done)
  | [], _ => rfl
  | (k, j) :: rest, done => by
    have hrest := ofYamlEntries_toYamlEntries rest (done.insert k (ofJson j))
    simp only [Json.toYamlEntries, ofYamlEntries, ofYaml_toYaml j, hrest, ofJsonMembers,
      List.foldl_cons]
termination_by structural members => members

end

/-! ### The order of the document -/

/-- An integer without a sign that fits is the integer it is. -/
lemma ofUnsigned_of_lt {n : UInt64} (h : n.toNat < 2 ^ 63) :
    ofUnsigned n = .int (Int64.ofInt n.toNat) :=
  if_pos h

/-- An integer without a sign is taken by its size. -/
lemma loads_ofUnsigned (n : UInt64) : (Json.unsigned n).Loads (ofUnsigned n) := by
  constructor
  · exact ofUnsigned_of_lt
  · intro h
    have hpow : Nat.pow 2 63 = 2 ^ 63 := rfl
    rw [ofUnsigned, if_neg (not_lt.mpr (hpow ▸ h))]

/-- Members become entries one by one. -/
lemma ofJsonMembers_eq_map (members : Dict Json) :
    ofJsonMembers members = members.map fun m => (m.1, ofJson m.2) := by
  induction members with
  | nil => rfl
  | cons m rest ih =>
    obtain ⟨k, j⟩ := m
    rw [ofJsonMembers, ih, List.map_cons]

/-- Distinct members are the entries of a map as they stand. -/
lemma ofJson_object {members : Dict Json} (h : members.Distinct) :
    ofJson (.object members) = .map (ofJsonMembers members) := by
  have hdistinct : Dict.Distinct (ofJsonMembers members) := by
    rw [ofJsonMembers_eq_map, Dict.Distinct, Dict.keys_map]
    exact h
  rw [ofJson, hdistinct.ofEntries_eq]

mutual

/-- **The value of a document stands in the order of the document.** -/
theorem loads_ofJson : ∀ j : Json, j.Proper → j.Loads (ofJson j)
  | .null, _ => rfl
  | .bool _, _ => rfl
  | .unsigned n, _ => loads_ofUnsigned n
  | .signed _, _ => rfl
  | .float _, _ => rfl
  | .string _, _ => rfl
  | .array items, h => ⟨_, rfl, loadsItems_ofJsonItems items h⟩
  | .object members, h => ⟨_, ofJson_object h.1, loadsMembers_ofJsonMembers members h.2⟩
termination_by structural j => j

/-- The values of items stand in the order of the items. -/
theorem loadsItems_ofJsonItems : ∀ items : List Json, Json.ItemsProper items →
    Json.LoadsItems items (ofJsonItems items)
  | [], _ => rfl
  | j :: rest, h => ⟨_, _, rfl, loads_ofJson j h.1, loadsItems_ofJsonItems rest h.2⟩
termination_by structural items => items

/-- The entries of members stand in the order of the members. -/
theorem loadsMembers_ofJsonMembers : ∀ members : List (String × Json), Json.MembersProper members →
    Json.LoadsMembers members (ofJsonMembers members)
  | [], _ => rfl
  | (_, j) :: rest, h => ⟨_, _, rfl, loads_ofJson j h.1, loadsMembers_ofJsonMembers rest h.2⟩
termination_by structural members => members

end

/-! ### Equality -/

/-- An integer without a sign equals itself. -/
lemma equal_self_ofUnsigned (n : UInt64) : (ofUnsigned n).equal (ofUnsigned n) = true := by
  rw [ofUnsigned]
  split_ifs
  · exact beq_self_eq_true _
  · exact Binary64.equal_self_of_not_isNaN (Binary64.not_isNaN_ofNat _)

/-- Entries stand within a map that has an equal value under each of their keys. -/
lemma entriesWithin_of_forall {es fs : Dict Value}
    (h : ∀ e ∈ es, ∃ w, fs.find? e.1 = some w ∧ e.2.equal w = true) :
    entriesWithin es fs = true := by
  induction es with
  | nil => rfl
  | cons e rest ih =>
    obtain ⟨k, v⟩ := e
    obtain ⟨w, hw, hequal⟩ : ∃ w, fs.find? k = some w ∧ v.equal w = true :=
      h (k, v) List.mem_cons_self
    have hrest := ih fun e he => h e (List.mem_cons_of_mem _ he)
    simp only [entriesWithin, hw, hequal, hrest, Bool.and_self]

/-- Two ways to make the values of distinct members give equal maps, in whatever order the entries
stand, if they give equal values. -/
lemma map_equal_map {members : Dict Json} (hd : members.Distinct) (f g : Json → Value)
    (hfg : ∀ m ∈ members, (f m.2).equal (g m.2) = true) {es fs : Dict Value}
    (hes : es.Perm (members.map fun m => (m.1, f m.2)))
    (hfs : fs.Perm (members.map fun m => (m.1, g m.2))) : (map es).equal (map fs) = true := by
  have hlength : es.length = fs.length := by
    rw [hes.length_eq, hfs.length_eq, List.length_map, List.length_map]
  have hkeys : Dict.Distinct (members.map fun m => (m.1, g m.2)) := by
    rw [Dict.Distinct, Dict.keys_map]
    exact hd
  have hwithin : entriesWithin es fs = true := by
    refine entriesWithin_of_forall fun e he => ?_
    obtain ⟨m, hm, rfl⟩ := List.mem_map.mp (hes.mem_iff.mp he)
    have hmem : (m.1, g m.2) ∈ fs := hfs.mem_iff.mpr (List.mem_map_of_mem hm)
    exact ⟨g m.2, Dict.find?_of_mem (Dict.distinct_of_perm hkeys hfs.symm) hmem, hfg m hm⟩
  rw [equal, hlength, hwithin, beq_self_eq_true]
  rfl

/-- The value of a sorted object has the entries of its members, each sorted inside. -/
lemma ofJson_sorted_object {members : Dict Json} (h : members.Distinct) :
    ∃ es, ofJson (Json.object members).sorted = .map es ∧
      es.Perm (members.map fun m => (m.1, ofJson m.2.sorted)) := by
  obtain ⟨ms, hsorted, hdistinct, hperm⟩ := Json.sorted_object_perm h
  refine ⟨ofJsonMembers ms, by rw [hsorted, ofJson_object hdistinct], ?_⟩
  have hmap := hperm.map fun m => (m.1, ofJson m.2)
  rwa [List.map_map, ← ofJsonMembers_eq_map] at hmap

mutual

/-- Sorting the names inside a document gives an equal value, read either way. -/
theorem equal_ofJson_sorted : ∀ j : Json, j.Proper →
    (ofJson j.sorted).equal (ofJson j) = true ∧ (ofJson j).equal (ofJson j.sorted) = true
  | .null, _ => ⟨rfl, rfl⟩
  | .bool b, _ => ⟨beq_self_eq_true b, beq_self_eq_true b⟩
  | .unsigned n, _ => ⟨equal_self_ofUnsigned n, equal_self_ofUnsigned n⟩
  | .signed n, _ => ⟨beq_self_eq_true n, beq_self_eq_true n⟩
  | .float _, h =>
    have hself := Binary64.equal_self_of_not_isNaN (Binary64.not_isNaN_of_isFinite h)
    ⟨hself, hself⟩
  | .string s, _ => ⟨beq_self_eq_true s, beq_self_eq_true s⟩
  | .array items, h => equalItems_ofJson_sorted items h
  | .object members, h => by
    obtain ⟨es, hes, hperm⟩ := ofJson_sorted_object h.1
    have hvalues := equalMembers_ofJson_sorted members h.2
    have hkept : (ofJsonMembers members).Perm (members.map fun m => (m.1, ofJson m.2)) :=
      .of_eq (ofJsonMembers_eq_map members)
    rw [hes, ofJson_object h.1]
    constructor
    · exact map_equal_map h.1 (fun j => ofJson j.sorted) ofJson (fun m hm => (hvalues m hm).1)
        hperm hkept
    · exact map_equal_map h.1 ofJson (fun j => ofJson j.sorted) (fun m hm => (hvalues m hm).2)
        hkept hperm
termination_by structural j => j

/-- Sorting the names inside items gives equal lists. -/
theorem equalItems_ofJson_sorted : ∀ items : List Json, Json.ItemsProper items →
    equalItems (ofJsonItems (Json.sortedItems items)) (ofJsonItems items) = true ∧
      equalItems (ofJsonItems items) (ofJsonItems (Json.sortedItems items)) = true
  | [], _ => ⟨rfl, rfl⟩
  | j :: rest, h => by
    obtain ⟨hj, hj'⟩ := equal_ofJson_sorted j h.1
    obtain ⟨hrest, hrest'⟩ := equalItems_ofJson_sorted rest h.2
    simp only [Json.sortedItems, ofJsonItems, equalItems, hj, hj', hrest, hrest', Bool.and_self,
      and_self]
termination_by structural items => items

/-- Sorting the names inside members gives equal values. -/
theorem equalMembers_ofJson_sorted : ∀ members : List (String × Json), Json.MembersProper members →
    ∀ m ∈ members, (ofJson m.2.sorted).equal (ofJson m.2) = true ∧
      (ofJson m.2).equal (ofJson m.2.sorted) = true
  | [], _ => fun _ hm => nomatch hm
  | (_, j) :: rest, h => by
    have hj := equal_ofJson_sorted j h.1
    have hrest := equalMembers_ofJson_sorted rest h.2
    exact List.forall_mem_cons.mpr ⟨hj, hrest⟩
termination_by structural members => members

end

/-! ### All ways at once -/

/-- **All ways to load a document give the same value.** A document that repeats no name inside an
object and holds neither infinities nor NaN is loaded from its YAML tree and by the visitor as one
value `v`, which has every item and every entry where the document has them and makes a float of an
integer exactly when 64 bits with a sign do not hold it. The recursion over the JSON tree gives `v`
too if the tree keeps the members of objects in place. If the tree sorts them by their names, it
gives a value that equals `v` in both directions, and that stands in the order of the sorted
document.

**Proof sketch.** By induction over the document the visitor and the YAML tree do what the recursion
over the JSON tree does, pushing items and inserting entries one after another. Inserting entries
with distinct names keeps them as they stand. Sorting permutes the members of each object, so each
entry of one map finds its partner in the other, and the only value that does not equal itself, NaN,
occurs neither in the document nor as the float of an integer. -/
theorem loaders_agree {t : Json} (ht : t.Proper) :
    ∃ v, t.Loads v ∧ ofYaml t.toYaml = .ok v ∧ deserialize t = v ∧ ofJson t = v ∧
      t.sorted.Loads (ofJson t.sorted) ∧
      (ofJson t.sorted).equal v = true ∧ v.equal (ofJson t.sorted) = true := by
  obtain ⟨hsorted, hsorted'⟩ := equal_ofJson_sorted t ht
  exact ⟨ofJson t, loads_ofJson t ht, ofYaml_toYaml t, deserialize_eq_ofJson t, rfl,
    loads_ofJson t.sorted (Json.proper_sorted t ht), hsorted, hsorted'⟩

section Sample

/-- A document with names out of order and integers on both sides of the limit. -/
def unorderedSample : Json :=
  .object [("max", .unsigned 9223372036854775807),
    ("beyond", .array [.unsigned 9223372036854775808, .signed (-1)]),
    ("inner", .object [("y", .null), ("x", .float ⟨0x3ff8000000000000⟩)])]

/-- It is loaded as one value by every way. -/
theorem loaders_agree_unordered :
    unorderedSample.Proper ∧
      ∃ v, unorderedSample.Loads v ∧ ofYaml unorderedSample.toYaml = .ok v ∧
        deserialize unorderedSample = v ∧ ofJson unorderedSample = v ∧
        unorderedSample.sorted.Loads (ofJson unorderedSample.sorted) ∧
        (ofJson unorderedSample.sorted).equal v = true ∧
        v.equal (ofJson unorderedSample.sorted) = true := by
  have hproper : unorderedSample.Proper := by
    have hfinite : (⟨0x3ff8000000000000⟩ : Binary64).isFinite = true := by decide
    simp [unorderedSample, Json.Proper, Json.MembersProper, Json.ItemsProper, Dict.Distinct,
      Dict.keys, hfinite]
  exact ⟨hproper, loaders_agree hproper⟩

end Sample

end Value

end Intake
