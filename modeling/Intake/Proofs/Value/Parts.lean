import Intake.Proofs.Value.Dict
import Intake.Value.Basic

set_option autoImplicit false

/-!
# The parts of a value

The items of a list and the values of a map are as well formed as the whole and nest no deeper.

## Main definitions

* `Value.Fits` — a well-formed value of at most a given depth.

## Main results

* `Value.Fits.of_mem_list`, `Value.Fits.of_mem_map` — parts of a value that fits fit.
* `Value.induction` — induction over values by their parts.
-/

namespace Intake

namespace Value

/-- Items are well formed one by one. -/
lemma allWellFormed_iff {items : List Value} : AllWellFormed items ↔ ∀ v ∈ items, v.WellFormed := by
  induction items with
  | nil => simp [AllWellFormed]
  | cons v rest ih => simp [AllWellFormed, ih]

/-- The values of entries are well formed one by one. -/
lemma entriesWellFormed_iff {entries : Dict Value} :
    EntriesWellFormed entries ↔ ∀ e ∈ entries, e.2.WellFormed := by
  induction entries with
  | nil => simp [EntriesWellFormed]
  | cons e rest ih =>
    obtain ⟨k, v⟩ := e
    simp [EntriesWellFormed, ih]

/-- A map of distinct keys and well-formed values is well formed. -/
lemma wellFormed_map_iff {entries : Dict Value} :
    (map entries).WellFormed ↔ entries.Distinct ∧ ∀ e ∈ entries, e.2.WellFormed := by
  rw [WellFormed, entriesWellFormed_iff]

/-- The empty map is well formed. -/
lemma wellFormed_empty : (map []).WellFormed := ⟨List.nodup_nil, trivial⟩

/-- A list of well-formed items is well formed. -/
lemma wellFormed_list_iff {items : List Value} :
    (list items).WellFormed ↔ ∀ v ∈ items, v.WellFormed := by
  rw [WellFormed, allWellFormed_iff]

/-- No item nests deeper than all items together. -/
lemma depth_le_depthOfItems {items : List Value} {v : Value} (h : v ∈ items) :
    v.depth ≤ depthOfItems items := by
  induction items with
  | nil => cases h
  | cons w rest ih =>
    rw [depthOfItems]
    rcases List.mem_cons.mp h with rfl | hmem
    · exact Nat.le_max_left _ _
    · exact Nat.le_trans (ih hmem) (Nat.le_max_right _ _)

/-- No value of an entry nests deeper than all entries together. -/
lemma depth_le_depthOfEntries {entries : Dict Value} {e : String × Value} (h : e ∈ entries) :
    e.2.depth ≤ depthOfEntries entries := by
  induction entries with
  | nil => cases h
  | cons x rest ih =>
    obtain ⟨k, w⟩ := x
    rw [depthOfEntries]
    rcases List.mem_cons.mp h with rfl | hmem
    · exact Nat.le_max_left _ _
    · exact Nat.le_trans (ih hmem) (Nat.le_max_right _ _)

/-- A value repeats no key and nests at most so deep. -/
structure Fits (n : Nat) (v : Value) : Prop where
  wellFormed : v.WellFormed
  depth_le : v.depth ≤ n

namespace Fits

variable {n : Nat}

/-- Null fits anywhere. -/
lemma null : Value.null.Fits n := ⟨trivial, Nat.zero_le n⟩

/-- The items of a list that fits fit. -/
lemma of_mem_list {items : List Value} (h : (list items).Fits n) {v : Value} (hv : v ∈ items) :
    v.Fits n := by
  refine ⟨wellFormed_list_iff.mp h.wellFormed v hv, ?_⟩
  have hdepth : depthOfItems items + 1 ≤ n := h.depth_le
  exact Nat.le_trans (depth_le_depthOfItems hv) (by omega)

/-- The values of a map that fits fit. -/
lemma of_mem_map {entries : Dict Value} (h : (map entries).Fits n) {e : String × Value}
    (he : e ∈ entries) : e.2.Fits n := by
  refine ⟨(wellFormed_map_iff.mp h.wellFormed).2 e he, ?_⟩
  have hdepth : depthOfEntries entries + 1 ≤ n := h.depth_le
  exact Nat.le_trans (depth_le_depthOfEntries he) (by omega)

end Fits

/-- The values of a well-formed map fit the depth of its entries. -/
lemma fits_of_mem {entries : Dict Value} (h : (map entries).WellFormed) {e : String × Value}
    (he : e ∈ entries) : e.2.Fits (depthOfEntries entries) :=
  ⟨(wellFormed_map_iff.mp h).2 e he, depth_le_depthOfEntries he⟩

/-- What stands under a key of a well-formed map, or null, fits the depth of its entries. -/
lemma fits_find? {entries : Dict Value} (h : (map entries).WellFormed) (key : String) :
    ((entries.find? key).getD .null).Fits (depthOfEntries entries) := by
  cases hv : entries.find? key with
  | none => exact .null
  | some v => exact fits_of_mem h (Dict.mem_of_find? hv)

/-- Induction over values, where a list is taken apart into its items and a map into its values. -/
@[elab_as_elim]
theorem induction {motive : Value → Prop} (null : motive .null) (bool : ∀ b, motive (.bool b))
    (int : ∀ n, motive (.int n)) (float : ∀ x, motive (.float x))
    (string : ∀ s, motive (.string s)) (bytes : ∀ data, motive (.bytes data))
    (list : ∀ items, (∀ v ∈ items, motive v) → motive (.list items))
    (map : ∀ entries, (∀ e ∈ entries, motive e.2) → motive (.map entries)) (v : Value) :
    motive v := by
  have again (w : Value) (_ : sizeOf w < sizeOf v) : motive w :=
    Value.induction null bool int float string bytes list map w
  match v with
  | .null => exact null
  | .bool b => exact bool b
  | .int n => exact int n
  | .float x => exact float x
  | .string s => exact string s
  | .bytes data => exact bytes data
  | .list items =>
    refine list items fun w hw => again w ?_
    have hitem := List.sizeOf_lt_of_mem hw
    rw [Value.list.sizeOf_spec]
    omega
  | .map entries =>
    refine map entries fun e he => again e.2 ?_
    have hentry := List.sizeOf_lt_of_mem he
    have hvalue : sizeOf e = 1 + sizeOf e.1 + sizeOf e.2 := rfl
    rw [Value.map.sizeOf_spec]
    omega
termination_by sizeOf v

end Value

end Intake
