import Intake.Value.Dict
import Mathlib.Data.List.Forall2
import Mathlib.Data.List.Nodup
import Mathlib.Data.String.Basic
import Mathlib.Tactic.Lemma

set_option autoImplicit false

/-!
# Laws of dictionaries

What insertion does to the look-up, the keys and the entries of a dictionary, what items gather in
one, and how one is sorted.

## Main definitions

* `Dict.gather` — the entries that some items give, each at most one.
* `Dict.Ascending` — no key is larger than a later one.

## Main results

* `Dict.find?_insert`, `Dict.keys_insert` — insertion, by its look-ups and by its keys.
* `Dict.insert_of_notMem` — a new key goes to the end.
* `Dict.Distinct.insert`, `Dict.distinct_ofEntries` — insertion repeats no key.
* `Dict.Distinct.ofEntries_eq` — entries with distinct keys make themselves as a dictionary.
* `Dict.find?_of_mem` — entries with distinct keys are found.
* `Dict.find?_ofEntries` — what entries that may repeat keys make of one of their keys.
* `Dict.find?_gather` — what is gathered under the key of an item.
* `Dict.gather_of_forall_iff` — items that all give a value are gathered one by one.
* `Dict.sorted_perm`, `Dict.ascending_sorted`, `Dict.Ascending.sorted_eq` — sorting.
-/

namespace Intake

namespace Dict

variable {α β : Type}

/-! ### Looking up -/

/-- Insertion changes the look-up of its own key only. -/
lemma find?_insert (d : Dict α) (key : String) (value : α) (other : String) :
    (d.insert key value).find? other = if other = key then some value else d.find? other := by
  by_cases h : other = key
  · rw [if_pos h, h, find?_insert_self]
  · rw [if_neg h, find?_insert_of_ne d value h]

/-- A look-up in joined entries tries the front first. -/
lemma find?_append (d e : Dict α) (key : String) :
    Dict.find? (d ++ e) key = (d.find? key).or (e.find? key) := by
  induction d with
  | nil => rfl
  | cons x rest ih =>
    obtain ⟨k, v⟩ := x
    by_cases h : k = key
    · simp [find?, h]
    · simpa [find?, h] using ih

/-- A key has no value exactly when it is not among the keys. -/
lemma find?_eq_none_iff {d : Dict α} {key : String} : d.find? key = none ↔ key ∉ d.keys := by
  induction d with
  | nil => simp [find?, keys]
  | cons x rest ih =>
    obtain ⟨k, v⟩ := x
    by_cases h : k = key
    · simp [find?, keys, h]
    · simpa [find?, keys, h, Ne.symm h] using ih

/-- Every key has a value. -/
lemma exists_find?_of_mem_keys {d : Dict α} {key : String} (h : key ∈ d.keys) :
    ∃ v, d.find? key = some v := by
  cases hv : d.find? key with
  | none => exact absurd h (find?_eq_none_iff.mp hv)
  | some v => exact ⟨v, rfl⟩

/-- What is found is an entry. -/
lemma mem_of_find? {d : Dict α} {key : String} {v : α} (h : d.find? key = some v) :
    (key, v) ∈ d := by
  induction d with
  | nil => cases h
  | cons x rest ih =>
    obtain ⟨k, w⟩ := x
    by_cases hk : k = key
    · obtain rfl : w = v := by simpa [find?, hk] using h
      simp [hk]
    · exact List.mem_cons_of_mem _ (ih (by simpa [find?, hk] using h))

/-- An entry is found if no key occurs twice. -/
lemma find?_of_mem {d : Dict α} {key : String} {v : α} (hd : d.Distinct) (h : (key, v) ∈ d) :
    d.find? key = some v := by
  induction d with
  | nil => cases h
  | cons x rest ih =>
    obtain ⟨k, w⟩ := x
    obtain ⟨hk, hrest⟩ := List.nodup_cons.mp hd
    rcases List.mem_cons.mp h with heq | hmem
    · obtain ⟨rfl, rfl⟩ := Prod.mk.inj heq
      simp [find?]
    · have hne : k ≠ key := by
        rintro rfl
        exact hk (List.mem_map.mpr ⟨(k, v), hmem, rfl⟩)
      simpa [find?, hne] using ih hrest hmem

/-! ### Keys -/

@[simp] lemma keys_nil : Dict.keys ([] : Dict α) = [] := rfl

@[simp] lemma keys_cons (e : String × α) (d : Dict α) : Dict.keys (e :: d) = e.1 :: Dict.keys d :=
  rfl

@[simp] lemma keys_append (d e : Dict α) : Dict.keys (d ++ e) = d.keys ++ e.keys := by
  simp [keys]

/-- Mapping the values keeps the keys. -/
@[simp] lemma keys_map (f : α → β) (d : Dict α) :
    Dict.keys (d.map fun e => (e.1, f e.2)) = d.keys := by
  simp [keys, Function.comp_def]

/-- Entries that are related to entries under the same keys have these keys. -/
lemma keys_eq_of_forall₂ {P : String × α → String × β → Prop}
    (hP : ∀ e b, P e b → b.1 = e.1) {es : Dict α} {bs : Dict β} (h : List.Forall₂ P es bs) :
    bs.keys = es.keys := by
  induction h with
  | nil => rfl
  | cons hb _ ih => rw [keys_cons, keys_cons, hP _ _ hb, ih]

/-- A key that is not there is inserted at the end. -/
lemma insert_of_notMem {d : Dict α} {key : String} (value : α) (h : key ∉ d.keys) :
    d.insert key value = d ++ [(key, value)] := by
  induction d with
  | nil => rfl
  | cons x rest ih =>
    obtain ⟨k, v⟩ := x
    obtain ⟨hk, hrest⟩ : key ≠ k ∧ key ∉ Dict.keys rest := by simpa using h
    have hne : k ≠ key := Ne.symm hk
    simp [insert, hne, ih hrest]

/-- Insertion keeps the keys and their order, and puts a new one at the end. -/
lemma keys_insert (d : Dict α) (key : String) (value : α) :
    (d.insert key value).keys = if key ∈ d.keys then d.keys else d.keys ++ [key] := by
  induction d with
  | nil => simp [insert, keys]
  | cons x rest ih =>
    obtain ⟨k, v⟩ := x
    by_cases h : k = key
    · simp [insert, h]
    · simp only [insert, if_neg h, keys_cons, ih, List.mem_cons, Ne.symm h, false_or]
      split_ifs <;> rfl

/-- A second value under a key takes the place of the first one. -/
lemma insert_insert (d : Dict α) (key : String) (v w : α) :
    (d.insert key v).insert key w = d.insert key w := by
  induction d with
  | nil => simp [insert]
  | cons e rest ih =>
    obtain ⟨k, x⟩ := e
    by_cases hk : k = key
    · simp [insert, hk]
    · simpa [insert, hk] using ih

/-- The keys after an insertion are the new one and the old ones. -/
lemma mem_keys_insert {d : Dict α} {key other : String} {value : α} :
    other ∈ (d.insert key value).keys ↔ other = key ∨ other ∈ d.keys := by
  rw [keys_insert]
  split_ifs with h
  · constructor
    · exact Or.inr
    · rintro (rfl | ho)
      · exact h
      · exact ho
  · simp [or_comm]

/-! ### Distinct keys -/

/-- The empty dictionary repeats no key. -/
lemma distinct_nil : Dict.Distinct ([] : Dict α) := List.nodup_nil

/-- Insertion repeats no key. -/
lemma Distinct.insert {d : Dict α} (h : d.Distinct) (key : String) (value : α) :
    (d.insert key value).Distinct := by
  unfold Distinct
  rw [keys_insert]
  split_ifs with hk
  · exact h
  · exact List.nodup_append.mpr ⟨h, by simp, by
      intro a ha b hb
      obtain rfl := List.mem_singleton.mp hb
      exact fun hab => hk (hab ▸ ha)⟩

/-- Any number of insertions repeat no key. -/
lemma Distinct.foldl_insert {γ : Type} {d : Dict α} (h : d.Distinct) (key : γ → String)
    (value : γ → α) (entries : List γ) :
    (entries.foldl (fun d e => d.insert (key e) (value e)) d).Distinct := by
  induction entries generalizing d with
  | nil => exact h
  | cons e rest ih => exact ih (h.insert _ _)

/-- A dictionary built by insertion repeats no key. -/
lemma distinct_ofEntries (entries : List (String × α)) : (Dict.ofEntries entries).Distinct :=
  distinct_nil.foldl_insert _ _ entries

/-- Removing a key leaves the entries under the other keys in their order. -/
lemma Distinct.erase_eq {d : Dict α} (h : d.Distinct) (key : String) :
    d.erase key = d.filter fun e => e.1 != key := by
  induction d with
  | nil => rfl
  | cons e rest ih =>
    obtain ⟨k, v⟩ := e
    obtain ⟨hk, hrest⟩ := List.nodup_cons.mp h
    by_cases heq : k = key
    · subst heq
      have hothers : ∀ e ∈ rest, (e.1 != k) = true := by
        intro e he
        have hne : e.1 ≠ k := fun hsame => hk (List.mem_map.mpr ⟨e, he, hsame⟩)
        simpa using hne
      simp [erase, List.filter_eq_self.mpr hothers]
    · simpa [erase, heq] using ih hrest

/-- Some entries of a dictionary repeat no key. -/
lemma Distinct.filter {d : Dict α} (h : d.Distinct) (p : String × α → Bool) :
    Dict.Distinct (d.filter p) :=
  List.Nodup.sublist (List.filter_sublist.map Prod.fst) h

/-- An entry after an insertion is the new one or was there before. -/
lemma mem_insert {d : Dict α} {key : String} {value : α} {e : String × α}
    (h : e ∈ d.insert key value) : e ∈ d ∨ e = (key, value) := by
  induction d with
  | nil => exact .inr (by simpa [insert] using h)
  | cons x rest ih =>
    obtain ⟨k, v⟩ := x
    rw [insert] at h
    split_ifs at h with hk
    · rcases List.mem_cons.mp h with rfl | hrest
      · exact .inr (by rw [hk])
      · exact .inl (List.mem_cons_of_mem _ hrest)
    · rcases List.mem_cons.mp h with rfl | hrest
      · exact .inl List.mem_cons_self
      · rcases ih hrest with hmem | hnew
        · exact .inl (List.mem_cons_of_mem _ hmem)
        · exact .inr hnew

/-- A dictionary built by insertion holds nothing but the entries inserted. -/
lemma mem_ofEntries {entries : List (String × α)} {e : String × α}
    (h : e ∈ Dict.ofEntries entries) : e ∈ entries := by
  have hfold : ∀ d : Dict α, e ∈ entries.foldl (fun d e => d.insert e.1 e.2) d →
      e ∈ d ∨ e ∈ entries := by
    clear h
    induction entries with
    | nil => exact fun _ hd => .inl hd
    | cons x rest ih =>
      intro d hd
      rcases ih _ hd with hmem | hmem
      · rcases mem_insert hmem with hold | rfl
        · exact .inl hold
        · exact .inr List.mem_cons_self
      · exact .inr (List.mem_cons_of_mem _ hmem)
  rcases hfold [] h with hnil | hmem
  · exact absurd hnil List.not_mem_nil
  · exact hmem

/-- The keys after some insertions are the old ones and the new ones. -/
lemma mem_keys_foldl_insert {d entries : Dict α} {key : String} :
    key ∈ (entries.foldl (fun d e => d.insert e.1 e.2) d).keys ↔
      key ∈ d.keys ∨ key ∈ entries.keys := by
  induction entries generalizing d with
  | nil => simp
  | cons e rest ih =>
    rw [List.foldl_cons, ih, mem_keys_insert, keys_cons, List.mem_cons, or_left_comm, or_assoc]

/-- A dictionary built by insertion has the keys of its entries. -/
lemma mem_keys_ofEntries {entries : Dict α} {key : String} :
    key ∈ (Dict.ofEntries entries).keys ↔ key ∈ entries.keys := by
  rw [Dict.ofEntries, mem_keys_foldl_insert, keys_nil, or_iff_right List.not_mem_nil]

/-- A value that stands alone under a key among some entries is found there when they are
inserted. -/
lemma find?_ofEntries {entries : Dict α} {key : String} {v : α} (h : (key, v) ∈ entries)
    (hv : ∀ w, (key, w) ∈ entries → w = v) : (Dict.ofEntries entries).find? key = some v := by
  have hkey : key ∈ (Dict.ofEntries entries).keys :=
    mem_keys_ofEntries.mpr (List.mem_map.mpr ⟨(key, v), h, rfl⟩)
  obtain ⟨w, hw⟩ := exists_find?_of_mem_keys hkey
  rw [hw, hv w (mem_ofEntries (mem_of_find? hw))]

/-- Entries with new and distinct keys are inserted one after another at the end. -/
lemma foldl_insert_eq_append {d entries : Dict α} (h : entries.Distinct)
    (hnew : ∀ key ∈ entries.keys, key ∉ d.keys) :
    entries.foldl (fun d e => d.insert e.1 e.2) d = d ++ entries := by
  induction entries generalizing d with
  | nil => simp
  | cons e rest ih =>
    obtain ⟨he, hrest⟩ := List.nodup_cons.mp h
    obtain ⟨hfirst, hnew⟩ := List.forall_mem_cons.mp hnew
    have hnext : ∀ key ∈ Dict.keys rest, key ∉ (d ++ [e]).keys := by
      intro key hkey hmem
      rw [keys_append, List.mem_append, keys_cons, keys_nil, List.mem_singleton] at hmem
      rcases hmem with hold | rfl
      · exact hnew key hkey hold
      · exact he hkey
    rw [List.foldl_cons, insert_of_notMem e.2 hfirst, ih hrest hnext, List.append_assoc]
    rfl

/-- Entries with distinct keys make themselves as a dictionary. -/
lemma Distinct.ofEntries_eq {d : Dict α} (h : d.Distinct) : Dict.ofEntries d = d :=
  foldl_insert_eq_append h fun _ _ => List.not_mem_nil

/-! ### Gathering -/

/-- The entries that items give, each under its key or none. -/
def gather {γ : Type} (key : γ → String) (value : γ → Option α) (items : List γ) : Dict α :=
  items.filterMap fun x => (value x).map fun v => (key x, v)

section Gather

variable {γ : Type} {key : γ → String} {value : γ → Option α}

@[simp] lemma gather_nil : gather key value [] = [] := rfl

/-- The first item gives the first entry, if any. -/
lemma gather_cons (x : γ) (items : List γ) :
    gather key value (x :: items) =
      (match value x with
      | some v => [(key x, v)]
      | none => []) ++ gather key value items := by
  cases hx : value x <;> simp [gather, hx]

/-- Joined items gather one part after the other. -/
lemma gather_append (items more : List γ) :
    gather key value (items ++ more) = gather key value items ++ gather key value more :=
  List.filterMap_append

/-- An entry is gathered when an item gives it. -/
lemma mem_gather {items : List γ} {e : String × α} :
    e ∈ gather key value items ↔ ∃ x ∈ items, key x = e.1 ∧ value x = some e.2 := by
  simp [gather, Prod.ext_iff, and_comm]

/-- Gathered entries stand under keys of items. -/
lemma mem_keys_gather {items : List γ} {k : String} (h : k ∈ (gather key value items).keys) :
    k ∈ items.map key := by
  obtain ⟨e, he, rfl⟩ := List.mem_map.mp h
  obtain ⟨x, hx, hk, -⟩ := mem_gather.mp he
  exact List.mem_map.mpr ⟨x, hx, hk⟩

/-- Items with distinct keys give distinct entries. -/
lemma distinct_gather {items : List γ} (h : (items.map key).Nodup) :
    (gather key value items).Distinct := by
  induction items with
  | nil => exact distinct_nil
  | cons x rest ih =>
    obtain ⟨hx, hrest⟩ := List.nodup_cons.mp h
    rw [gather_cons]
    cases value x with
    | none => exact ih hrest
    | some v => exact List.nodup_cons.mpr ⟨fun hmem => hx (mem_keys_gather hmem), ih hrest⟩

/-- Nothing is gathered under a key of no item. -/
lemma find?_gather_of_notMem {items : List γ} {k : String} (h : k ∉ items.map key) :
    (gather key value items).find? k = none :=
  find?_eq_none_iff.mpr fun hmem => h (mem_keys_gather hmem)

/-- Under the key of an item stands what it gives. -/
theorem find?_gather {items : List γ} (h : (items.map key).Nodup) {x : γ} (hx : x ∈ items) :
    (gather key value items).find? (key x) = value x := by
  induction items with
  | nil => cases hx
  | cons y rest ih =>
    obtain ⟨hy, hrest⟩ := List.nodup_cons.mp h
    rw [gather_cons, find?_append]
    rcases List.mem_cons.mp hx with rfl | hmem
    · cases value x with
      | none => simpa using find?_gather_of_notMem hy
      | some v => simp [find?]
    · have hne : key y ≠ key x := fun heq => hy (heq ▸ List.mem_map_of_mem hmem)
      cases value y <;> simp [find?, hne, ih hrest hmem]

/-- Items that give the same give the same entries. -/
lemma gather_congr {value' : γ → Option α} {items : List γ}
    (h : ∀ x ∈ items, value x = value' x) : gather key value items = gather key value' items :=
  List.filterMap_congr fun x hx => by rw [h x hx]

/-- Items that all give a value are gathered one by one. -/
lemma gather_of_forall_iff {items : List γ} {out : Dict α} :
    ((∀ x ∈ items, ∃ v, value x = some v) ∧ out = gather key value items) ↔
      List.Forall₂ (fun x e => e.1 = key x ∧ value x = some e.2) items out := by
  induction items generalizing out with
  | nil => simp
  | cons x rest ih =>
    rw [List.forall_mem_cons, gather_cons, List.forall₂_cons_left_iff]
    cases hx : value x with
    | none => simp
    | some v =>
      simp only [Option.some.injEq, exists_eq', true_and, ← ih, Prod.exists]
      constructor
      · rintro ⟨hrest, rfl⟩
        exact ⟨key x, v, _, ⟨rfl, rfl⟩, ⟨hrest, rfl⟩, rfl⟩
      · rintro ⟨_, _, _, ⟨rfl, rfl⟩, ⟨hrest, rfl⟩, rfl⟩
        exact ⟨hrest, rfl⟩

end Gather

/-! ### Sorting -/

/-- No key is larger than a later one. -/
def Ascending (d : Dict α) : Prop := d.keys.Pairwise (· ≤ ·)

/-- Insertion in order keeps the entries. -/
lemma insertSorted_perm (key : String) (value : α) (d : Dict α) :
    (insertSorted key value d).Perm ((key, value) :: d) := by
  induction d with
  | nil => exact .refl _
  | cons e rest ih =>
    obtain ⟨k, v⟩ := e
    rw [insertSorted]
    split_ifs
    · exact (ih.cons (k, v)).trans (.swap ..)
    · exact .refl _

/-- Insertion in order keeps entries in order. -/
lemma Ascending.insertSorted {d : Dict α} (h : d.Ascending) (key : String) (value : α) :
    (insertSorted key value d).Ascending := by
  induction d with
  | nil => exact List.pairwise_singleton _ _
  | cons e rest ih =>
    obtain ⟨k, v⟩ := e
    obtain ⟨hk, hrest⟩ := List.pairwise_cons.mp h
    rw [Dict.insertSorted]
    split_ifs with hlt
    · refine List.pairwise_cons.mpr ⟨fun x hx => ?_, ih hrest⟩
      have hkeys : x ∈ key :: Dict.keys rest :=
        ((insertSorted_perm key value rest).map Prod.fst).mem_iff.mp hx
      rcases List.mem_cons.mp hkeys with rfl | hmem
      · exact le_of_lt hlt
      · exact hk x hmem
    · have hle : key ≤ k := not_lt.mp hlt
      refine List.pairwise_cons.mpr ⟨fun x hx => ?_, h⟩
      rcases List.mem_cons.mp hx with rfl | hmem
      · exact hle
      · exact le_trans hle (hk x hmem)

/-- Sorting keeps the entries. -/
theorem sorted_perm (d : Dict α) : d.sorted.Perm d := by
  induction d with
  | nil => exact .refl _
  | cons e rest ih => exact (insertSorted_perm e.1 e.2 _).trans (ih.cons e)

/-- Sorted entries are in order. -/
theorem ascending_sorted (d : Dict α) : d.sorted.Ascending := by
  induction d with
  | nil => exact .nil
  | cons e rest ih => exact ih.insertSorted e.1 e.2

/-- Sorting keeps entries in order as they are. -/
theorem Ascending.sorted_eq {d : Dict α} (h : d.Ascending) : d.sorted = d := by
  induction d with
  | nil => rfl
  | cons e rest ih =>
    obtain ⟨k, v⟩ := e
    obtain ⟨hk, hrest⟩ := List.pairwise_cons.mp h
    have hcons : sorted ((k, v) :: rest) = Dict.insertSorted k v (sorted rest) := rfl
    rw [hcons, ih hrest]
    cases rest with
    | nil => rfl
    | cons x rest => rw [Dict.insertSorted, if_neg (not_lt.mpr (hk x.1 List.mem_cons_self))]

end Dict

end Intake
