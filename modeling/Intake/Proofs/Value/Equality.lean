import Intake.Proofs.Pairwise
import Intake.Proofs.Value.JsonText
import Mathlib.Data.List.Perm.Basic
import Mathlib.Data.List.Perm.Subperm

set_option autoImplicit false

/-!
# Equality of values as a partial equivalence

Two maps are equal when they have as many entries and each key of the first is found in the second
with an equal value. That this does not depend on which map comes first is a matter of counting: the
entries that are found are entries of the second map, no two of them share a key, and there are as
many as there can be. So they are all of them, in another order.

## Main definitions

* `Dict.Matches` — two dictionaries whose entries are related one by one, in some order.
* `Value.Agree` — what equality asks of two values, by their outermost constructors.
* `Value.NaNFree` — values without NaN.
* `Value.Reordered` — values with the entries of some maps inside in another order.

## Main results

* `Dict.matches_of_find?`, `Dict.Matches.find?` — looking keys up and matching entries in some order
  come to the same.
* `Value.equal_iff_agree` — equality, by the outermost constructors.
* `Value.equal_symm`, `Value.equal_trans`, `Value.equal_self_iff` — equality of values is symmetric
  and transitive, and reflexive where there is no NaN.
* `Value.equal_of_reordered` — equality does not see the order of entries.
* `Value.equal_partial_equivalence` — all of them.
-/

namespace Intake

/-! ### Matching dictionaries -/

namespace Dict

variable {α β : Type} {R : α → β → Prop} {es : Dict α} {fs : Dict β}

/-- Two entries with the same key and related values. -/
inductive EntryRel (R : α → β → Prop) : String × α → String × β → Prop where
  | intro {key : String} {v : α} {w : β} (value : R v w) : EntryRel R (key, v) (key, w)

/-- The entries of a dictionary are related one by one to those of another one in some order. -/
def Matches (R : α → β → Prop) (es : Dict α) (fs : Dict β) : Prop :=
  ∃ gs : Dict β, List.Forall₂ (EntryRel R) es gs ∧ gs.Perm fs

/-- Entries that are related one by one have the same keys. -/
lemma keys_eq_of_entryRel {gs : Dict β} (h : List.Forall₂ (EntryRel R) es gs) :
    gs.keys = es.keys := by
  refine keys_eq_of_forall₂ (fun e g hg => ?_) h
  obtain ⟨-⟩ := hg
  rfl

/-- A dictionary that matches one with distinct keys has distinct keys. -/
lemma Matches.distinct (h : Matches R es fs) (hes : es.Distinct) : fs.Distinct := by
  obtain ⟨gs, hentries, horder⟩ := h
  have hgs : gs.Distinct := by
    rw [Dict.Distinct, keys_eq_of_entryRel hentries]
    exact hes
  exact distinct_of_perm hgs horder

/-- Dictionaries that match have as many entries, and each key of the first is found in the second
with a related value. -/
lemma Matches.find? (hfs : fs.Distinct) (h : Matches R es fs) :
    es.length = fs.length ∧ ∀ e ∈ es, ∃ w, fs.find? e.1 = some w ∧ R e.2 w := by
  obtain ⟨gs, hentries, horder⟩ := h
  refine ⟨hentries.length_eq.trans horder.length_eq, fun e he => ?_⟩
  obtain ⟨g, hg, hrel⟩ := exists_of_mem_forall₂ hentries he
  obtain ⟨hvalue⟩ := hrel
  exact ⟨_, find?_of_mem hfs (horder.mem_iff.mp hg), hvalue⟩

/-- **Looking keys up is matching.** If dictionaries have as many entries, the keys of the first are
distinct and each is found in the second with a related value, then the dictionaries match.

**Proof sketch.** The entries that are found have the keys of the first dictionary, so they are
distinct, and they are entries of the second one. As there are as many of them as the second one
has entries, they are its entries in another order. -/
lemma matches_of_find? (hes : es.Distinct) (hlength : es.length = fs.length)
    (h : ∀ e ∈ es, ∃ w, fs.find? e.1 = some w ∧ R e.2 w) : Matches R es fs := by
  have hfound : ∀ e ∈ es, ∃ g, g ∈ fs ∧ EntryRel R e g := by
    intro e he
    obtain ⟨w, hw, hvalue⟩ := h e he
    exact ⟨(e.1, w), mem_of_find? hw, .intro hvalue⟩
  obtain ⟨gs, hgs⟩ := exists_forall₂ hfound
  have hentries : List.Forall₂ (EntryRel R) es gs := hgs.imp fun _ _ hg => hg.2
  have hdistinct : gs.Nodup := by
    refine List.Nodup.of_map Prod.fst ?_
    rw [← keys, keys_eq_of_entryRel hentries]
    exact hes
  have hsubset : gs ⊆ fs := by
    intro g hg
    obtain ⟨e, -, hmem, -⟩ := exists_mem_of_forall₂ hgs hg
    exact hmem
  have hcount : fs.length ≤ gs.length := by rw [← hlength, hgs.length_eq]
  have horder : gs.Perm fs := (List.subperm_of_subset hdistinct hsubset).perm_of_length_le hcount
  exact ⟨gs, hentries, horder⟩

/-- A dictionary matches back if its values are related back. -/
lemma Matches.symm {S : β → α → Prop} (h : Matches R es fs)
    (hback : ∀ e ∈ es, ∀ w, R e.2 w → S w e.2) : Matches S fs es := by
  obtain ⟨gs, hentries, horder⟩ := h
  have hflipped : List.Forall₂ (fun e g => EntryRel S g e) es gs := by
    refine forall₂_imp_of_mem hentries fun e he g hrel => ?_
    obtain ⟨hvalue⟩ := hrel
    exact .intro (hback _ he _ hvalue)
  exact List.perm_comp_forall₂ horder.symm hflipped.flip

/-- A dictionary matches in another relation if its values are related so, too. -/
lemma Matches.imp {S : α → β → Prop} (h : Matches R es fs)
    (himp : ∀ e ∈ es, ∀ w, R e.2 w → S e.2 w) : Matches S es fs := by
  obtain ⟨gs, hentries, horder⟩ := h
  refine ⟨gs, forall₂_imp_of_mem hentries fun e he g hrel => ?_, horder⟩
  obtain ⟨hvalue⟩ := hrel
  exact .intro (himp _ he _ hvalue)

end Dict

/-! ### Numbers -/

namespace Binary64

variable {x y z : Binary64}

/-- Equal numbers have the same place. -/
lemma equal_iff : x.equal y = true ↔ ∃ r, x.rank? = some r ∧ y.rank? = some r := by
  rw [equal]
  cases x.rank? with
  | none => simp
  | some r =>
    cases y.rank? with
    | none => simp
    | some s => simp [eq_comm (a := s)]

/-- Every number but NaN equals itself. -/
lemma equal_self_iff : x.equal x = true ↔ x.isNaN = false := by
  constructor
  · intro h
    obtain ⟨r, hr, -⟩ := equal_iff.mp h
    by_contra hnan
    rw [rank?_of_isNaN (by simpa using hnan)] at hr
    cases hr
  · exact equal_self_of_not_isNaN

end Binary64

namespace Value

/-! ### Equality by the outermost constructors -/

/-- What equality asks of two values: the same constructor, and equality of what is inside. -/
inductive Agree : Value → Value → Prop where
  | null : Agree .null .null
  | bool (b : Bool) : Agree (.bool b) (.bool b)
  | int (n : Int64) : Agree (.int n) (.int n)
  | float {x y : Binary64} (number : x.equal y = true) : Agree (.float x) (.float y)
  | string (s : String) : Agree (.string s) (.string s)
  | bytes (data : List UInt8) : Agree (.bytes data) (.bytes data)
  | list {xs ys : List Value} (items : List.Forall₂ (fun v w => v.equal w = true) xs ys) :
      Agree (.list xs) (.list ys)
  | map {es fs : Dict Value} (size : es.length = fs.length)
      (entries : ∀ e ∈ es, ∃ w, fs.find? e.1 = some w ∧ e.2.equal w = true) :
      Agree (.map es) (.map fs)

/-- Lists are equal item by item. -/
lemma equalItems_iff {xs ys : List Value} :
    equalItems xs ys = true ↔ List.Forall₂ (fun v w => v.equal w = true) xs ys := by
  induction xs generalizing ys with
  | nil => cases ys <;> simp [equalItems]
  | cons x xs ih => cases ys <;> simp [equalItems, ih]

/-- Entries stand within a map exactly when it has an equal value under each of their keys. -/
lemma entriesWithin_iff {es fs : Dict Value} :
    entriesWithin es fs = true ↔ ∀ e ∈ es, ∃ w, fs.find? e.1 = some w ∧ e.2.equal w = true := by
  refine ⟨fun h => ?_, entriesWithin_of_forall⟩
  induction es with
  | nil => exact List.forall_mem_nil _
  | cons e rest ih =>
    obtain ⟨k, v⟩ := e
    obtain ⟨hfirst, hrest⟩ := (Bool.and_eq_true _ _).mp h
    refine List.forall_mem_cons.mpr ⟨?_, ih hrest⟩
    cases hw : fs.find? k with
    | none => simp [hw] at hfirst
    | some w => exact ⟨w, rfl, by simpa [hw] using hfirst⟩

/-- **Equality, by the outermost constructors.** -/
theorem equal_iff_agree {u v : Value} : u.equal v = true ↔ u.Agree v := by
  constructor
  · intro h
    cases u <;> cases v
    case null.null => exact .null
    case bool.bool => exact beq_iff_eq.mp h ▸ .bool _
    case int.int => exact beq_iff_eq.mp h ▸ .int _
    case float.float => exact .float h
    case string.string => exact beq_iff_eq.mp h ▸ .string _
    case bytes.bytes => exact beq_iff_eq.mp h ▸ .bytes _
    case list.list => exact .list (equalItems_iff.mp h)
    case map.map =>
      obtain ⟨hlength, hwithin⟩ := (Bool.and_eq_true _ _).mp h
      exact .map (beq_iff_eq.mp hlength) (entriesWithin_iff.mp hwithin)
    all_goals cases h
  · intro h
    cases h with
    | null => rfl
    | bool b => exact beq_self_eq_true b
    | int n => exact beq_self_eq_true n
    | float number => exact number
    | string s => exact beq_self_eq_true s
    | bytes data => exact beq_self_eq_true data
    | list items => exact equalItems_iff.mpr items
    | map size entries => rw [equal, size, beq_self_eq_true, entriesWithin_iff.mpr entries]; rfl

/-! ### Symmetry and transitivity -/

/-- Equality is symmetric for values that repeat no key. -/
theorem equal_symm {u v : Value} (hu : u.WellFormed) (h : u.equal v = true) :
    v.equal u = true := by
  induction u using Value.induction generalizing v with
  | null | bool | int | string | bytes =>
    cases equal_iff_agree.mp h
    exact h
  | float x =>
    cases equal_iff_agree.mp h with
    | float number =>
      obtain ⟨r, hx, hy⟩ := Binary64.equal_iff.mp number
      exact Binary64.equal_iff.mpr ⟨r, hy, hx⟩
  | list xs ih =>
    cases equal_iff_agree.mp h with
    | list items =>
      have hback : ∀ x ∈ xs, ∀ y, x.equal y = true → y.equal x = true :=
        fun x hx y => ih x hx (wellFormed_list_iff.mp hu x hx)
      exact equal_iff_agree.mpr (.list (forall₂_imp_of_mem items hback).flip)
  | map es ih =>
    cases equal_iff_agree.mp h with
    | map size entries =>
      obtain ⟨hdistinct, hvalues⟩ := wellFormed_map_iff.mp hu
      have hmatches : Dict.Matches (fun v w : Value => v.equal w = true) es _ :=
        Dict.matches_of_find? hdistinct size entries
      have hback : Dict.Matches (fun w v : Value => w.equal v = true) _ es :=
        hmatches.symm fun e he w => ih e he (hvalues e he)
      obtain ⟨hlength, hfound⟩ := hback.find? hdistinct
      exact equal_iff_agree.mpr (.map hlength hfound)

/-- Equality is transitive. -/
theorem equal_trans {u v w : Value} (huv : u.equal v = true) (hvw : v.equal w = true) :
    u.equal w = true := by
  induction u using Value.induction generalizing v w with
  | null | bool | int | string | bytes =>
    cases equal_iff_agree.mp huv
    exact hvw
  | float x =>
    cases equal_iff_agree.mp huv with
    | float huv =>
      cases equal_iff_agree.mp hvw with
      | float hvw =>
        obtain ⟨r, hx, hy⟩ := Binary64.equal_iff.mp huv
        obtain ⟨s, hy', hz⟩ := Binary64.equal_iff.mp hvw
        obtain rfl : r = s := Option.some.inj (hy.symm.trans hy')
        exact Binary64.equal_iff.mpr ⟨r, hx, hz⟩
  | list xs ih =>
    cases equal_iff_agree.mp huv with
    | list hxs =>
      cases equal_iff_agree.mp hvw with
      | list hys =>
        have hpath := forall₂_comp_iff.mpr ⟨_, hxs, hys⟩
        refine equal_iff_agree.mpr (.list (forall₂_imp_of_mem hpath fun x hx z hxz => ?_))
        obtain ⟨y, hxy, hyz⟩ := hxz
        exact ih x hx hxy hyz
  | map es ih =>
    cases equal_iff_agree.mp huv with
    | map hsize hes =>
      cases equal_iff_agree.mp hvw with
      | map hsize' hfs =>
        refine equal_iff_agree.mpr (.map (hsize.trans hsize') fun e he => ?_)
        obtain ⟨v, hv, hev⟩ := hes e he
        obtain ⟨w, hw, hvw⟩ := hfs (e.1, v) (Dict.mem_of_find? hv)
        exact ⟨w, hw, ih e he hev hvw⟩

/-! ### NaN -/

/-- There is no NaN inside a value. -/
def NaNFree (v : Value) : Prop := v.FloatsIn fun x => x.isNaN = false

/-- The floats of items are restricted one by one. -/
lemma itemFloatsIn_iff {floats : Binary64 → Prop} {items : List Value} :
    ItemFloatsIn floats items ↔ ∀ v ∈ items, v.FloatsIn floats := by
  induction items with
  | nil => simp [ItemFloatsIn]
  | cons v rest ih => simp [ItemFloatsIn, ih]

/-- The floats of entries are restricted one by one. -/
lemma entryFloatsIn_iff {floats : Binary64 → Prop} {entries : Dict Value} :
    EntryFloatsIn floats entries ↔ ∀ e ∈ entries, e.2.FloatsIn floats := by
  induction entries with
  | nil => simp [EntryFloatsIn]
  | cons e rest ih =>
    obtain ⟨k, v⟩ := e
    simp [EntryFloatsIn, ih]

/-- A list with changed items equals the list when each item equals what it was. -/
lemma list_map_equal_iff {f : Value → Value} {items : List Value} :
    (list (items.map f)).equal (list items) = true ↔ ∀ v ∈ items, (f v).equal v = true := by
  rw [equal, equalItems_iff, List.forall₂_map_left_iff, List.forall₂_same]

/-- A map with changed values equals the map when each value equals what it was. -/
lemma map_map_equal_iff {f : Value → Value} {entries : Dict Value} (h : entries.Distinct) :
    (map (entries.map fun e => (e.1, f e.2))).equal (map entries) = true ↔
      ∀ e ∈ entries, (f e.2).equal e.2 = true := by
  have hfind : ∀ e ∈ entries, entries.find? e.1 = some e.2 := fun e he => Dict.find?_of_mem h he
  rw [equal, List.length_map, beq_self_eq_true, Bool.true_and, entriesWithin_iff,
    List.forall_mem_map]
  refine forall₂_congr fun e he => ?_
  simp [hfind e he]

/-- A value that repeats no key equals itself exactly when there is no NaN inside it. -/
theorem equal_self_iff {v : Value} (hv : v.WellFormed) : v.equal v = true ↔ v.NaNFree := by
  induction v using Value.induction with
  | null | bool | int | string | bytes =>
    exact iff_of_true (equal_iff_agree.mpr (by constructor)) trivial
  | float x => exact Binary64.equal_self_iff
  | list items ih =>
    have hitems : (list (items.map id)).equal (list items) = true ↔ _ := list_map_equal_iff
    rw [List.map_id] at hitems
    rw [hitems, NaNFree, FloatsIn, itemFloatsIn_iff]
    exact forall₂_congr fun v hv' => ih v hv' (wellFormed_list_iff.mp hv v hv')
  | map entries ih =>
    obtain ⟨hdistinct, hvalues⟩ := wellFormed_map_iff.mp hv
    have hentries := map_map_equal_iff (f := id) hdistinct
    simp only [id_eq, Prod.mk.eta, List.map_id'] at hentries
    rw [hentries, NaNFree, FloatsIn, entryFloatsIn_iff]
    exact forall₂_congr fun e he => ih e he (hvalues e he)

/-! ### The order of entries -/

/-- A value with the entries of some maps inside it in another order. -/
inductive Reordered : Value → Value → Prop where
  | refl (v : Value) : Reordered v v
  | list {xs ys : List Value} (items : List.Forall₂ Reordered xs ys) :
      Reordered (.list xs) (.list ys)
  | map {es gs fs : Dict Value} (entries : List.Forall₂ (Dict.EntryRel Reordered) es gs)
      (order : gs.Perm fs) : Reordered (.map es) (.map fs)

/-- A value without NaN equals the value with the entries of its maps in another order. -/
theorem equal_of_reordered {v w : Value} (hv : v.WellFormed) (hnan : v.NaNFree)
    (h : v.Reordered w) : v.equal w = true := by
  induction v using Value.induction generalizing w with
  | null | bool | int | float | string | bytes =>
    cases h
    exact (equal_self_iff hv).mpr hnan
  | list xs ih =>
    cases h with
    | refl => exact (equal_self_iff hv).mpr hnan
    | list items =>
      have hequal : ∀ x ∈ xs, ∀ y, x.Reordered y → x.equal y = true :=
        fun x hx y => ih x hx (wellFormed_list_iff.mp hv x hx) (itemFloatsIn_iff.mp hnan x hx)
      exact equal_iff_agree.mpr (.list (forall₂_imp_of_mem items hequal))
  | map es ih =>
    cases h with
    | refl => exact (equal_self_iff hv).mpr hnan
    | map entries order =>
      obtain ⟨hdistinct, hvalues⟩ := wellFormed_map_iff.mp hv
      have hequal : ∀ e ∈ es, ∀ w, e.2.Reordered w → e.2.equal w = true :=
        fun e he w => ih e he (hvalues e he) (entryFloatsIn_iff.mp hnan e he)
      have hreordered : Dict.Matches Reordered es _ := ⟨_, entries, order⟩
      have hmatches : Dict.Matches (fun v w : Value => v.equal w = true) es _ :=
        hreordered.imp hequal
      obtain ⟨hlength, hfound⟩ := hmatches.find? (hreordered.distinct hdistinct)
      exact equal_iff_agree.mpr (.map hlength hfound)

/-- **Equality of values is a partial equivalence, blind to the order of maps.** It is symmetric and
transitive, a value equals itself exactly when there is no NaN inside it, and a value without NaN
equals every value that differs from it in the order of the entries of maps, at any depth.

**Proof sketch.** Induction over the values. Numbers are compared by their places in the order of
the extended line, and only NaN has none. For maps, symmetry is the counting of
`Dict.matches_of_find?`, transitivity looks a key up in the second map and then in the third, and in
a map of distinct keys each entry is its own partner. -/
theorem equal_partial_equivalence {u v w : Value} (hu : u.WellFormed) (hv : v.WellFormed) :
    (u.equal v = true → v.equal u = true) ∧
      (u.equal v = true → v.equal w = true → u.equal w = true) ∧
      (v.equal v = true ↔ v.NaNFree) ∧
      (v.NaNFree → ∀ r, v.Reordered r → v.equal r = true) :=
  ⟨equal_symm hu, equal_trans, equal_self_iff hv, fun hnan _ => equal_of_reordered hv hnan⟩

section Sample

/-- A map with a zero and a map inside. -/
def offerSample : Value :=
  .map [("prices", .list [.float (Binary64.zero false), .int 3]),
    ("unit", .map [("name", .string "m"), ("places", .int 2)])]

/-- The same with the other zero and all entries in another order. -/
def swappedSample : Value :=
  .map [("unit", .map [("places", .int 2), ("name", .string "m")]),
    ("prices", .list [.float (Binary64.zero true), .int 3])]

/-- The same with all entries back in their first order. -/
def turnedSample : Value :=
  .map [("prices", .list [.float (Binary64.zero true), .int 3]),
    ("unit", .map [("name", .string "m"), ("places", .int 2)])]

/-- All three are equal, in whatever order they are compared, and each equals itself. -/
theorem offer_equal_partial_equivalence :
    swappedSample.equal offerSample = true ∧ offerSample.equal turnedSample = true ∧
      swappedSample.equal swappedSample = true ∧ swappedSample.equal turnedSample = true := by
  have hoffer : offerSample.WellFormed := by
    simp [offerSample, WellFormed, EntriesWellFormed, AllWellFormed, Dict.Distinct, Dict.keys]
  have hswapped : swappedSample.WellFormed := by
    simp [swappedSample, WellFormed, EntriesWellFormed, AllWellFormed, Dict.Distinct, Dict.keys]
  have hnan : swappedSample.NaNFree := by
    have hzero : (Binary64.zero true).isNaN = false := by decide
    simp [swappedSample, NaNFree, FloatsIn, EntryFloatsIn, ItemFloatsIn, hzero]
  have hunit : Reordered (.map [("places", .int 2), ("name", .string "m")])
      (.map [("name", .string "m"), ("places", .int 2)]) :=
    .map (.cons (.intro (.refl _)) (.cons (.intro (.refl _)) .nil)) (.swap ..)
  have hturned : swappedSample.Reordered turnedSample :=
    .map (.cons (.intro hunit) (.cons (.intro (.refl _)) .nil)) (.swap ..)
  obtain ⟨hsymm, htrans, hself, horder⟩ :=
    equal_partial_equivalence (w := turnedSample) hoffer hswapped
  have hequal : offerSample.equal swappedSample = true := by decide
  have hsame := horder hnan turnedSample hturned
  exact ⟨hsymm hequal, htrans hequal hsame, hself.mpr hnan, hsame⟩

end Sample

end Value

end Intake
