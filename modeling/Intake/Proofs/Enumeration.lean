import Mathlib.Data.List.Forall2
import Mathlib.Data.List.Nodup
import Mathlib.Data.Option.Basic
import Mathlib.Data.Sum.Basic
import Mathlib.Tactic.Lemma

set_option autoImplicit false

/-!
# Lists that enumerate what is found at spots

A walk that collects something misses nothing and repeats nothing when its result has one entry
for each spot at which there is something. What walks collect is put together as the walks are: one
after another, over the items of a list, and from spots that get other names on the way.

## Main definitions

* `Enumerates` — a list has one entry for each spot at which there is something.

## Main results

* `Enumerates.relabel` — other names for the spots.
* `Enumerates.append`, `Enumerates.flatMap` — two walks, and a walk for each item of a list.
* `Enumerates.counted` — at most one entry for each item of a list.
-/

namespace Intake

/-- A list has one entry for each spot at which there is something, and no other entries. -/
def Enumerates {ι α : Type} (at? : ι → Option α) (entries : List α) : Prop :=
  ∃ spots : List ι, spots.Nodup ∧ (∀ s, s ∈ spots ↔ (at? s).isSome) ∧
    List.Forall₂ (fun s a => at? s = some a) spots entries

namespace Enumerates

variable {ι κ α β : Type}

/-- Where there is nothing, there are no entries. -/
lemma nil {at? : ι → Option α} (h : ∀ s, at? s = none) : Enumerates at? [] :=
  ⟨[], List.nodup_nil, fun s => by simp [h s], .nil⟩

/-- The entry for one spot. -/
lemma single (entry : Option α) : Enumerates (fun _ : Unit => entry) entry.toList := by
  cases entry with
  | none => exact nil fun _ => rfl
  | some a => exact ⟨[()], List.nodup_singleton _, fun _ => by simp, .cons rfl .nil⟩

/-- Spots may get other names if no two of them share one, and none with something is left
without. -/
lemma relabel {at? : ι → Option α} {under? : κ → Option α} {entries : List α}
    (h : Enumerates at? entries) (name : ι → κ) (hname : Function.Injective name)
    (hunder : ∀ s, under? (name s) = at? s) (hall : ∀ k, (under? k).isSome → ∃ s, name s = k) :
    Enumerates under? entries := by
  obtain ⟨spots, hnodup, hmem, hentries⟩ := h
  refine ⟨spots.map name, hnodup.map hname, fun k => ?_, ?_⟩
  · constructor
    · intro hk
      obtain ⟨s, hs, rfl⟩ := List.mem_map.mp hk
      rw [hunder]
      exact (hmem s).mp hs
    · intro hk
      obtain ⟨s, rfl⟩ := hall k hk
      rw [hunder] at hk
      exact List.mem_map_of_mem ((hmem s).mpr hk)
  · rw [List.forall₂_map_left_iff]
    exact hentries.imp fun s a hs => (hunder s).trans hs

/-- Two walks, one after the other. -/
lemma append {first? : ι → Option α} {second? : κ → Option α} {xs ys : List α}
    (hxs : Enumerates first? xs) (hys : Enumerates second? ys) :
    Enumerates (Sum.elim first? second?) (xs ++ ys) := by
  obtain ⟨firsts, hnodupFirst, hfirst, hxs⟩ := hxs
  obtain ⟨seconds, hnodupSecond, hsecond, hys⟩ := hys
  refine ⟨firsts.map .inl ++ seconds.map .inr, ?_, ?_, ?_⟩
  · refine List.Nodup.append (hnodupFirst.map Sum.inl_injective)
      (hnodupSecond.map Sum.inr_injective) ?_
    simp [List.Disjoint]
  · rintro (s | s)
    · simp [hfirst]
    · simp [hsecond]
  · exact List.rel_append (List.forall₂_map_left_iff.mpr hxs) (List.forall₂_map_left_iff.mpr hys)

/-- A walk for each item of a list: a spot is the number of an item with a spot in it.

**Proof sketch.** Induction on the list: the spots in the first item get the number 0, and all
others go up by one. -/
lemma flatMap {at? : β → ι → Option α} {walk : β → List α} (items : List β)
    (h : ∀ b ∈ items, Enumerates (at? b) (walk b)) :
    Enumerates (fun p : ℕ × ι => items[p.1]?.bind fun b => at? b p.2) (items.flatMap walk) := by
  induction items with
  | nil => exact nil fun _ => rfl
  | cons b rest ih =>
    obtain ⟨hfirst, hrest⟩ := List.forall_mem_cons.mp h
    rw [List.flatMap_cons]
    refine (append hfirst (ih hrest)).relabel (Sum.elim (fun s => (0, s)) fun p => (p.1 + 1, p.2))
      ?_ ?_ ?_
    · rintro (s | ⟨i, s⟩) (t | ⟨j, t⟩) heq
      · simpa using heq
      · simp at heq
      · simp at heq
      · simpa using heq
    · rintro (s | ⟨i, s⟩)
      · rfl
      · rfl
    · rintro ⟨_ | i, s⟩ -
      · exact ⟨.inl s, rfl⟩
      · exact ⟨.inr (i, s), rfl⟩

/-- At most one entry for each item of a list, which may depend on the number of the item. -/
lemma counted (found? : ℕ → β → Option α) (items : List β) :
    Enumerates (fun i => items[i]?.bind (found? i))
      (items.zipIdx.flatMap fun p => (found? p.2 p.1).toList) := by
  have hitems : Enumerates (fun p : ℕ × Unit => items.zipIdx[p.1]?.bind fun q => found? q.2 q.1)
      (items.zipIdx.flatMap fun p => (found? p.2 p.1).toList) :=
    flatMap items.zipIdx fun p _ => single (found? p.2 p.1)
  refine hitems.relabel Prod.fst (fun p q heq => Prod.ext heq rfl) ?_ fun i _ => ⟨(i, ()), rfl⟩
  rintro ⟨i, -⟩
  simp [List.getElem?_zipIdx, Option.bind_map]

end Enumerates

end Intake
