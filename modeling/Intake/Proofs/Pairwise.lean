import Mathlib.Data.List.Forall2
import Mathlib.Tactic.Lemma

set_option autoImplicit false

/-!
# Lists related item by item

A walk over a list that gives a result for each item relates the items to the results. What such
lists have in common with one another is said here once for all walks.

## Main results

* `exists_mem_of_forall₂`, `exists_of_mem_forall₂` — the partner of an item.
* `exists_forall₂` — items that all have a partner.
* `forall₂_imp_of_mem` — another relation that follows for each item.
* `forall₂_comp_iff` — two walks, one after the other.
* `map_eq_map_of_forall₂` — related items that turn into the same.
-/

namespace Intake

/-- Two relations between lists, one after the other. -/
lemma forall₂_comp_iff {α β γ : Type} {P : α → β → Prop} {Q : β → γ → Prop} {as : List α}
    {cs : List γ} :
    List.Forall₂ (fun a c => ∃ b, P a b ∧ Q b c) as cs ↔
      ∃ bs, List.Forall₂ P as bs ∧ List.Forall₂ Q bs cs := by
  constructor
  · intro h
    induction h with
    | nil => exact ⟨[], .nil, .nil⟩
    | cons hac _ ih =>
      obtain ⟨b, hab, hbc⟩ := hac
      obtain ⟨bs, has, hcs⟩ := ih
      exact ⟨b :: bs, .cons hab has, .cons hbc hcs⟩
  · rintro ⟨bs, has, hcs⟩
    induction has generalizing cs with
    | nil =>
      cases hcs
      exact .nil
    | cons hab _ ih =>
      cases hcs with
      | cons hbc hrest => exact .cons ⟨_, hab, hbc⟩ (ih hrest)

/-- Every item on the right is related to one on the left. -/
lemma exists_mem_of_forall₂ {α β : Type} {P : α → β → Prop} {as : List α} {bs : List β}
    (h : List.Forall₂ P as bs) {b : β} (hb : b ∈ bs) : ∃ a ∈ as, P a b := by
  induction h with
  | nil => cases hb
  | cons hab _ ih =>
    rcases List.mem_cons.mp hb with rfl | hmem
    · exact ⟨_, List.mem_cons_self, hab⟩
    · obtain ⟨a, ha, hp⟩ := ih hmem
      exact ⟨a, List.mem_cons_of_mem _ ha, hp⟩

/-- Every item on the left is related to one on the right. -/
lemma exists_of_mem_forall₂ {α β : Type} {P : α → β → Prop} {as : List α} {bs : List β}
    (h : List.Forall₂ P as bs) {a : α} (ha : a ∈ as) : ∃ b ∈ bs, P a b :=
  exists_mem_of_forall₂ h.flip ha

/-- Every item on the left is related to some item on the right. -/
lemma exists_forall₂ {α γ : Type} {P : α → γ → Prop} {as : List α} (h : ∀ a ∈ as, ∃ b, P a b) :
    ∃ bs, List.Forall₂ P as bs := by
  induction as with
  | nil => exact ⟨[], .nil⟩
  | cons a rest ih =>
    obtain ⟨⟨b, hb⟩, hrest⟩ := List.forall_mem_cons.mp h
    obtain ⟨bs, hbs⟩ := ih hrest
    exact ⟨b :: bs, .cons hb hbs⟩

/-- Items that are related item by item are related in any way that follows for each of them. -/
lemma forall₂_imp_of_mem {α β : Type} {R S : α → β → Prop} {as : List α} {bs : List β}
    (h : List.Forall₂ R as bs) (himp : ∀ a ∈ as, ∀ b, R a b → S a b) : List.Forall₂ S as bs :=
  ((List.forall₂_and_left _ _).mpr ⟨himp, h⟩).imp fun _ _ hab => hab.1 _ hab.2

/-- Items that are related to what they come from are related to what they restore to. -/
lemma forall₂_map_restore {α β : Type} {R : α → β → Prop} (restore : β → α)
    (hrestore : ∀ v w, R v w → R (restore w) w) {vs : List α} {ws : List β}
    (h : List.Forall₂ R vs ws) : List.Forall₂ R (ws.map restore) ws := by
  induction h with
  | nil => exact .nil
  | cons hvw _ ih => exact .cons (hrestore _ _ hvw) ih

/-- Related items that turn into the same turn into the same one by one. -/
lemma map_eq_map_of_forall₂ {α β γ : Type} {R : α → β → Prop} {f : α → γ} {g : β → γ}
    (hfg : ∀ a b, R a b → g b = f a) {as : List α} {bs : List β} (h : List.Forall₂ R as bs) :
    bs.map g = as.map f := by
  rw [← List.forall₂_eq_eq_eq, List.forall₂_map_left_iff, List.forall₂_map_right_iff]
  exact (h.imp hfg).flip

end Intake
