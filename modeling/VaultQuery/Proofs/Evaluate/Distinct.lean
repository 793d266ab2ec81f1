import VaultQuery.Proofs.Evaluate.Lemmas

namespace VaultQuery

open Vault (Item)

namespace Vault

-- The first item of each id.
def firstById (items : List Item) : List Item :=
  items.eraseDupsBy fun later first => later.id == first.id

theorem firstById_cons (first : Item) (rest : List Item) :
    firstById (first :: rest) =
      first :: firstById (rest.filter fun later => later.id ≠ first.id) := by
  simp [firstById, List.eraseDupsBy_cons]

-- A vault that has each id once.
def withoutRepeats (vault : Vault) : Vault :=
  vault.narrow (firstById vault.items)

end Vault

namespace Query

open Vault (firstById firstById_cons)

theorem unseen_eq_firstById (seen : List String) (items : List Item) :
    unseen seen items = firstById (items.filter fun item => !seen.contains item.id) := by
  induction items generalizing seen with
  | nil => rfl
  | cons first rest ih =>
      by_cases hs : first.id ∈ seen
      · rw [unseen_cons_of_mem hs, ih, List.filter_cons_of_neg (by simpa using hs)]
      · rw [unseen_cons_of_notMem hs, ih, List.filter_cons_of_pos (by simpa using hs),
          firstById_cons, List.filter_filter]
        congr 3
        funext later
        simp

theorem firstById_eq_unseen (items : List Item) : firstById items = unseen [] items := by
  rw [unseen_eq_firstById, List.filter_eq_self.mpr (by simp)]

-- Only the ids matter, not how often or in which order they have been seen.
theorem unseen_congr {seen other : List String} {items : List Item}
    (h : ∀ item ∈ items, item.id ∈ seen ↔ item.id ∈ other) :
    unseen seen items = unseen other items := by
  rw [unseen_eq_firstById, unseen_eq_firstById]
  congr 1
  apply List.filter_congr
  intro item hi
  simp [h item hi]

theorem unseen_append (seen : List String) (left right : List Item) :
    unseen seen (left ++ right) =
      unseen seen left ++ unseen (left.map (·.id) ++ seen) right := by
  induction left generalizing seen with
  | nil => rfl
  | cons first rest ih =>
      rw [List.cons_append]
      by_cases hs : first.id ∈ seen
      · have hsame : unseen (rest.map (·.id) ++ seen) right =
            unseen ((first :: rest).map (·.id) ++ seen) right := by
          apply unseen_congr
          intro item _
          simp only [List.map_cons, List.cons_append, List.mem_cons, List.mem_append]
          refine ⟨Or.inr, ?_⟩
          rintro (hf | h)
          · exact Or.inr (hf ▸ hs)
          · exact h
        rw [unseen_cons_of_mem hs, unseen_cons_of_mem hs, ih, hsame]
      · have hsame : unseen (rest.map (·.id) ++ first.id :: seen) right =
            unseen ((first :: rest).map (·.id) ++ seen) right := by
          apply unseen_congr
          intro item _
          simp only [List.map_cons, List.cons_append, List.mem_cons, List.mem_append]
          exact or_left_comm
        rw [unseen_cons_of_notMem hs, unseen_cons_of_notMem hs, ih, hsame, List.cons_append]

-- What is dropped for an id that has been seen would be dropped later as well.
theorem unseen_unseen {seen dropped : List String} (h : dropped ⊆ seen) (items : List Item) :
    unseen seen (unseen dropped items) = unseen seen items := by
  induction items generalizing seen dropped with
  | nil => rfl
  | cons first rest ih =>
      by_cases hd : first.id ∈ dropped
      · rw [unseen_cons_of_mem hd, unseen_cons_of_mem (h hd), ih h]
      · rw [unseen_cons_of_notMem hd]
        by_cases hs : first.id ∈ seen
        · rw [unseen_cons_of_mem hs, unseen_cons_of_mem hs,
            ih (List.cons_subset.mpr ⟨hs, h⟩)]
        · rw [unseen_cons_of_notMem hs, unseen_cons_of_notMem hs,
            ih (List.cons_subset_cons first.id h)]

-- A test that goes by id keeps or drops all items of an id, so it may come first or last.
theorem filter_unseen {seen : List String} {items : List Item} {keep : Item → Bool}
    (h : ∀ a ∈ items, ∀ b ∈ items, a.id = b.id → keep a = keep b) :
    (unseen seen items).filter keep = unseen seen (items.filter keep) := by
  induction items generalizing seen with
  | nil => rfl
  | cons first rest ih =>
      have hrest : ∀ a ∈ rest, ∀ b ∈ rest, a.id = b.id → keep a = keep b := by
        intro a ha b hb
        exact h a (List.mem_cons_of_mem first ha) b (List.mem_cons_of_mem first hb)
      by_cases hs : first.id ∈ seen
      · rw [unseen_cons_of_mem hs, ih hrest, List.filter_cons]
        split
        · rw [unseen_cons_of_mem hs]
        · rfl
      · rw [unseen_cons_of_notMem hs, List.filter_cons, ih hrest]
        by_cases hk : keep first = true
        · rw [if_pos hk, List.filter_cons_of_pos hk, unseen_cons_of_notMem hs]
        · rw [if_neg hk, List.filter_cons_of_neg hk]
          apply unseen_congr
          intro item hi
          obtain ⟨hm, hki⟩ := List.mem_filter.mp hi
          have hne : item.id ≠ first.id := by
            intro he
            exact hk (h item (List.mem_cons_of_mem first hm) first List.mem_cons_self he ▸ hki)
          rw [List.mem_cons, or_iff_right hne]

theorem unseen_sublist (seen : List String) (items : List Item) :
    (unseen seen items).Sublist items := by
  induction items generalizing seen with
  | nil => exact List.Sublist.refl _
  | cons first rest ih =>
      by_cases hs : first.id ∈ seen
      · rw [unseen_cons_of_mem hs]
        exact (ih seen).cons first
      · rw [unseen_cons_of_notMem hs]
        exact (ih _).cons_cons first

theorem mem_ids_firstById (items : List Item) (id : String) :
    id ∈ (firstById items).map (·.id) ↔ id ∈ items.map (·.id) := by
  rw [firstById_eq_unseen]
  constructor
  · intro h
    exact (unseen_sublist [] items).map (·.id) |>.subset h
  · intro h
    obtain ⟨item, hi, rfl⟩ := List.mem_map.mp h
    rcases id_mem_unseen [] items hi with hn | hm
    · cases hn
    · exact hm

end Query

end VaultQuery
