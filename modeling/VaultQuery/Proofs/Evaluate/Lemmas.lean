import Mathlib.Data.List.Nodup
import VaultQuery.Query.Evaluate

namespace VaultQuery

namespace Vault

-- A login with an id and nothing else.
def Item.blank (id : String) : Item where
  id := id
  organizationId := none
  folderId := none
  collectionIds := []
  name := ""
  notes := none
  kind := .login
  favorite := false
  login := none
  card := none
  identity := none
  sshKey := none
  fields := []
  attachments := []
  creationDate := none
  revisionDate := none
  deletedDate := none

-- No two different items share an id. An item may stand in the list more than once.
def Identified (vault : Vault) : Prop :=
  ∀ a ∈ vault.items, ∀ b ∈ vault.items, a.id = b.id → a = b

instance (vault : Vault) : Decidable vault.Identified :=
  inferInstanceAs (Decidable (∀ a ∈ vault.items, ∀ b ∈ vault.items, a.id = b.id → a = b))

@[simp] theorem narrow_items (vault : Vault) (items : List Item) :
    (vault.narrow items).items = items := rfl

@[simp] theorem narrow_narrow (vault : Vault) (first second : List Item) :
    (vault.narrow first).narrow second = vault.narrow second := rfl

@[simp] theorem filter_items (vault : Vault) (keep : Item → Bool) :
    (vault.filter keep).items = vault.items.filter keep := rfl

@[simp] theorem narrow_filter (vault : Vault) (keep : Item → Bool) (items : List Item) :
    (vault.filter keep).narrow items = vault.narrow items := rfl

theorem filter_narrow (vault : Vault) (items : List Item) (keep : Item → Bool) :
    (vault.narrow items).filter keep = vault.narrow (items.filter keep) := rfl

theorem filter_filter (vault : Vault) (first second : Item → Bool) :
    (vault.filter first).filter second = vault.filter fun item => second item && first item := by
  simp only [filter, narrow_items, narrow_narrow, List.filter_filter]

theorem filter_congr {vault : Vault} {first second : Item → Bool}
    (h : ∀ item ∈ vault.items, first item = second item) :
    vault.filter first = vault.filter second := by
  rw [filter, filter, List.filter_congr h]

theorem Identified.narrow {vault : Vault} (hid : vault.Identified) {items : List Item}
    (hsub : ∀ item ∈ items, item ∈ vault.items) : (vault.narrow items).Identified := by
  intro a ha b hb hab
  exact hid a (hsub a ha) b (hsub b hb) hab

-- In such a vault an id says as much as the item.
theorem Identified.mem_ids_iff {vault : Vault} (hid : vault.Identified) {items : List Item}
    (hsub : ∀ item ∈ items, item ∈ vault.items) {item : Item} (hi : item ∈ vault.items) :
    item.id ∈ items.map (·.id) ↔ item ∈ items := by
  constructor
  · intro h
    obtain ⟨other, ho, he⟩ := List.mem_map.mp h
    exact hid other (hsub other ho) item hi he ▸ ho
  · intro h
    exact List.mem_map_of_mem h

theorem identified_of_nodup {vault : Vault} (hn : vault.ids.Nodup) : vault.Identified :=
  fun _ ha _ hb => List.inj_on_of_nodup_map hn ha hb

end Vault

namespace Query

open Vault (Item)

-- A test looks names up in the reference lists and does not see the other items.
@[simp] theorem Predicate.holds_narrow [Website.Services] (options : Options) (vault : Vault)
    (items : List Item) (item : Item) (predicate : Predicate) :
    predicate.holds options (vault.narrow items) item = predicate.holds options vault item := by
  cases predicate <;> rfl

-- Evaluation changes the items only.
theorem evaluate_eq_narrow [Website.Services] (options : Options) (query : Query) (vault : Vault) :
    evaluate options query vault = vault.narrow (evaluate options query vault).items := by
  induction query generalizing vault with
  | search _ body ih => exact ih vault
  | parens _ body ih => exact ih vault
  | or _ left right _ _ => rfl
  | and _ left right ihl ihr =>
      rw [evaluate, ihr, ihl]
      rfl
  | not _ body _ => rfl
  | leaf _ clause => cases clause <;> rfl

theorem orderItems_perm (field : String) (direction : Direction) (items : List Item) :
    (orderItems field direction items).Perm items :=
  List.mergeSort_perm items _

theorem unseen_cons_of_mem {seen : List String} {item : Item} (hs : item.id ∈ seen)
    (items : List Item) : unseen seen (item :: items) = unseen seen items := by
  simp [unseen, hs]

theorem unseen_cons_of_notMem {seen : List String} {item : Item} (hs : item.id ∉ seen)
    (items : List Item) :
    unseen seen (item :: items) = item :: unseen (item.id :: seen) items := by
  simp [unseen, hs]

theorem mem_unseen {seen : List String} {items : List Item} {item : Item}
    (hi : item ∈ unseen seen items) : item ∈ items ∧ item.id ∉ seen := by
  induction items generalizing seen with
  | nil => simp [unseen] at hi
  | cons first rest ih =>
      by_cases hs : first.id ∈ seen
      · rw [unseen_cons_of_mem hs] at hi
        obtain ⟨hm, hn⟩ := ih hi
        exact ⟨List.mem_cons_of_mem _ hm, hn⟩
      · rw [unseen_cons_of_notMem hs] at hi
        rcases List.mem_cons.mp hi with he | hr
        · subst he
          exact ⟨List.mem_cons_self, hs⟩
        · obtain ⟨hm, hn⟩ := ih hr
          exact ⟨List.mem_cons_of_mem _ hm, fun h => hn (List.mem_cons_of_mem _ h)⟩

-- Every id of the list has been seen before or stands in what is kept.
theorem id_mem_unseen (seen : List String) (items : List Item) {item : Item} (hi : item ∈ items) :
    item.id ∈ seen ∨ item.id ∈ (unseen seen items).map (·.id) := by
  induction items generalizing seen with
  | nil => simp at hi
  | cons first rest ih =>
      by_cases hs : first.id ∈ seen
      · rw [unseen_cons_of_mem hs]
        rcases List.mem_cons.mp hi with he | hr
        · subst he
          exact Or.inl hs
        · exact ih seen hr
      · rw [unseen_cons_of_notMem hs, List.map_cons, List.mem_cons]
        rcases List.mem_cons.mp hi with he | hr
        · subst he
          exact Or.inr (Or.inl rfl)
        · rcases ih (first.id :: seen) hr with h | h
          · rcases List.mem_cons.mp h with h | h
            · exact Or.inr (Or.inl h)
            · exact Or.inl h
          · exact Or.inr (Or.inr h)

theorem nodup_unseen (seen : List String) (items : List Item) :
    ((unseen seen items).map (·.id)).Nodup := by
  induction items generalizing seen with
  | nil => simp [unseen]
  | cons first rest ih =>
      by_cases hs : first.id ∈ seen
      · rw [unseen_cons_of_mem hs]
        exact ih seen
      · rw [unseen_cons_of_notMem hs, List.map_cons, List.nodup_cons]
        refine ⟨?_, ih _⟩
        intro h
        obtain ⟨other, ho, he⟩ := List.mem_map.mp h
        exact (mem_unseen ho).2 (he ▸ List.mem_cons_self)

theorem mem_of_mem_unite {options : Options} {left right : List Item} {item : Item}
    (hi : item ∈ unite options left right) : item ∈ left ∨ item ∈ right := by
  unfold unite at hi
  split at hi
  · exact (List.mem_append.mp hi).imp_right fun h => (mem_unseen h).1
  · exact List.mem_append.mp hi

-- A query selects among the items it is given.
theorem mem_of_mem_evaluate [Website.Services] {options : Options} {query : Query} {vault : Vault}
    {item : Item} (hi : item ∈ (evaluate options query vault).items) : item ∈ vault.items := by
  induction query generalizing vault with
  | search _ body ih => exact ih hi
  | parens _ body ih => exact ih hi
  | or _ left right ihl ihr => exact (mem_of_mem_unite hi).elim ihl ihr
  | and _ left right ihl ihr => exact ihl (ihr hi)
  | not _ body _ => exact List.mem_of_mem_filter hi
  | leaf _ clause =>
      cases clause with
      | test predicate => exact List.mem_of_mem_filter hi
      | order field direction =>
          exact (orderItems_perm field direction vault.items).mem_iff.mp hi

-- Where ids tell items apart, dropping an item that was seen loses nothing.
theorem mem_unite_iff (options : Options) {vault : Vault} (hid : vault.Identified)
    {left right : List Item} (hl : ∀ item ∈ left, item ∈ vault.items)
    (hr : ∀ item ∈ right, item ∈ vault.items) (item : Item) :
    item ∈ unite options left right ↔ item ∈ left ∨ item ∈ right := by
  refine ⟨mem_of_mem_unite, ?_⟩
  unfold unite
  split
  · rw [List.mem_append]
    rintro (h | h)
    · exact Or.inl h
    · have hsub : ∀ other ∈ unseen (left.map (·.id)) right, other ∈ vault.items :=
        fun other ho => hr other (mem_unseen ho).1
      rcases id_mem_unseen (left.map (·.id)) right h with hs | hs
      · exact Or.inl ((hid.mem_ids_iff hl (hr item h)).mp hs)
      · exact Or.inr ((hid.mem_ids_iff hsub (hr item h)).mp hs)
  · exact List.mem_append.mpr

theorem nodup_unite (options : Options) (hd : options.deduplicateUnions = true)
    {left : List Item} (hl : (left.map (·.id)).Nodup) (right : List Item) :
    ((unite options left right).map (·.id)).Nodup := by
  simp only [unite, hd, if_true, List.map_append]
  refine List.nodup_append.mpr ⟨hl, nodup_unseen _ _, ?_⟩
  intro a ha b hb hab
  obtain ⟨item, hi, rfl⟩ := List.mem_map.mp hb
  exact (mem_unseen hi).2 (hab ▸ ha)

end Query

end VaultQuery
