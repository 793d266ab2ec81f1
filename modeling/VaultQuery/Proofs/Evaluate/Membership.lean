import VaultQuery.Proofs.Evaluate.Lemmas
import VaultQuery.Website.Builtin

namespace VaultQuery.Query

open Vault (Item)

section Selection

variable [Website.Services]

-- Whether a query asks for an item. An order asks for every item.
def holds (options : Options) (vault : Vault) (item : Item) : Query → Bool
  | .search _ body => holds options vault item body
  | .parens _ body => holds options vault item body
  | .or _ left right => holds options vault item left || holds options vault item right
  | .and _ left right => holds options vault item left && holds options vault item right
  | .not _ body => !holds options vault item body
  | .leaf _ (.test predicate) => predicate.holds options vault item
  | .leaf _ (.order _ _) => true

theorem holds_narrow (options : Options) (vault : Vault) (items : List Item) (item : Item)
    (query : Query) :
    holds options (vault.narrow items) item query = holds options vault item query := by
  induction query with
  | search _ body ih => exact ih
  | parens _ body ih => exact ih
  | or _ left right ihl ihr => simp only [holds, ihl, ihr]
  | and _ left right ihl ihr => simp only [holds, ihl, ihr]
  | not _ body ih => simp only [holds, ih]
  | leaf _ clause =>
      cases clause with
      | test predicate => exact predicate.holds_narrow options vault items item
      | order _ _ => rfl

-- A conjunction tests its right side on what the left side has left, and a negation goes by ids.
-- The induction is therefore over all vaults whose ids tell their items apart.
theorem mem_evaluate_iff (options : Options) (query : Query) {vault : Vault}
    (hid : vault.Identified) (item : Item) :
    item ∈ (evaluate options query vault).items ↔
      item ∈ vault.items ∧ query.holds options vault item := by
  induction query generalizing vault item with
  | search _ body ih => exact ih hid item
  | parens _ body ih => exact ih hid item
  | or _ left right ihl ihr =>
      have hl := fun other ho => ((ihl hid other).mp ho).1
      have hr := fun other ho => ((ihr hid other).mp ho).1
      simp only [evaluate, Vault.narrow_items, holds, Bool.or_eq_true]
      rw [mem_unite_iff options hid hl hr, ihl hid, ihr hid, and_or_left]
  | and _ left right ihl ihr =>
      have hl := fun other ho => ((ihl hid other).mp ho).1
      have hnarrow := evaluate_eq_narrow options left vault
      simp only [evaluate, holds, Bool.and_eq_true]
      rw [hnarrow, ihr (hid.narrow hl), Vault.narrow_items, holds_narrow, ihl hid, and_assoc]
  | not _ body ih =>
      have hb := fun other ho => ((ih hid other).mp ho).1
      simp only [evaluate, Vault.filter, Vault.narrow_items, List.mem_filter, holds,
        List.contains_eq_mem, Bool.not_eq_true', decide_eq_false_iff_not, Vault.ids]
      apply and_congr_right
      intro hi
      rw [hid.mem_ids_iff hb hi, ih hid, Bool.eq_false_iff]
      exact not_congr (and_iff_right hi)
  | leaf _ clause =>
      cases clause with
      | test predicate => simp [evaluate, Vault.filter, holds]
      | order field direction =>
          simp [evaluate, holds, (orderItems_perm field direction vault.items).mem_iff]

-- An id is among those of the items a query gives if the query asks for the item.
theorem contains_ids_evaluate (options : Options) (query : Query) {vault : Vault}
    (hid : vault.Identified) {item : Item} (hi : item ∈ vault.items) :
    (evaluate options query vault).ids.contains item.id = holds options vault item query := by
  have hsub : ∀ other ∈ (evaluate options query vault).items, other ∈ vault.items :=
    fun _ => mem_of_mem_evaluate
  rw [Bool.eq_iff_iff, List.contains_iff_mem, Vault.ids, hid.mem_ids_iff hsub hi,
    mem_evaluate_iff options query hid, and_iff_right hi]

theorem identified_evaluate (options : Options) (query : Query) {vault : Vault}
    (hid : vault.Identified) : (evaluate options query vault).Identified := by
  rw [evaluate_eq_narrow]
  exact hid.narrow fun _ => mem_of_mem_evaluate

theorem nodup_evaluate (options : Options) (hd : options.deduplicateUnions = true)
    (query : Query) {vault : Vault} (hn : vault.ids.Nodup) :
    (evaluate options query vault).ids.Nodup := by
  induction query generalizing vault with
  | search _ body ih => exact ih hn
  | parens _ body ih => exact ih hn
  | or _ left right ihl _ => exact nodup_unite options hd (ihl hn) _
  | and _ left right ihl ihr => exact ihr (ihl hn)
  | not _ body _ => exact hn.sublist (List.filter_sublist.map _)
  | leaf _ clause =>
      cases clause with
      | test predicate => exact hn.sublist (List.filter_sublist.map _)
      | order field direction =>
          exact ((orderItems_perm field direction vault.items).map _).nodup_iff.mpr hn

-- Evaluation selects exactly the items a query asks for and keeps the reference lists. With
-- deduplication it gives no id twice that the vault does not give twice.
theorem evaluate_selects (options : Options) (query : Query) (vault : Vault)
    (hid : vault.Identified) :
    (∀ item, item ∈ (evaluate options query vault).items ↔
      item ∈ vault.items ∧ query.holds options vault item) ∧
    (evaluate options query vault).folders = vault.folders ∧
    (evaluate options query vault).collections = vault.collections ∧
    (evaluate options query vault).organizations = vault.organizations ∧
    (options.deduplicateUnions = true → vault.ids.Nodup →
      (evaluate options query vault).ids.Nodup) := by
  have hnarrow := evaluate_eq_narrow options query vault
  refine ⟨mem_evaluate_iff options query hid, ?_, ?_, ?_, ?_⟩
  · rw [hnarrow]
    rfl
  · rw [hnarrow]
    rfl
  · rw [hnarrow]
    rfl
  · intro hd hn
    exact nodup_evaluate options hd query hn

end Selection

-- Both sides of the alternative find the item that is in the folder and a favorite.
theorem evaluate_selects_once :
    let both : Item := { Item.blank "a" with favorite := true, folderId := some "f" }
    let neither : Item := Item.blank "b"
    let vault : Vault := ⟨[neither, both], [⟨"f", "Work"⟩], [], []⟩
    let query : Query :=
      .or default (.leaf default (.test (.inFolder "Work")))
        (.and default (.leaf default (.order "name" .descending))
          (.not default (.not default (.leaf default (.test .isFavorite)))))
    vault.Identified ∧ vault.ids.Nodup ∧
      query.holds .default vault both = true ∧ query.holds .default vault neither = false ∧
      (∀ item, item ∈ (evaluate .default query vault).items ↔
        item ∈ vault.items ∧ query.holds .default vault item) ∧
      (evaluate .default query vault).ids.Nodup := by
  intro both neither vault query
  have hid : vault.Identified := by decide
  have hn : vault.ids.Nodup := by decide
  obtain ⟨hmem, _, _, _, honce⟩ := evaluate_selects .default query vault hid
  exact ⟨hid, hn, by decide, by decide, hmem, honce rfl hn⟩

end VaultQuery.Query
