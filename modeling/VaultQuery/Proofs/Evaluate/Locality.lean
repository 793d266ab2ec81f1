import VaultQuery.Proofs.Evaluate.Distinct
import VaultQuery.Proofs.Evaluate.Membership
import VaultQuery.Proofs.Evaluate.Order

namespace VaultQuery

open Vault (Item)

namespace Query

-- Where ids tell items apart, an item is dropped as seen only because of itself.
theorem filter_unite (options : Options) {vault : Vault} (hid : vault.Identified)
    {left right : List Item} (hl : ∀ item ∈ left, item ∈ vault.items)
    (hr : ∀ item ∈ right, item ∈ vault.items) (keep : Item → Bool) :
    (unite options left right).filter keep =
      unite options (left.filter keep) (right.filter keep) := by
  unfold unite
  split
  · have hkeep : ∀ a ∈ right, ∀ b ∈ right, a.id = b.id → keep a = keep b := by
      intro a ha b hb he
      rw [hid a (hr a ha) b (hr b hb) he]
    have hlkeep : ∀ item ∈ left.filter keep, item ∈ vault.items :=
      fun item hi => hl item (List.mem_of_mem_filter hi)
    rw [List.filter_append, filter_unseen hkeep]
    congr 1
    apply unseen_congr
    intro item hi
    obtain ⟨hm, hk⟩ := List.mem_filter.mp hi
    rw [hid.mem_ids_iff hl (hr item hm), hid.mem_ids_iff hlkeep (hr item hm), List.mem_filter]
    exact (and_iff_left hk).symm
  · exact List.filter_append ..

-- A vault may be filtered before or after it is evaluated. The induction is over all vaults, since
-- the right side of a conjunction sees what the left side has left.
theorem evaluate_filter [Website.Services] (options : Options) (query : Query) {vault : Vault}
    (hid : vault.Identified) (keep : Item → Bool) :
    evaluate options query (vault.filter keep) = (evaluate options query vault).filter keep := by
  induction query generalizing vault with
  | search _ body ih => exact ih hid
  | parens _ body ih => exact ih hid
  | or _ left right ihl ihr =>
      have hl : ∀ item ∈ (evaluate options left vault).items, item ∈ vault.items :=
        fun _ => mem_of_mem_evaluate
      have hr : ∀ item ∈ (evaluate options right vault).items, item ∈ vault.items :=
        fun _ => mem_of_mem_evaluate
      simp only [evaluate, ihl hid, ihr hid, Vault.narrow_filter, Vault.filter_narrow,
        Vault.filter_items, filter_unite options hid hl hr]
  | and _ left right ihl ihr =>
      rw [evaluate, ihl hid, ihr (identified_evaluate options left hid), evaluate]
  | not _ body ih =>
      have hb : ∀ item ∈ (evaluate options body vault).items, item ∈ vault.items :=
        fun _ => mem_of_mem_evaluate
      have hbkeep : ∀ item ∈ (evaluate options body vault).items.filter keep,
          item ∈ vault.items := fun item hi => hb item (List.mem_of_mem_filter hi)
      simp only [evaluate, ih hid, Vault.filter_filter]
      apply Vault.filter_congr
      intro item hi
      -- The filtered body excludes a kept item if and only if the whole body does.
      have hiff := hid.mem_ids_iff hbkeep hi
      rw [List.mem_filter, ← hid.mem_ids_iff hb hi] at hiff
      cases hk : keep item with
      | false => simp
      | true =>
          simp only [hk, and_true] at hiff
          simp [Vault.ids, hiff]
  | leaf _ clause =>
      cases clause with
      | test predicate =>
          simp only [evaluate, Vault.filter_filter]
          apply Vault.filter_congr
          intro item _
          rw [Vault.filter, Predicate.holds_narrow, Bool.and_comm]
      | order field direction =>
          simp only [evaluate, Vault.narrow_filter, Vault.filter_narrow, Vault.filter_items,
            filter_orderItems]

-- What a query gives of some items is the same in the whole vault and in a vault of these items
-- alone, in the same order and equally often. So it is the same in any two vaults that have these
-- items in common, whatever else they hold.
theorem evaluate_local [Website.Services] (options : Options) (query : Query) (vault : Vault)
    (hid : vault.Identified) (keep : Item → Bool) :
    (evaluate options query (vault.filter keep)).items =
      (evaluate options query vault).items.filter keep ∧
    ∀ other : Vault, other.Identified → other.filter keep = vault.filter keep →
      (evaluate options query other).items.filter keep =
        (evaluate options query vault).items.filter keep := by
  have hitems : ∀ whole : Vault, whole.Identified →
      (evaluate options query (whole.filter keep)).items =
        (evaluate options query whole).items.filter keep := by
    intro whole hw
    rw [evaluate_filter options query hw, Vault.filter_items]
  refine ⟨hitems vault hid, ?_⟩
  intro other ho hsame
  rw [← hitems other ho, hsame, hitems vault hid]

-- The first alternative excludes the item that is left out, and the second puts it before the
-- others.
theorem evaluate_local_order :
    let kept : Item := { Item.blank "a" with name := "Mail", favorite := true }
    let left : Item := { Item.blank "b" with name := "Bank", folderId := some "f" }
    let stranger : Item := { Item.blank "c" with name := "Post", favorite := true }
    let vault : Vault := ⟨[kept, left, kept], [], [], []⟩
    let other : Vault := ⟨[stranger, kept, kept], [], [], []⟩
    let keep (item : Item) : Bool := item.name == "Mail"
    let query : Query :=
      .or default (.not default (.leaf default (.test .hasFolder)))
        (.and default (.leaf default (.order "name" .ascending))
          (.or default (.leaf default (.test .isFavorite)) (.leaf default (.test .hasFolder))))
    vault.Identified ∧ other.Identified ∧ other.filter keep = vault.filter keep ∧
      (evaluate ⟨false, .domain⟩ query (vault.filter keep)).items =
        (evaluate ⟨false, .domain⟩ query vault).items.filter keep ∧
      (evaluate ⟨false, .domain⟩ query other).items.filter keep =
        (evaluate ⟨false, .domain⟩ query vault).items.filter keep := by
  intro kept left stranger vault other keep query
  have hid : vault.Identified := by decide
  have ho : other.Identified := by decide
  have hsame : other.filter keep = vault.filter keep := by decide
  obtain ⟨hfilter, hothers⟩ := evaluate_local ⟨false, .domain⟩ query vault hid keep
  exact ⟨hid, ho, hsame, hfilter, hothers other ho hsame⟩

end Query

end VaultQuery
