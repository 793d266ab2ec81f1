import VaultQuery.Proofs.Evaluate.Distinct
import VaultQuery.Proofs.Evaluate.Membership
import VaultQuery.Proofs.Evaluate.Order

namespace VaultQuery.Query

open Vault (Item firstById)

theorem firstById_append (left right : List Item) :
    firstById (left ++ right) = firstById left ++ unseen (left.map (·.id)) right := by
  rw [firstById_eq_unseen, unseen_append, List.append_nil, firstById_eq_unseen]

-- Nothing is lost if repeats are dropped on both sides before they are united.
theorem unite_firstById (strategy : Website.Strategy) (left right : List Item) :
    unite ⟨true, strategy⟩ (firstById left) (firstById right) = firstById (left ++ right) := by
  have hseen : unseen ((firstById left).map (·.id)) (firstById right) =
      unseen (left.map (·.id)) right := by
    rw [firstById_eq_unseen right, unseen_unseen (List.nil_subset _)]
    apply unseen_congr
    intro item _
    exact mem_ids_firstById left item.id
  rw [unite, if_pos rfl, hseen, firstById_append]

theorem filter_firstById {items : List Item} {keep : Item → Bool}
    (h : ∀ a ∈ items, ∀ b ∈ items, a.id = b.id → keep a = keep b) :
    (firstById items).filter keep = firstById (items.filter keep) := by
  rw [firstById_eq_unseen, filter_unseen h, firstById_eq_unseen]

-- Where ids tell items apart, all items of an id have the same key and move together.
theorem firstById_orderItems (field : String) (direction : Direction) {items : List Item}
    (h : ∀ a ∈ items, ∀ b ∈ items, a.id = b.id → a = b) :
    firstById (orderItems field direction items) =
      orderItems field direction (firstById items) := by
  have hkey : ∀ (key : Option String), ∀ a ∈ items, ∀ b ∈ items, a.id = b.id →
      decide (sortKey field a = key) = decide (sortKey field b = key) := by
    intro key a ha b hb he
    rw [h a ha b hb he]
  have hperm := orderItems_perm field direction items
  apply eq_orderItems
  · rw [firstById_eq_unseen]
    exact (pairwise_orderItems field direction items).sublist (unseen_sublist _ _)
  · intro key
    rw [filter_firstById, filter_orderItems_key, filter_firstById (hkey key)]
    intro a ha b hb
    exact hkey key a (hperm.subset ha) b (hperm.subset hb)

-- A test looks at the strategy of the options only.
theorem Predicate.holds_strategy [Website.Services] {first second : Options}
    (h : first.defaultUriMatch = second.defaultUriMatch) (vault : Vault) (item : Item)
    (predicate : Predicate) :
    predicate.holds first vault item = predicate.holds second vault item := by
  cases predicate with
  | website address strategy => simp only [holds, meansWebsite, h]
  | _ => rfl

theorem filter_withoutRepeats {vault : Vault} {keep : Item → Bool}
    (h : ∀ a ∈ vault.items, ∀ b ∈ vault.items, a.id = b.id → keep a = keep b) :
    vault.withoutRepeats.filter keep = (vault.filter keep).withoutRepeats := by
  rw [Vault.withoutRepeats, Vault.filter_narrow, filter_firstById h]
  rfl

-- One step for each kind of node. The plain evaluation may repeat items, and what follows sees the
-- repeats, so the induction is over vaults that may repeat items as well.
theorem evaluate_withoutRepeats [Website.Services] (strategy : Website.Strategy) (query : Query)
    {vault : Vault} (hid : vault.Identified) :
    evaluate ⟨true, strategy⟩ query vault.withoutRepeats =
      (evaluate ⟨false, strategy⟩ query vault).withoutRepeats := by
  induction query generalizing vault with
  | search _ body ih => exact ih hid
  | parens _ body ih => exact ih hid
  | or _ left right ihl ihr =>
      simp only [evaluate, ihl hid, ihr hid]
      simp only [Vault.withoutRepeats, Vault.narrow_items, Vault.narrow_narrow,
        unite_firstById]
      rfl
  | and _ left right ihl ihr =>
      rw [evaluate, ihl hid, ihr (identified_evaluate _ left hid), evaluate]
  | not _ body ih =>
      have hids : ∀ id, (evaluate ⟨false, strategy⟩ body vault).withoutRepeats.ids.contains id =
          (evaluate ⟨false, strategy⟩ body vault).ids.contains id := by
        intro id
        simp only [List.contains_eq_mem, decide_eq_decide]
        exact mem_ids_firstById _ id
      simp only [evaluate, ih hid, hids]
      apply filter_withoutRepeats
      intro a _ b _ he
      rw [he]
  | leaf _ clause =>
      cases clause with
      | test predicate =>
          have hholds : ∀ item, predicate.holds ⟨true, strategy⟩ vault.withoutRepeats item =
              predicate.holds ⟨false, strategy⟩ vault item := by
            intro item
            rw [Vault.withoutRepeats, Predicate.holds_narrow]
            exact predicate.holds_strategy rfl vault item
          simp only [evaluate, hholds]
          apply filter_withoutRepeats
          intro a ha b hb he
          rw [hid a ha b hb he]
      | order field direction =>
          simp only [evaluate, Vault.withoutRepeats, Vault.narrow_items, Vault.narrow_narrow,
            firstById_orderItems field direction hid]

-- Evaluating a vault without repeats and dropping repeats at every alternative gives what is left
-- of a plain evaluation when its repeats are dropped at the end, in the same order.
theorem evaluate_deduplicated [Website.Services] (strategy : Website.Strategy) (query : Query)
    (vault : Vault) (hid : vault.Identified) :
    (evaluate ⟨true, strategy⟩ query (vault.narrow (firstById vault.items))).items =
      firstById (evaluate ⟨false, strategy⟩ query vault).items := by
  have h := evaluate_withoutRepeats strategy query hid
  exact congrArg Vault.items h

-- Repeats in the vault and repeats that an alternative makes, ordered and negated afterwards.
theorem evaluate_deduplicated_repeats :
    let mail : Item := { Item.blank "a" with name := "Mail", favorite := true }
    let bank : Item :=
      { Item.blank "b" with name := "Bank", favorite := true, folderId := some "f" }
    let vault : Vault := ⟨[mail, bank, mail], [], [], []⟩
    let either : Query :=
      .or default (.leaf default (.test .hasFolder)) (.leaf default (.test .isFavorite))
    let query : Query :=
      .and default (.and default either (.leaf default (.order "name" .ascending)))
        (.or default (.leaf default (.test .isFavorite)) (.not default either))
    vault.Identified ∧ firstById vault.items = [mail, bank] ∧
      (evaluate ⟨false, .domain⟩ either vault).items = [bank, mail, bank, mail] ∧
      (evaluate ⟨true, .domain⟩ query (vault.narrow (firstById vault.items))).items =
        firstById (evaluate ⟨false, .domain⟩ query vault).items := by
  intro mail bank vault either query
  have hid : vault.Identified := by decide
  exact ⟨hid, by decide, by decide, evaluate_deduplicated .domain query vault hid⟩

end VaultQuery.Query
