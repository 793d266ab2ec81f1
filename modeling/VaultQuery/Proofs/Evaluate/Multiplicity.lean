import VaultQuery.Proofs.Evaluate.Membership
import VaultQuery.Search

namespace VaultQuery

open Vault (Item)

theorem Vault.count_filter (vault : Vault) (keep : Item → Bool) (item : Item) :
    (vault.filter keep).items.count item =
      vault.items.count item * if keep item then 1 else 0 := by
  rw [filter_items]
  cases hk : keep item with
  | true => simp [List.count_filter hk]
  | false => simp [List.count_eq_zero, hk]

variable [Website.Services]

namespace Query

-- How often a query gives an item for each time it is given the item, if alternatives keep repeats.
def multiplicity (options : Options) (vault : Vault) (item : Item) : Query → Nat
  | .search _ body => multiplicity options vault item body
  | .parens _ body => multiplicity options vault item body
  | .or _ left right =>
    multiplicity options vault item left + multiplicity options vault item right
  | .and _ left right =>
    multiplicity options vault item left * multiplicity options vault item right
  | .not _ body => if holds options vault item body then 0 else 1
  | .leaf _ (.test predicate) => if predicate.holds options vault item then 1 else 0
  | .leaf _ (.order _ _) => 1

variable (options : Options)

theorem multiplicity_narrow (vault : Vault) (items : List Item) (item : Item) (query : Query) :
    multiplicity options (vault.narrow items) item query =
      multiplicity options vault item query := by
  induction query with
  | search _ body ih => exact ih
  | parens _ body ih => exact ih
  | or _ left right ihl ihr => simp only [multiplicity, ihl, ihr]
  | and _ left right ihl ihr => simp only [multiplicity, ihl, ihr]
  | not _ body _ => simp only [multiplicity, holds_narrow]
  | leaf _ clause =>
      cases clause with
      | test predicate => simp only [multiplicity, Predicate.holds_narrow]
      | order _ _ => rfl

-- A query asks for the items it gives at least once.
theorem multiplicity_pos_iff (vault : Vault) (item : Item) (query : Query) :
    0 < multiplicity options vault item query ↔ query.holds options vault item = true := by
  induction query with
  | search _ body ih => exact ih
  | parens _ body ih => exact ih
  | or _ left right ihl ihr =>
      simp only [multiplicity, holds, Bool.or_eq_true, ← ihl, ← ihr]
      omega
  | and _ left right ihl ihr =>
      simp only [multiplicity, holds, Bool.and_eq_true, ← ihl, ← ihr, Nat.pos_iff_ne_zero, ne_eq,
        Nat.mul_eq_zero, not_or]
  | not _ body _ => cases h : holds options vault item body <;> simp [multiplicity, holds, h]
  | leaf _ clause =>
      cases clause with
      | test predicate =>
          cases h : predicate.holds options vault item <;> simp [multiplicity, holds, h]
      | order _ _ => simp [multiplicity, holds]

theorem count_evaluate (hd : options.deduplicateUnions = false) (query : Query) {vault : Vault}
    (hid : vault.Identified) (item : Item) :
    (evaluate options query vault).items.count item =
      vault.items.count item * multiplicity options vault item query := by
  induction query generalizing vault with
  | search _ body ih => exact ih hid
  | parens _ body ih => exact ih hid
  | or _ left right ihl ihr =>
      simp only [evaluate, Vault.narrow_items, unite, hd, Bool.false_eq_true, if_false,
        List.count_append, ihl hid, ihr hid, multiplicity, Nat.mul_add]
  | and _ left right ihl ihr =>
      rw [evaluate, ihr (identified_evaluate options left hid), ihl hid,
        evaluate_eq_narrow options left, multiplicity_narrow, multiplicity, Nat.mul_assoc]
  | not _ body _ =>
      rw [evaluate, Vault.count_filter, multiplicity]
      by_cases hi : item ∈ vault.items
      · rw [contains_ids_evaluate options body hid hi]
        cases Query.holds options vault item body <;> rfl
      · rw [List.count_eq_zero.mpr hi, Nat.zero_mul, Nat.zero_mul]
  | leaf _ clause =>
      cases clause with
      | test predicate => rw [evaluate, Vault.count_filter, multiplicity]
      | order field direction =>
          rw [evaluate, Vault.narrow_items, (orderItems_perm field direction vault.items).count_eq,
            multiplicity, Nat.mul_one]

end Query

namespace Search

variable (options : Options)

-- A blank text keeps every item once.
def multiplicity (vault : Vault) (item : Item) (search : Search) : Nat :=
  match search.query with
  | some query => query.multiplicity options vault item
  | none => 1

theorem mem_run_iff (search : Search) {vault : Vault} (hid : vault.Identified) (item : Item) :
    item ∈ (search.run vault options).items ↔
      item ∈ vault.items ∧ 0 < search.multiplicity options vault item := by
  unfold run multiplicity
  cases search.query with
  | none => simp
  | some query => simp only [Query.multiplicity_pos_iff, Query.mem_evaluate_iff options query hid]

theorem nodup_run (hd : options.deduplicateUnions = true) (search : Search) {vault : Vault}
    (hn : vault.ids.Nodup) : (search.run vault options).items.Nodup := by
  unfold run
  cases search.query with
  | none => exact hn.of_map
  | some query => exact (Query.nodup_evaluate options hd query hn).of_map

theorem count_run (hd : options.deduplicateUnions = false) (search : Search) {vault : Vault}
    (hid : vault.Identified) (item : Item) :
    (search.run vault options).items.count item =
      vault.items.count item * search.multiplicity options vault item := by
  unfold run multiplicity
  cases search.query with
  | none => exact (Nat.mul_one _).symm
  | some query => exact Query.count_evaluate options hd query hid item

-- Searches that count alike give the same items equally often.
theorem run_perm {vault : Vault} (hn : vault.ids.Nodup) {first second : Search}
    (h : ∀ item, first.multiplicity options vault item = second.multiplicity options vault item) :
    (first.run vault options).items.Perm (second.run vault options).items := by
  have hid := Vault.identified_of_nodup hn
  cases hd : options.deduplicateUnions with
  | true =>
      rw [List.perm_ext_iff_of_nodup (nodup_run options hd first hn)
        (nodup_run options hd second hn)]
      intro item
      rw [mem_run_iff options first hid, mem_run_iff options second hid, h item]
  | false =>
      rw [List.perm_iff_count]
      intro item
      rw [count_run options hd first hid, count_run options hd second hid, h item]

end Search

end VaultQuery
