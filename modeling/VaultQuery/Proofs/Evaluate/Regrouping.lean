import VaultQuery.Proofs.Evaluate.Distinct
import VaultQuery.Query.Highlight
import VaultQuery.Website.Builtin

namespace VaultQuery

open Vault (Item)

namespace Query

namespace Tree

variable {α : Type}

-- What makes a chain of operands.
inductive Connective where
  | or
  | and
deriving Repr, DecidableEq

def join : Connective → Span → Tree α → Tree α → Tree α
  | .or => .or
  | .and => .and

-- Trees that differ in nothing but the grouping of their chains, and in positions.
inductive Regroups : Tree α → Tree α → Prop where
  | symm {first second : Tree α} (h : Regroups first second) : Regroups second first
  | trans {first second third : Tree α} (h : Regroups first second)
    (hnext : Regroups second third) : Regroups first third
  | search (span other : Span) {first second : Tree α} (h : Regroups first second) :
    Regroups (.search span first) (.search other second)
  | join (connective : Connective) (span other : Span) {left left' right right' : Tree α}
    (hl : Regroups left left') (hr : Regroups right right') :
    Regroups (join connective span left right) (join connective other left' right')
  | not (span other : Span) {first second : Tree α} (h : Regroups first second) :
    Regroups (.not span first) (.not other second)
  | leaf (span other : Span) (content : α) :
    Regroups (.leaf span content) (.leaf other content)
  | parens (span : Span) (body : Tree α) : Regroups (.parens span body) body
  | assoc (connective : Connective) (outer inner outer' inner' : Span)
    (first second third : Tree α) :
    Regroups (join connective outer (join connective inner first second) third)
      (join connective outer' first (join connective inner' second third))

theorem Regroups.refl (tree : Tree α) : Regroups tree tree := by
  induction tree with
  | search span body ih => exact .search _ _ ih
  | or span left right ihl ihr => exact .join .or _ _ ihl ihr
  | and span left right ihl ihr => exact .join .and _ _ ihl ihr
  | not span body ih => exact .not _ _ ih
  | parens span body _ => exact (Regroups.parens span body).trans (Regroups.parens span body).symm
  | leaf span content => exact .leaf _ _ _

-- A chain with one more operand behind it. What is a chain already is taken apart.
def chain (connective : Connective) : Tree α → Tree α → Tree α
  | .or span left right, next =>
    if connective = .or then left.chain connective (right.chain connective next)
    else join connective default (.or span left right) next
  | .and span left right, next =>
    if connective = .and then left.chain connective (right.chain connective next)
    else join connective default (.and span left right) next
  | operand, next => join connective default operand next

-- The operands of each chain in their order, nested to the right. Parentheses and positions are
-- dropped.
def ungrouped : Tree α → Tree α
  | .search _ body => .search default body.ungrouped
  | .or _ left right => left.ungrouped.chain .or right.ungrouped
  | .and _ left right => left.ungrouped.chain .and right.ungrouped
  | .not _ body => .not default body.ungrouped
  | .parens _ body => body.ungrouped
  | .leaf _ content => .leaf default content

theorem chain_join (connective : Connective) (span : Span) (left right next : Tree α) :
    (join connective span left right).chain connective next =
      left.chain connective (right.chain connective next) := by
  cases connective <;> rfl

theorem ungrouped_join (connective : Connective) (span : Span) (left right : Tree α) :
    (join connective span left right).ungrouped =
      left.ungrouped.chain connective right.ungrouped := by
  cases connective <;> rfl

theorem chain_assoc (connective : Connective) (first second third : Tree α) :
    (first.chain connective second).chain connective third =
      first.chain connective (second.chain connective third) := by
  induction first generalizing second with
  | or span left right ihl ihr =>
      cases connective with
      | or => simp only [chain, if_true, ihl, ihr]
      | and => rfl
  | and span left right ihl ihr =>
      cases connective with
      | or => rfl
      | and => simp only [chain, if_true, ihl, ihr]
  | search | not | parens | leaf => exact chain_join connective default _ second third

theorem Regroups.chain (connective : Connective) (first second : Tree α) :
    Regroups (Tree.join connective default first second) (first.chain connective second) := by
  induction first generalizing second with
  | or span left right ihl ihr =>
      cases connective with
      | or =>
          have hright := Regroups.join .or default default (.refl left) (ihr second)
          exact (Regroups.assoc .or _ _ _ _ _ _ _).trans (hright.trans (ihl _))
      | and => exact .refl _
  | and span left right ihl ihr =>
      cases connective with
      | or => exact .refl _
      | and =>
          have hright := Regroups.join .and default default (.refl left) (ihr second)
          exact (Regroups.assoc .and _ _ _ _ _ _ _).trans (hright.trans (ihl _))
  | search | not | parens | leaf => exact .refl _

theorem regroups_ungrouped (tree : Tree α) : Regroups tree tree.ungrouped := by
  induction tree with
  | search span body ih => exact .search _ _ ih
  | or span left right ihl ihr =>
      exact (Regroups.join .or span default ihl ihr).trans (.chain .or _ _)
  | and span left right ihl ihr =>
      exact (Regroups.join .and span default ihl ihr).trans (.chain .and _ _)
  | not span body ih => exact .not _ _ ih
  | parens span body ih => exact (Regroups.parens span body).trans ih
  | leaf span content => exact .leaf _ _ _

theorem Regroups.ungrouped_eq {first second : Tree α} (h : Regroups first second) :
    first.ungrouped = second.ungrouped := by
  induction h with
  | symm _ ih => exact ih.symm
  | trans _ _ ih ihnext => exact ih.trans ihnext
  | search _ _ _ ih => exact congrArg (Tree.search default) ih
  | join connective _ _ _ _ ihl ihr => rw [ungrouped_join, ungrouped_join, ihl, ihr]
  | not _ _ _ ih => exact congrArg (Tree.not default) ih
  | leaf | parens => rfl
  | assoc connective => simp only [ungrouped_join, chain_assoc]

-- Regrouping keeps the operands of every chain in their order, and everything that keeps them is a
-- regrouping.
theorem regroups_iff (first second : Tree α) :
    Regroups first second ↔ first.ungrouped = second.ungrouped := by
  constructor
  · exact Regroups.ungrouped_eq
  · intro h
    have hsecond := (regroups_ungrouped second).symm
    rw [← h] at hsecond
    exact (regroups_ungrouped first).trans hsecond

instance [DecidableEq α] (first second : Tree α) : Decidable (Regroups first second) :=
  decidable_of_iff _ (regroups_iff first second).symm

end Tree

-- An id is known afterwards if it has been seen before or stands in the list.
theorem mem_ids_unseen_iff (seen : List String) (items : List Item) (id : String) :
    id ∈ seen ∨ id ∈ (unseen seen items).map (·.id) ↔ id ∈ seen ∨ id ∈ items.map (·.id) := by
  constructor
  · rintro (hs | hm)
    · exact .inl hs
    · obtain ⟨item, hi, rfl⟩ := List.mem_map.mp hm
      exact .inr (List.mem_map_of_mem (mem_unseen hi).1)
  · rintro (hs | hm)
    · exact .inl hs
    · obtain ⟨item, hi, rfl⟩ := List.mem_map.mp hm
      exact id_mem_unseen seen items hi

-- Of the third list both sides drop the ids of the first two, wherever these have been dropped.
theorem unite_assoc (options : Options) (first second third : List Item) :
    unite options (unite options first second) third =
      unite options first (unite options second third) := by
  unfold unite
  cases options.deduplicateUnions with
  | false => exact List.append_assoc first second third
  | true =>
      simp only [if_true, unseen_append, List.append_assoc, List.map_append,
        unseen_unseen (List.subset_append_left _ _)]
      congr 2
      apply unseen_congr
      intro item _
      rw [List.mem_append, List.mem_append, mem_ids_unseen_iff, or_comm]

theorem evaluate_eq_of_regroups [Website.Services] {first second : Query}
    (h : Tree.Regroups first second) (options : Options) (vault : Vault) :
    evaluate options first vault = evaluate options second vault := by
  induction h generalizing vault with
  | symm _ ih => exact (ih vault).symm
  | trans _ _ ih ihnext => exact (ih vault).trans (ihnext vault)
  | search _ _ _ ih => exact ih vault
  | join connective _ _ _ _ ihl ihr =>
      cases connective with
      | or => simp only [Tree.join, evaluate, ihl, ihr]
      | and => simp only [Tree.join, evaluate, ihl, ihr]
  | not _ _ _ ih => simp only [evaluate, ih]
  | leaf _ _ clause => cases clause <;> rfl
  | parens => rfl
  | assoc connective =>
      cases connective with
      | or => simp only [Tree.join, evaluate, Vault.narrow_items, unite_assoc]
      | and => rfl

theorem wanted_eq_of_regroups {first second : Query} (h : Tree.Regroups first second) :
    wanted first = wanted second := by
  induction h with
  | symm _ ih => exact ih.symm
  | trans _ _ ih ihnext => exact ih.trans ihnext
  | search _ _ _ ih => exact ih
  | join connective _ _ _ _ ihl ihr => cases connective <;> simp only [Tree.join, wanted, ihl, ihr]
  | not | leaf | parens => rfl
  | assoc connective => cases connective <;> simp only [Tree.join, wanted, List.append_assoc]

-- A query means the same however its chains are grouped. It selects the same items in the same
-- order and equally often, whatever ids they share, and marks the same texts.
theorem evaluate_regroups [Website.Services] {first second : Query} (h : Tree.Regroups first second)
    (options : Options) (vault : Vault) :
    evaluate options first vault = evaluate options second vault ∧
      highlights first = highlights second := by
  refine ⟨evaluate_eq_of_regroups h options vault, ?_⟩
  rw [highlights, highlights, wanted_eq_of_regroups h]

-- Two items share an id, and the first alternative shows them both.
theorem evaluate_regroups_shared_id :
    let first : Item := { Item.blank "a" with name := "Mail", favorite := true }
    let second : Item := { Item.blank "a" with name := "Post", favorite := true }
    let third : Item := { Item.blank "b" with name := "Bank", folderId := some "f" }
    let vault : Vault := ⟨[third, first, second, third], [], [], []⟩
    let favorite : Query := .leaf default (.test .isFavorite)
    let folder : Query := .leaf default (.test .hasFolder)
    let mail : Query := .leaf default (.test (.term ⟨"mail", false⟩))
    let query : Query :=
      .or default favorite (.parens default (.or default (.not default mail) folder))
    let other : Query :=
      .or default (.or default favorite (.not default (.parens default mail))) folder
    Tree.Regroups query other ∧
      (evaluate .default query vault = evaluate .default other vault ∧
        highlights query = highlights other) ∧
      (evaluate .default query vault).items = [first, second, third] := by
  intro first second third vault favorite folder mail query other
  have hregroups : Tree.Regroups query other := by decide
  exact ⟨hregroups, evaluate_regroups hregroups .default vault, by decide⟩

end Query

end VaultQuery
