import VaultQuery.Proofs.Grammar.Completeness
import VaultQuery.Proofs.Grammar.Soundness
import VaultQuery.Proofs.Grammar.Unambiguity
import VaultQuery.Query.Basic

namespace VaultQuery.Query

variable {α β ε : Type}

-- A sequence succeeds if both of its parts do.
theorem bind_eq_ok {first : Except ε α} {second : α → Except ε β} {result : β} :
    (first >>= second) = .ok result ↔
      ∃ value, first = .ok value ∧ second value = .ok result := by
  cases first with
  | error error =>
      constructor
      · intro h
        cases h
      · rintro ⟨value, h, _⟩
        cases h
  | ok value =>
      constructor
      · intro h
        exact ⟨value, rfl, h⟩
      · rintro ⟨other, he, h⟩
        cases he
        exact h

theorem pure_eq_ok {value result : β} :
    (pure value : Except ε β) = .ok result ↔ value = result :=
  ⟨Except.ok.inj, congrArg Except.ok⟩

namespace Tree

-- The leaves from left to right.
def leaves : Tree α → List (Span × α)
  | .search _ body => body.leaves
  | .or _ left right => left.leaves ++ right.leaves
  | .and _ left right => left.leaves ++ right.leaves
  | .not _ body => body.leaves
  | .parens _ body => body.leaves
  | .leaf span content => [(span, content)]

-- All leaves can be replaced if each of them can.
theorem exists_traverse_iff (f : Span → α → Except ε β) (tree : Tree α) :
    (∃ result, tree.traverse f = .ok result) ↔
      ∀ leaf ∈ tree.leaves, ∃ content, f leaf.1 leaf.2 = .ok content := by
  induction tree with
  | search span body ih | not span body ih | parens span body ih =>
      simp only [traverse, leaves, bind_eq_ok, pure_eq_ok, ← ih]
      constructor
      · rintro ⟨_, inner, hi, _⟩
        exact ⟨inner, hi⟩
      · rintro ⟨inner, hi⟩
        exact ⟨_, inner, hi, rfl⟩
  | or span left right ihl ihr | and span left right ihl ihr =>
      simp only [traverse, leaves, bind_eq_ok, pure_eq_ok, List.forall_mem_append, ← ihl, ← ihr]
      constructor
      · rintro ⟨_, first, hf, second, hs, _⟩
        exact ⟨⟨first, hf⟩, ⟨second, hs⟩⟩
      · rintro ⟨⟨first, hf⟩, ⟨second, hs⟩⟩
        exact ⟨_, first, hf, second, hs, rfl⟩
  | leaf span content =>
      simp only [traverse, leaves, bind_eq_ok, pure_eq_ok, List.forall_mem_singleton]
      constructor
      · rintro ⟨_, value, hv, _⟩
        exact ⟨value, hv⟩
      · rintro ⟨value, hv⟩
        exact ⟨_, value, hv, rfl⟩

-- Replacing leaves keeps the positions.
theorem span_of_traverse {f : Span → α → Except ε β} {tree : Tree α} {result : Tree β}
    (h : tree.traverse f = .ok result) : result.span = tree.span := by
  cases tree with
  | search span body | not span body | parens span body | leaf span content =>
      simp only [traverse, bind_eq_ok, pure_eq_ok] at h
      obtain ⟨inner, _, rfl⟩ := h
      rfl
  | or span left right | and span left right =>
      simp only [traverse, bind_eq_ok, pure_eq_ok] at h
      obtain ⟨first, _, second, _, rfl⟩ := h
      rfl

-- Each node is what the node in its place has become.
theorem mem_preorder_of_traverse {f : Span → α → Except ε β} {tree : Tree α} {result : Tree β}
    (h : tree.traverse f = .ok result) {depth : Nat} {entry : Nat × Tree β}
    (hm : entry ∈ result.preorder depth) :
    ∃ node, (entry.1, node) ∈ tree.preorder depth ∧ node.traverse f = .ok entry.2 := by
  induction tree generalizing result depth with
  | search span body ih | not span body ih | parens span body ih =>
      have hwhole := h
      simp only [traverse, bind_eq_ok, pure_eq_ok] at h
      obtain ⟨inner, hi, rfl⟩ := h
      rcases List.mem_cons.mp hm with rfl | hm
      · exact ⟨_, List.mem_cons_self, hwhole⟩
      · obtain ⟨node, hn, ht⟩ := ih hi hm
        exact ⟨node, List.mem_cons_of_mem _ hn, ht⟩
  | or span left right ihl ihr | and span left right ihl ihr =>
      have hwhole := h
      simp only [traverse, bind_eq_ok, pure_eq_ok] at h
      obtain ⟨first, hf, second, hs, rfl⟩ := h
      rcases List.mem_cons.mp hm with rfl | hm
      · exact ⟨_, List.mem_cons_self, hwhole⟩
      rcases List.mem_append.mp hm with hm | hm
      · obtain ⟨node, hn, ht⟩ := ihl hf hm
        exact ⟨node, List.mem_cons_of_mem _ (List.mem_append_left _ hn), ht⟩
      · obtain ⟨node, hn, ht⟩ := ihr hs hm
        exact ⟨node, List.mem_cons_of_mem _ (List.mem_append_right _ hn), ht⟩
  | leaf span content =>
      have hwhole := h
      simp only [traverse, bind_eq_ok, pure_eq_ok] at h
      obtain ⟨value, _, rfl⟩ := h
      rw [List.mem_singleton.mp hm]
      exact ⟨_, List.mem_singleton_self _, hwhole⟩

end Tree

open Grammar (Derivation)

theorem read_eq_ok_iff (tokens : List Token) (length : Nat) (tree : Tree Atom) :
    Grammar.read tokens length = .ok tree ↔
      ∃ derivation : Derivation, derivation.tokens = tokens ∧ derivation.tree = tree := by
  constructor
  · exact Grammar.exists_derivation
  · rintro ⟨derivation, rfl, rfl⟩
    exact Grammar.read_tokens derivation length

theorem parse_eq_ok_iff (text : String) (query : Query) :
    parse text = .ok query ↔
      ∃ (derivation : Derivation) (body : Query), derivation.tokens = tokenize text ∧
        derivation.tree.traverse Atom.resolve = .ok body ∧ query = .search body.span body := by
  simp only [parse, bind_eq_ok, pure_eq_ok, read_eq_ok_iff]
  constructor
  · rintro ⟨shape, ⟨derivation, ht, rfl⟩, body, hb, rfl⟩
    exact ⟨derivation, body, ht, hb, rfl⟩
  · rintro ⟨derivation, body, ht, hb, rfl⟩
    exact ⟨derivation.tree, ⟨derivation, ht, rfl⟩, body, hb, rfl⟩

-- A text is a query if and only if its tokens have a derivation all of whose atoms are known
-- predicates. They have no other derivation, and the query is the tree of the derivation with the
-- meaning of each atom in its place.
theorem parse_follows_derivation (text : String) :
    (∀ first second : Derivation, first.tokens = tokenize text →
      second.tokens = tokenize text → first = second) ∧
    ((∃ query, parse text = .ok query) ↔
      ∃ derivation : Derivation, derivation.tokens = tokenize text ∧
        ∀ leaf ∈ derivation.tree.leaves, ∃ clause, leaf.2.resolve leaf.1 = .ok clause) ∧
    (∀ query, parse text = .ok query ↔
      ∃ (derivation : Derivation) (body : Query), derivation.tokens = tokenize text ∧
        derivation.tree.traverse Atom.resolve = .ok body ∧
        query = .search body.span body) := by
  refine ⟨?_, ?_, parse_eq_ok_iff text⟩
  · intro first second hf hs
    exact Grammar.derivation_unique (hf.trans hs.symm)
  · have hleaves := fun derivation : Derivation =>
      derivation.tree.exists_traverse_iff (fun span atom => Atom.resolve span atom)
    constructor
    · rintro ⟨query, hq⟩
      obtain ⟨derivation, body, ht, hb, _⟩ := (parse_eq_ok_iff text query).mp hq
      exact ⟨derivation, ht, (hleaves derivation).mp ⟨body, hb⟩⟩
    · rintro ⟨derivation, ht, hk⟩
      obtain ⟨body, hb⟩ := (hleaves derivation).mpr hk
      exact ⟨_, (parse_eq_ok_iff text _).mpr ⟨derivation, body, ht, hb, rfl⟩⟩

end VaultQuery.Query
