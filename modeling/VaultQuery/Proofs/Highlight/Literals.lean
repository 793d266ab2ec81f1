import VaultQuery.Proofs.Highlight.Marks
import VaultQuery.Proofs.Text.Utf8

namespace VaultQuery.Query

namespace Tree

variable {α : Type}

-- The nodes right below a node, from left to right.
def children : Tree α → List (Tree α)
  | .search _ body | .not _ body | .parens _ body => [body]
  | .or _ left right | .and _ left right => [left, right]
  | .leaf _ _ => []

def isNot : Tree α → Bool
  | .not _ _ => true
  | _ => false

-- The node stands in a tree below these ancestors, which are listed from the root on.
inductive Within (node : Tree α) : List (Tree α) → Tree α → Prop where
  | root : Within node [] node
  | under {ancestors : List (Tree α)} {tree child : Tree α} (hc : child ∈ tree.children)
    (h : Within node ancestors child) : Within node (tree :: ancestors) tree

-- A leaf with this content stands in the tree, and no ancestor of it is a NOT.
def Affirms (tree : Tree α) (content : α) : Prop :=
  ∃ span ancestors, Within (.leaf span content) ancestors tree ∧
    ∀ ancestor ∈ ancestors, ancestor.isNot = false

-- A tree affirms what its children do, unless it is a NOT, and a leaf its own content.
theorem affirms_iff (tree : Tree α) {content : α} :
    tree.Affirms content ↔ (∃ span, tree = .leaf span content) ∨
      tree.isNot = false ∧ ∃ child ∈ tree.children, child.Affirms content := by
  constructor
  · rintro ⟨span, _, h, hnot⟩
    cases h with
    | root => exact .inl ⟨span, rfl⟩
    | @under ancestors _ child hc h =>
        obtain ⟨hown, hbelow⟩ := List.forall_mem_cons.mp hnot
        exact .inr ⟨hown, child, hc, span, ancestors, h, hbelow⟩
  · rintro (⟨span, rfl⟩ | ⟨hown, child, hc, span, ancestors, h, hbelow⟩)
    · refine ⟨span, [], .root, ?_⟩
      intro ancestor hm
      cases hm
    · exact ⟨span, tree :: ancestors, .under hc h, List.forall_mem_cons.mpr ⟨hown, hbelow⟩⟩

end Tree

-- The clause looks for a text: a term or the value of a term under a name in the texts of an item,
-- or an address among its websites.
inductive Clause.Seeks : Clause → String → Prop where
  | term (value : Value) : Seeks (.test (.term value)) value.text
  | fieldTerm (field value : Value) : Seeks (.test (.fieldTerm field value)) value.text
  | website (address : String) (strategy : Option Website.Strategy) :
    Seeks (.test (.website address strategy)) address

theorem Clause.wanted?_eq_some_iff {clause : Clause} {text : String} :
    clause.wanted? = some text ↔ clause.Seeks text := by
  constructor
  · intro h
    cases clause with
    | order field direction => cases h
    | test predicate =>
        cases predicate with
        | term value =>
            cases h
            exact .term value
        | fieldTerm field value =>
            cases h
            exact .fieldTerm field value
        | website address strategy =>
            cases h
            exact .website text strategy
        | _ => cases h
  · rintro (_ | _ | _) <;> rfl

theorem mem_wanted_iff {query : Query} {text : String} :
    text ∈ wanted query ↔ ∃ clause, query.Affirms clause ∧ clause.Seeks text := by
  induction query with
  | search span body ih =>
      simp [wanted, ih, Tree.affirms_iff (.search span body), Tree.isNot, Tree.children]
  | parens span body ih =>
      simp [wanted, ih, Tree.affirms_iff (.parens span body), Tree.isNot, Tree.children]
  | or span left right ihl ihr =>
      simp [wanted, ihl, ihr, Tree.affirms_iff (.or span left right), Tree.isNot, Tree.children,
        or_and_right, exists_or]
  | and span left right ihl ihr =>
      simp [wanted, ihl, ihr, Tree.affirms_iff (.and span left right), Tree.isNot, Tree.children,
        or_and_right, exists_or]
  | not span body _ => simp [wanted, Tree.affirms_iff (.not span body), Tree.isNot]
  | leaf span clause =>
      simp [wanted, Tree.affirms_iff (.leaf span clause), Tree.children,
        Clause.wanted?_eq_some_iff]

theorem marked?_eq_some_iff {text mark : String} :
    marked? text = some mark ↔ Text.trim text ≠ "" ∧ mark = Text.lowercase (Text.trim text) := by
  simp only [marked?, Text.isBlankText, String.isEmpty_iff]
  split
  · rename_i hempty
    simp [hempty]
  · rename_i hne
    rw [Option.some.injEq, and_iff_right hne]
    exact eq_comm

-- The highlights ascend in the order of their UTF-8 forms, so none of them stands twice. They are
-- the lowercase forms of the trimmed texts that leaves look for under no NOT, but for blank texts.
theorem highlights_are_literals (query : Query) :
    (highlights query).Pairwise (fun mark next => Text.bytes mark < Text.bytes next) ∧
    (highlights query).Nodup ∧
    ∀ mark, mark ∈ highlights query ↔
      ∃ clause text, query.Affirms clause ∧ clause.Seeks text ∧ Text.trim text ≠ "" ∧
        mark = Text.lowercase (Text.trim text) := by
  have hascending := pairwise_highlights query
  refine ⟨?_, ?_, ?_⟩
  · exact hascending.imp (Text.bytes_lt_iff _ _).mpr
  · exact hascending.imp String.ne_of_lt
  · intro mark
    rw [mem_highlights_iff]
    simp only [mem_wanted_iff, marked?_eq_some_iff]
    constructor
    · rintro ⟨text, ⟨clause, haffirms, hseeks⟩, hmark⟩
      exact ⟨clause, text, haffirms, hseeks, hmark⟩
    · rintro ⟨clause, text, haffirms, hseeks, hmark⟩
      exact ⟨text, ⟨clause, haffirms, hseeks⟩, hmark⟩

-- Spellings of one text are one highlight, and what is negated has none.
example : (parse "É OR b \" é\" NOT c").toOption.map highlights = some ["b", "é"] := by
  decide

end VaultQuery.Query
