import VaultQuery.Query.Span

namespace VaultQuery.Query

-- The shape of a query over leaves of any kind. Each node knows the text it came from.
inductive Tree (α : Type) where
  | search (span : Span) (body : Tree α)
  | or (span : Span) (left right : Tree α)
  | and (span : Span) (left right : Tree α)
  | not (span : Span) (body : Tree α)
  | parens (span : Span) (body : Tree α)
  | leaf (span : Span) (content : α)
deriving Repr, DecidableEq

namespace Tree

variable {α β ε : Type}

def span : Tree α → Span
  | .search span _ => span
  | .or span _ _ => span
  | .and span _ _ => span
  | .not span _ => span
  | .parens span _ => span
  | .leaf span _ => span

-- The number of nodes.
def size : Tree α → Nat
  | .search _ body => body.size + 1
  | .or _ left right => left.size + right.size + 1
  | .and _ left right => left.size + right.size + 1
  | .not _ body => body.size + 1
  | .parens _ body => body.size + 1
  | .leaf _ _ => 1

-- Every subtree with its depth, parents before children and left before right.
def preorder (depth : Nat) : Tree α → List (Nat × Tree α)
  | .search span body => (depth, .search span body) :: body.preorder (depth + 1)
  | .or span left right =>
    (depth, .or span left right) :: (left.preorder (depth + 1) ++ right.preorder (depth + 1))
  | .and span left right =>
    (depth, .and span left right) :: (left.preorder (depth + 1) ++ right.preorder (depth + 1))
  | .not span body => (depth, .not span body) :: body.preorder (depth + 1)
  | .parens span body => (depth, .parens span body) :: body.preorder (depth + 1)
  | .leaf span content => [(depth, .leaf span content)]

-- Replaces every leaf, from left to right, and stops at the first one that fails.
def traverse (f : Span → α → Except ε β) : Tree α → Except ε (Tree β)
  | .search span body => do return .search span (← body.traverse f)
  | .or span left right => do return .or span (← left.traverse f) (← right.traverse f)
  | .and span left right => do return .and span (← left.traverse f) (← right.traverse f)
  | .not span body => do return .not span (← body.traverse f)
  | .parens span body => do return .parens span (← body.traverse f)
  | .leaf span content => do return .leaf span (← f span content)

-- The text form of a tree, given that of its leaves.
def render (leaf : α → String) : Tree α → String
  | .search _ body => "Search(" ++ body.render leaf ++ ")"
  | .or _ left right => "Or(" ++ left.render leaf ++ ", " ++ right.render leaf ++ ")"
  | .and _ left right => "And(" ++ left.render leaf ++ ", " ++ right.render leaf ++ ")"
  | .not _ body => "Not(" ++ body.render leaf ++ ")"
  | .parens _ body => "Parentheses(" ++ body.render leaf ++ ")"
  | .leaf _ content => leaf content

end Tree

end VaultQuery.Query
