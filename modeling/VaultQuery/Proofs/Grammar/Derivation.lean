import VaultQuery.Query.Grammar

namespace VaultQuery.Query.Grammar

-- A token of one kind.
abbrev Mark (kind : Token.Kind) :=
  { token : Token // token.kind = kind }

abbrev ValueToken :=
  { token : Token // token.isValue = true }

abbrev Gap :=
  List (Mark .blank)

namespace Gap

def tokens (gap : Gap) : List Token :=
  gap.map Subtype.val

@[simp] theorem tokens_nil : tokens [] = [] := rfl

@[simp] theorem tokens_cons (blank : Mark .blank) (gap : Gap) :
    tokens (blank :: gap) = blank.val :: tokens gap := rfl

theorem tokens_snoc (gap : Gap) (blank : Mark .blank) :
    tokens (gap ++ [blank]) = gap.tokens ++ [blank.val] := by
  simp [tokens]

end Gap

-- A colon and the value it glues to the atom.
abbrev Qualifier :=
  Mark .colon × ValueToken

namespace Qualifier

def tokens (qualifiers : List Qualifier) : List Token :=
  qualifiers.flatMap fun qualifier => [qualifier.1.val, qualifier.2.val]

def values (qualifiers : List Qualifier) : List Value :=
  qualifiers.map fun qualifier => qualifier.2.val.value

-- Where the last of the values ends, given where the token before them ends.
def stop (before : Nat) (qualifiers : List Qualifier) : Nat :=
  qualifiers.foldl (fun _ qualifier => qualifier.2.val.stop) before

end Qualifier

inductive AtomForm where
  | values (head : ValueToken) (qualifiers : List Qualifier)
  | call (family : Family) (opening : Mark (.family family)) (name : Mark .literal)
    (qualifiers : List Qualifier)

namespace AtomForm

def tokens : AtomForm → List Token
  | .values head qualifiers => head.val :: Qualifier.tokens qualifiers
  | .call _ opening name qualifiers =>
    opening.val :: name.val :: Qualifier.tokens qualifiers

def span : AtomForm → Span
  | .values head qualifiers => ⟨head.val.offset, Qualifier.stop head.val.stop qualifiers⟩
  | .call _ opening name qualifiers =>
    ⟨opening.val.offset, Qualifier.stop name.val.stop qualifiers⟩

def atom : AtomForm → Atom
  | .values head qualifiers => .values head.val.value (Qualifier.values qualifiers)
  | .call family _ name qualifiers =>
    .call family name.val.value (Qualifier.values qualifiers)

end AtomForm

-- Each rule of the grammar is a type, and a derivation holds all the tokens it is a derivation of.
-- Blanks belong to what they stand in front of.
mutual

inductive Disjunction where
  | mk (first : Conjunction) (rest : Alternatives)

inductive Alternatives where
  | none
  | more (gap : Gap) (connective : Mark .or) (next : Conjunction) (rest : Alternatives)

inductive Conjunction where
  | mk (first : Negation) (rest : Conjuncts)

inductive Conjuncts where
  | none
  | explicit (gap : Gap) (connective : Mark .and) (next : Negation) (rest : Conjuncts)
  | adjacent (next : Negation) (rest : Conjuncts)

inductive Negation where
  | negated (gap : Gap) (connective : Mark .not) (body : Group)
  | plain (body : Group)

inductive Group where
  | parens (gap : Gap) (opening : Mark .openParen) (body : Disjunction) (inner : Gap)
    (closing : Mark .closeParen)
  | atom (gap : Gap) (form : AtomForm)

end

mutual

def Disjunction.tokens : Disjunction → List Token
  | .mk first rest => first.tokens ++ rest.tokens

def Alternatives.tokens : Alternatives → List Token
  | .none => []
  | .more gap connective next rest =>
    gap.tokens ++ connective.val :: (next.tokens ++ rest.tokens)

def Conjunction.tokens : Conjunction → List Token
  | .mk first rest => first.tokens ++ rest.tokens

def Conjuncts.tokens : Conjuncts → List Token
  | .none => []
  | .explicit gap connective next rest =>
    gap.tokens ++ connective.val :: (next.tokens ++ rest.tokens)
  | .adjacent next rest => next.tokens ++ rest.tokens

def Negation.tokens : Negation → List Token
  | .negated gap connective body => gap.tokens ++ connective.val :: body.tokens
  | .plain body => body.tokens

def Group.tokens : Group → List Token
  | .parens gap opening body inner closing =>
    gap.tokens ++ opening.val :: (body.tokens ++ (inner.tokens ++ [closing.val]))
  | .atom gap form => gap.tokens ++ form.tokens

end

mutual

-- The tree of a chain is folded to the left: what has been read becomes the left side of the next
-- connective.
def Disjunction.tree : Disjunction → Tree Atom
  | .mk first rest => rest.onto first.tree

def Alternatives.onto : Alternatives → Tree Atom → Tree Atom
  | .none, left => left
  | .more _ _ next rest, left =>
    rest.onto (.or (left.span.cover next.tree.span) left next.tree)

def Conjunction.tree : Conjunction → Tree Atom
  | .mk first rest => rest.onto first.tree

def Conjuncts.onto : Conjuncts → Tree Atom → Tree Atom
  | .none, left => left
  | .explicit _ _ next rest, left =>
    rest.onto (.and (left.span.cover next.tree.span) left next.tree)
  | .adjacent next rest, left =>
    rest.onto (.and (left.span.cover next.tree.span) left next.tree)

def Negation.tree : Negation → Tree Atom
  | .negated _ connective body => .not ⟨connective.val.offset, body.tree.span.stop⟩ body.tree
  | .plain body => body.tree

def Group.tree : Group → Tree Atom
  | .parens _ opening body _ closing =>
    .parens ⟨opening.val.offset, closing.val.stop⟩ body.tree
  | .atom _ form => .leaf form.span form.atom

end

theorem value_kind (value : ValueToken) :
    value.val.kind = .quoted ∨ value.val.kind = .literal := by
  have h := value.property
  simpa only [Token.isValue, Bool.or_eq_true, decide_eq_true_eq] using h

-- The kinds of tokens an operand begins with.
def startsOperand : Token.Kind → Bool
  | .not | .openParen | .literal | .quoted | .family _ => true
  | .and | .or | .blank | .closeParen | .colon => false

theorem AtomForm.tokens_eq (form : AtomForm) :
    ∃ (first : Token) (rest : List Token), form.tokens = first :: rest ∧
      startsOperand first.kind = true ∧ first.kind ≠ .not ∧ first.kind ≠ .openParen := by
  cases form with
  | values head qualifiers =>
      refine ⟨head.val, _, rfl, ?_⟩
      rcases value_kind head with hk | hk <;> simp [hk, startsOperand]
  | call family opening name qualifiers =>
      exact ⟨opening.val, _, rfl, by simp [opening.property, startsOperand]⟩

theorem Group.tokens_eq (group : Group) :
    ∃ (gap : Gap) (first : Token) (rest : List Token),
      group.tokens = gap.tokens ++ first :: rest ∧ startsOperand first.kind = true ∧
        first.kind ≠ .not := by
  cases group with
  | parens gap opening body inner closing =>
      exact ⟨gap, opening.val, _, rfl, by simp [opening.property, startsOperand]⟩
  | atom gap form =>
      obtain ⟨first, rest, ht, hs, hn, _⟩ := form.tokens_eq
      exact ⟨gap, first, rest, by rw [tokens, ht], hs, hn⟩

theorem Negation.tokens_eq (negation : Negation) :
    ∃ (gap : Gap) (first : Token) (rest : List Token),
      negation.tokens = gap.tokens ++ first :: rest ∧ startsOperand first.kind = true := by
  cases negation with
  | negated gap connective body =>
      exact ⟨gap, connective.val, _, rfl, by simp [connective.property, startsOperand]⟩
  | plain body =>
      obtain ⟨gap, first, rest, ht, hs, _⟩ := body.tokens_eq
      exact ⟨gap, first, rest, ht, hs⟩

-- A derivation of a whole query. Blanks at its end belong to none of its parts.
structure Derivation where
  body : Disjunction
  trailing : Gap

namespace Derivation

def tokens (derivation : Derivation) : List Token :=
  derivation.body.tokens ++ derivation.trailing.tokens

def tree (derivation : Derivation) : Tree Atom :=
  derivation.body.tree

end Derivation

end VaultQuery.Query.Grammar
