import VaultQuery.Proofs.Grammar.Theorems
import VaultQuery.Proofs.Token.Seams

namespace VaultQuery.Query

namespace Span

def shift (distance : Nat) (span : Span) : Span :=
  ⟨span.start + distance, span.stop + distance⟩

@[simp] theorem shift_stop (distance : Nat) (span : Span) :
    (span.shift distance).stop = span.stop + distance := rfl

@[simp] theorem cover_shift (distance : Nat) (first last : Span) :
    (first.shift distance).cover (last.shift distance) = (first.cover last).shift distance := rfl

end Span

namespace Tree

variable {α β ε : Type}

-- The same tree at a later position.
def shift (distance : Nat) : Tree α → Tree α
  | .search span body => .search (span.shift distance) (body.shift distance)
  | .or span left right =>
    .or (span.shift distance) (left.shift distance) (right.shift distance)
  | .and span left right =>
    .and (span.shift distance) (left.shift distance) (right.shift distance)
  | .not span body => .not (span.shift distance) (body.shift distance)
  | .parens span body => .parens (span.shift distance) (body.shift distance)
  | .leaf span content => .leaf (span.shift distance) content

@[simp] theorem span_shift (distance : Nat) (tree : Tree α) :
    (tree.shift distance).span = tree.span.shift distance := by
  cases tree <;> rfl

-- What a leaf becomes must not depend on where it stands.
theorem traverse_shift {f : Span → α → Except ε β} {distance : Nat}
    (hf : ∀ span content result, f span content = .ok result →
      f (span.shift distance) content = .ok result)
    {tree : Tree α} {result : Tree β} (h : tree.traverse f = .ok result) :
    (tree.shift distance).traverse f = .ok (result.shift distance) := by
  induction tree generalizing result with
  | search span body ih | not span body ih | parens span body ih =>
      simp only [traverse, bind_eq_ok, pure_eq_ok] at h
      obtain ⟨inner, hi, rfl⟩ := h
      simp only [shift, traverse, ih hi]
      rfl
  | or span left right ihl ihr | and span left right ihl ihr =>
      simp only [traverse, bind_eq_ok, pure_eq_ok] at h
      obtain ⟨first, hl, second, hr, rfl⟩ := h
      simp only [shift, traverse, ihl hl, ihr hr]
      rfl
  | leaf span content =>
      simp only [traverse, bind_eq_ok, pure_eq_ok] at h
      obtain ⟨value, hv, rfl⟩ := h
      simp only [shift, traverse, hf _ _ _ hv]
      rfl

end Tree

theorem mapError_eq_ok {α ε ε' : Type} {f : ε → ε'} {outcome : Except ε α} {result : α} :
    outcome.mapError f = .ok result ↔ outcome = .ok result := by
  cases outcome <;> simp [Except.mapError]

-- The position of an atom only counts for its faults.
theorem Atom.resolve_of_ok {span : Span} {atom : Atom} {clause : Clause}
    (h : atom.resolve span = .ok clause) (other : Span) : atom.resolve other = .ok clause := by
  unfold resolve at h ⊢
  rw [mapError_eq_ok] at h ⊢
  exact h

namespace Grammar

variable (distance : Nat)

namespace Level

def shift (level : Level) : Level :=
  ⟨level.alternatives.map (Tree.shift distance), level.conjunction.map (Tree.shift distance),
    level.negation.map (· + distance)⟩

@[simp] theorem shift_empty : shift distance empty = empty := rfl

theorem absorb_shift (level : Level) (operand : Tree Atom) :
    (level.shift distance).absorb (operand.shift distance) =
      (level.absorb operand).shift distance := by
  obtain ⟨alternatives, conjunction, negation⟩ := level
  cases conjunction <;> cases negation <;>
    simp only [shift, absorb, joinAnd, negate, Tree.shift, Option.map_none, Option.map_some,
      Tree.span_shift, Span.cover_shift] <;> rfl

theorem close_shift (level : Level) (conjunction : Tree Atom) :
    (level.shift distance).close (conjunction.shift distance) =
      (level.close conjunction).shift distance := by
  obtain ⟨alternatives, conjunction, negation⟩ := level
  cases alternatives <;>
    simp only [shift, close, joinOr, Tree.shift, Option.map_none, Option.map_some,
      Tree.span_shift, Span.cover_shift]

end Level

namespace OpenAtom

def shift (reading : OpenAtom) : OpenAtom :=
  ⟨reading.span.shift distance, reading.atom⟩

theorem tree_shift (reading : OpenAtom) :
    (reading.shift distance).tree = reading.tree.shift distance := rfl

theorem extend_shift (reading : OpenAtom) (token : Token) :
    (reading.shift distance).extend (token.shift distance) =
      (reading.extend token).shift distance := by
  simp [extend, shift, Span.shift]

end OpenAtom

def Expecting.shift : Expecting → Expecting
  | .operand place => .operand place
  | .name family start => .name family (start + distance)
  | .colon reading => .colon (reading.shift distance)
  | .value reading start => .value (reading.shift distance) (start + distance)
  | .connective conjunction => .connective (conjunction.shift distance)

namespace State

def shift (state : State) : State :=
  ⟨state.enclosing.map fun outer => (outer.1.shift distance, outer.2 + distance),
    state.level.shift distance, state.expecting.shift distance⟩

theorem stepOperand_shift {state next : State} {place : Place} {token : Token}
    (h : state.stepOperand place token = .ok next) :
    (state.shift distance).stepOperand place (token.shift distance) =
      .ok (next.shift distance) := by
  obtain ⟨enclosing, level, expecting⟩ := state
  cases hk : token.kind with
  | blank | literal | quoted | family _ | openParen =>
      simp only [stepOperand, hk, Token.shift_kind] at h ⊢
      cases h
      simp [shift, Expecting.shift, OpenAtom.shift, Span.shift]
  | not =>
      simp only [stepOperand, hk, Token.shift_kind] at h ⊢
      cases hn : level.negation with
      | some start =>
          rw [hn] at h
          cases h
      | none =>
          rw [hn] at h
          cases h
          simp [shift, Expecting.shift, Level.shift, hn]
  | closeParen =>
      simp only [stepOperand, hk] at h
      split at h <;> cases h
  | and | or | colon =>
      simp only [stepOperand, hk] at h
      cases h

theorem stepConnective_shift {state next : State} {conjunction : Tree Atom} {token : Token}
    (h : state.stepConnective conjunction token = .ok next) :
    (state.shift distance).stepConnective (conjunction.shift distance) (token.shift distance) =
      .ok (next.shift distance) := by
  obtain ⟨enclosing, level, expecting⟩ := state
  cases hk : token.kind with
  | blank | and =>
      simp only [stepConnective, hk, Token.shift_kind] at h ⊢
      cases h
      rfl
  | or =>
      simp only [stepConnective, hk, Token.shift_kind] at h ⊢
      cases h
      simp [shift, Expecting.shift, Level.shift, ← Level.close_shift]
  | not | openParen | literal | quoted | family _ =>
      simp only [stepConnective, hk, Token.shift_kind] at h ⊢
      exact stepOperand_shift distance h
  | closeParen =>
      simp only [stepConnective, hk, Token.shift_kind] at h ⊢
      cases enclosing with
      | nil => cases h
      | cons outer enclosing =>
          cases h
          simp [shift, Expecting.shift, ← Level.close_shift, ← Level.absorb_shift, Tree.shift,
            Span.shift]
  | colon =>
      simp only [stepConnective, hk] at h
      split at h <;> cases h

theorem step_shift {state next : State} {token : Token} (h : state.step token = .ok next) :
    (state.shift distance).step (token.shift distance) = .ok (next.shift distance) := by
  obtain ⟨enclosing, level, expecting⟩ := state
  cases expecting with
  | operand place => exact stepOperand_shift distance h
  | connective conjunction => exact stepConnective_shift distance h
  | name family start =>
      by_cases hl : token.kind = .literal
      · simp only [step, if_pos hl] at h
        cases h
        have hstop := Token.shift_stop distance token
        simp only [shift, Expecting.shift, OpenAtom.shift, Span.shift, ← hstop]
        exact if_pos hl
      · simp only [step, if_neg hl] at h
        cases h
  | colon reading =>
      by_cases hc : token.kind = .colon
      · simp only [step, if_pos hc] at h
        cases h
        exact if_pos hc
      · simp only [step, if_neg hc] at h
        have hnext := stepConnective_shift distance h
        rw [← Level.absorb_shift, ← OpenAtom.tree_shift] at hnext
        exact (if_neg hc).trans hnext
  | value reading start =>
      by_cases hv : token.isValue = true
      · simp only [step, if_pos hv] at h
        cases h
        have hreading := OpenAtom.extend_shift distance reading token
        simp only [shift, Expecting.shift, ← hreading]
        exact if_pos hv
      · simp only [step, if_neg hv] at h
        cases h

theorem finish_shift {state : State} {length : Nat} {tree : Tree Atom}
    (h : state.finish length = .ok tree) (other : Nat) :
    (state.shift distance).finish other = .ok (tree.shift distance) := by
  obtain ⟨enclosing, level, expecting⟩ := state
  have hclose : ∀ conjunction,
      finish.closeWith ⟨enclosing, level, expecting⟩ length conjunction = .ok tree →
      finish.closeWith (shift distance ⟨enclosing, level, expecting⟩) other
        (conjunction.shift distance) = .ok (tree.shift distance) := by
    intro conjunction hc
    cases enclosing with
    | nil =>
        cases hc
        exact congrArg Except.ok (Level.close_shift distance level conjunction)
    | cons outer enclosing => cases hc
  cases expecting with
  | operand place => cases place <;> cases h
  | name family start => cases h
  | value reading start => cases h
  | colon reading =>
      have hc := hclose _ h
      rw [← Level.absorb_shift, ← OpenAtom.tree_shift] at hc
      exact hc
  | connective conjunction => exact hclose _ h

end State

theorem run_shift {state last : State} {tokens : List Token} (h : run state tokens = .ok last) :
    run (state.shift distance) (tokens.map (Token.shift distance)) =
      .ok (last.shift distance) := by
  induction tokens generalizing state with
  | nil =>
      cases h
      rfl
  | cons token tokens ih =>
      unfold run at h
      rw [List.foldlM_cons, bind_eq_ok] at h
      obtain ⟨next, hstep, hrest⟩ := h
      rw [List.map_cons, run_cons (State.step_shift distance hstep)]
      exact ih hrest

-- Tokens at later positions are read to the same tree at the later position.
theorem read_shift {tokens : List Token} {length : Nat} {tree : Tree Atom}
    (h : read tokens length = .ok tree) (other : Nat) :
    read (tokens.map (Token.shift distance)) other = .ok (tree.shift distance) := by
  unfold read at h ⊢
  rw [bind_eq_ok] at h ⊢
  obtain ⟨last, hrun, hfinish⟩ := h
  exact ⟨_, run_shift distance hrun, State.finish_shift distance hfinish other⟩

end Grammar

end VaultQuery.Query
