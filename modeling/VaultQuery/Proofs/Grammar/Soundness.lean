import VaultQuery.Proofs.Grammar.Derivation

namespace VaultQuery.Query.Grammar

def Alternatives.append : Alternatives → Alternatives → Alternatives
  | .none, last => last
  | .more gap connective next rest, last => .more gap connective next (rest.append last)

def Conjuncts.append : Conjuncts → Conjuncts → Conjuncts
  | .none, last => last
  | .explicit gap connective next rest, last => .explicit gap connective next (rest.append last)
  | .adjacent next rest, last => .adjacent next (rest.append last)

theorem Alternatives.tokens_append (rest last : Alternatives) :
    (rest.append last).tokens = rest.tokens ++ last.tokens := by
  match rest with
  | .none => rfl
  | .more gap connective next rest =>
      simp only [append, tokens, tokens_append rest last, List.append_assoc, List.cons_append]

theorem Alternatives.onto_append (rest last : Alternatives) (left : Tree Atom) :
    (rest.append last).onto left = last.onto (rest.onto left) := by
  match rest with
  | .none => rfl
  | .more gap connective next rest => simp only [append, onto, onto_append rest last]

theorem Conjuncts.tokens_append (rest last : Conjuncts) :
    (rest.append last).tokens = rest.tokens ++ last.tokens := by
  match rest with
  | .none => rfl
  | .explicit gap connective next rest =>
      simp only [append, tokens, tokens_append rest last, List.append_assoc, List.cons_append]
  | .adjacent next rest =>
      simp only [append, tokens, tokens_append rest last, List.append_assoc]

theorem Conjuncts.onto_append (rest last : Conjuncts) (left : Tree Atom) :
    (rest.append last).onto left = last.onto (rest.onto left) := by
  match rest with
  | .none => rfl
  | .explicit gap connective next rest => simp only [append, onto, onto_append rest last]
  | .adjacent next rest => simp only [append, onto, onto_append rest last]

def Disjunction.append : Disjunction → Alternatives → Disjunction
  | .mk first rest, last => .mk first (rest.append last)

def Conjunction.append : Conjunction → Conjuncts → Conjunction
  | .mk first rest, last => .mk first (rest.append last)

theorem Disjunction.tokens_append (disjunction : Disjunction) (last : Alternatives) :
    (disjunction.append last).tokens = disjunction.tokens ++ last.tokens := by
  cases disjunction with
  | mk first rest => simp only [append, tokens, Alternatives.tokens_append, List.append_assoc]

theorem Disjunction.tree_append (disjunction : Disjunction) (last : Alternatives) :
    (disjunction.append last).tree = last.onto disjunction.tree := by
  cases disjunction with
  | mk first rest => simp only [append, tree, Alternatives.onto_append]

theorem Conjunction.tokens_append (conjunction : Conjunction) (last : Conjuncts) :
    (conjunction.append last).tokens = conjunction.tokens ++ last.tokens := by
  cases conjunction with
  | mk first rest => simp only [append, tokens, Conjuncts.tokens_append, List.append_assoc]

theorem Conjunction.tree_append (conjunction : Conjunction) (last : Conjuncts) :
    (conjunction.append last).tree = last.onto conjunction.tree := by
  cases conjunction with
  | mk first rest => simp only [append, tree, Conjuncts.onto_append]

def AtomForm.extend (form : AtomForm) (qualifier : Qualifier) : AtomForm :=
  match form with
  | .values head qualifiers => .values head (qualifiers ++ [qualifier])
  | .call family opening name qualifiers => .call family opening name (qualifiers ++ [qualifier])

theorem AtomForm.tokens_extend (form : AtomForm) (qualifier : Qualifier) :
    (form.extend qualifier).tokens = form.tokens ++ [qualifier.1.val, qualifier.2.val] := by
  cases form <;> simp [extend, tokens, Qualifier.tokens]

theorem AtomForm.reading_extend (form : AtomForm) (qualifier : Qualifier) :
    (⟨(form.extend qualifier).span, (form.extend qualifier).atom⟩ : OpenAtom) =
      OpenAtom.extend ⟨form.span, form.atom⟩ qualifier.2.val := by
  cases form <;>
    simp [extend, span, atom, OpenAtom.extend, Atom.extend, Qualifier.stop, Qualifier.values]

-- The tokens of the alternatives that OR has closed.
inductive Closed : Option (Tree Atom) → List Token → Prop where
  | none : Closed none []
  | some (disjunction : Disjunction) (gap : Gap) (connective : Mark .or) :
    Closed (some disjunction.tree)
      (disjunction.tokens ++ (gap.tokens ++ [connective.val]))

-- The tokens of the conjunction that the next operand joins.
inductive Joined : Option (Tree Atom) → List Token → Prop where
  | none : Joined none []
  | explicit (conjunction : Conjunction) (gap : Gap) (connective : Mark .and) :
    Joined (some conjunction.tree)
      (conjunction.tokens ++ (gap.tokens ++ [connective.val]))
  | adjacent (conjunction : Conjunction) : Joined (some conjunction.tree) conjunction.tokens

-- The tokens of a NOT that waits for its operand.
inductive Negated : Option Nat → List Token → Prop where
  | none : Negated none []
  | some (gap : Gap) (connective : Mark .not) :
    Negated (some connective.val.offset) (gap.tokens ++ [connective.val])

-- The tokens of a group that stand in front of the next operand.
inductive Before : Level → List Token → Prop where
  | mk {alternatives conjunction : Option (Tree Atom)} {negation : Option Nat}
    {first second third : List Token} (ha : Closed alternatives first)
    (hj : Joined conjunction second) (hn : Negated negation third) :
    Before ⟨alternatives, conjunction, negation⟩ (first ++ (second ++ third))

theorem Before.empty : Before .empty [] :=
  .mk .none .none .none

-- The tokens up to the parenthesis of the innermost open group.
inductive Within : List (Level × Nat) → List Token → Prop where
  | nil : Within [] []
  | cons {enclosing : List (Level × Nat)} {outer : List Token} {level : Level}
    {before : List Token} (hw : Within enclosing outer) (hb : Before level before) (gap : Gap)
    (opening : Mark .openParen) :
    Within ((level, opening.val.offset) :: enclosing)
      (outer ++ (before ++ (gap.tokens ++ [opening.val])))

-- The tokens that have led to a state.
inductive Reads : State → List Token → Prop where
  | operand {enclosing : List (Level × Nat)} {outer : List Token} {level : Level}
    {before : List Token} (hw : Within enclosing outer) (hb : Before level before) (gap : Gap)
    (place : Place) :
    Reads ⟨enclosing, level, .operand place⟩ (outer ++ (before ++ gap.tokens))
  | name {enclosing : List (Level × Nat)} {outer : List Token} {level : Level}
    {before : List Token} (hw : Within enclosing outer) (hb : Before level before) (gap : Gap)
    (family : Family) (opening : Mark (.family family)) :
    Reads ⟨enclosing, level, .name family opening.val.offset⟩
      (outer ++ (before ++ (gap.tokens ++ [opening.val])))
  | colon {enclosing : List (Level × Nat)} {outer : List Token} {level : Level}
    {before : List Token} (hw : Within enclosing outer) (hb : Before level before) (gap : Gap)
    (form : AtomForm) :
    Reads ⟨enclosing, level, .colon ⟨form.span, form.atom⟩⟩
      (outer ++ (before ++ (gap.tokens ++ form.tokens)))
  | value {enclosing : List (Level × Nat)} {outer : List Token} {level : Level}
    {before : List Token} (hw : Within enclosing outer) (hb : Before level before) (gap : Gap)
    (form : AtomForm) (colon : Mark .colon) :
    Reads ⟨enclosing, level, .value ⟨form.span, form.atom⟩ colon.val.offset⟩
      (outer ++ (before ++ (gap.tokens ++ (form.tokens ++ [colon.val]))))
  | connective {enclosing : List (Level × Nat)} {outer : List Token} {level : Level}
    {first : List Token} (hw : Within enclosing outer) (ha : Closed level.alternatives first)
    (conjunction : Conjunction) (gap : Gap) :
    Reads ⟨enclosing, level, .connective conjunction.tree⟩
      (outer ++ (first ++ (conjunction.tokens ++ gap.tokens)))

-- A complete operand completes the conjunction it joins.
theorem Before.absorb {level : Level} {before : List Token} (hb : Before level before)
    (group : Group) :
    ∃ (first : List Token) (conjunction : Conjunction), Closed level.alternatives first ∧
      before ++ group.tokens = first ++ conjunction.tokens ∧
      level.absorb group.tree = conjunction.tree := by
  obtain @⟨alternatives, joined, negation, first, second, third, ha, hj, hn⟩ := hb
  obtain ⟨operand, htokens, htree⟩ : ∃ operand : Negation,
      third ++ group.tokens = operand.tokens ∧
        Level.negate negation group.tree = operand.tree := by
    cases hn with
    | none => exact ⟨.plain group, rfl, rfl⟩
    | some gap connective =>
        exact ⟨.negated gap connective group, by simp [Negation.tokens], rfl⟩
  refine ⟨first, ?_⟩
  simp only [Level.absorb, htree, List.append_assoc, htokens]
  cases hj with
  | none => exact ⟨.mk operand .none, ha, by simp [Conjunction.tokens, Conjuncts.tokens], rfl⟩
  | explicit conjunction gap connective =>
      refine ⟨conjunction.append (.explicit gap connective operand .none), ha, ?_, ?_⟩
      · simp [Conjunction.tokens_append, Conjuncts.tokens]
      · rw [Conjunction.tree_append]
        rfl
  | adjacent conjunction =>
      refine ⟨conjunction.append (.adjacent operand .none), ha, ?_, ?_⟩
      · simp [Conjunction.tokens_append, Conjuncts.tokens]
      · rw [Conjunction.tree_append]
        rfl

-- A complete conjunction completes the disjunction it stands in.
theorem Closed.close {alternatives : Option (Tree Atom)} {first : List Token}
    (ha : Closed alternatives first) (conjunction : Conjunction) :
    ∃ disjunction : Disjunction, first ++ conjunction.tokens = disjunction.tokens ∧
      Level.joinOr alternatives conjunction.tree = disjunction.tree := by
  cases ha with
  | none => exact ⟨.mk conjunction .none, by simp [Disjunction.tokens, Alternatives.tokens], rfl⟩
  | some disjunction gap connective =>
      refine ⟨disjunction.append (.more gap connective conjunction .none), ?_, ?_⟩
      · simp [Disjunction.tokens_append, Alternatives.tokens]
      · rw [Disjunction.tree_append]
        rfl

section Steps

variable {enclosing : List (Level × Nat)} {outer : List Token} {level : Level}
  {next : State}

theorem Reads.stepOperand {before : List Token} (hw : Within enclosing outer)
    (hb : Before level before) (gap : Gap) (expecting : Expecting) (place : Place)
    (token : Token)
    (h : State.stepOperand ⟨enclosing, level, expecting⟩ place token = .ok next) :
    Reads next (outer ++ (before ++ (gap.tokens ++ [token]))) := by
  cases hk : token.kind with
  | blank =>
      simp only [State.stepOperand, hk, Except.ok.injEq] at h
      subst h
      have hr := Reads.operand hw hb (gap ++ [⟨token, hk⟩]) place
      rwa [Gap.tokens_snoc] at hr
  | not =>
      simp only [State.stepOperand, hk] at h
      obtain @⟨alternatives, joined, negation, first, second, third, ha, hj, hn⟩ := hb
      cases hn with
      | some _ _ => cases h
      | none =>
          simp only [Except.ok.injEq] at h
          subst h
          have hr := Reads.operand hw ⟨ha, hj, Negated.some gap ⟨token, hk⟩⟩ [] .joined
          simpa using hr
  | openParen =>
      simp only [State.stepOperand, hk, Except.ok.injEq] at h
      subst h
      have hr := Reads.operand (Within.cons hw hb gap ⟨token, hk⟩) Before.empty [] .opening
      simpa using hr
  | literal | quoted =>
      have hv : token.isValue = true := by simp [Token.isValue, hk]
      simp only [State.stepOperand, hk, Except.ok.injEq] at h
      subst h
      exact Reads.colon hw hb gap (.values ⟨token, hv⟩ [])
  | family family =>
      simp only [State.stepOperand, hk, Except.ok.injEq] at h
      subst h
      exact Reads.name hw hb gap family ⟨token, hk⟩
  | closeParen =>
      simp only [State.stepOperand, hk] at h
      split at h <;> cases h
  | and | or | colon =>
      simp only [State.stepOperand, hk] at h
      cases h

theorem Reads.stepConnective {first : List Token} (hw : Within enclosing outer)
    (ha : Closed level.alternatives first) (conjunction : Conjunction) (gap : Gap)
    (expecting : Expecting) (token : Token)
    (h : State.stepConnective ⟨enclosing, level, expecting⟩ conjunction.tree token = .ok next) :
    Reads next (outer ++ (first ++ (conjunction.tokens ++ (gap.tokens ++ [token])))) := by
  cases hk : token.kind with
  | blank =>
      simp only [State.stepConnective, hk, Except.ok.injEq] at h
      subst h
      have hr := Reads.connective hw ha conjunction (gap ++ [⟨token, hk⟩])
      rwa [Gap.tokens_snoc] at hr
  | and =>
      simp only [State.stepConnective, hk, Except.ok.injEq] at h
      subst h
      have hr := Reads.operand hw
        ⟨ha, Joined.explicit conjunction gap ⟨token, hk⟩, Negated.none⟩ [] .joined
      simpa using hr
  | or =>
      obtain ⟨disjunction, htokens, htree⟩ := ha.close conjunction
      simp only [State.stepConnective, hk, Except.ok.injEq, Level.close, htree] at h
      subst h
      have hr := Reads.operand hw
        ⟨Closed.some disjunction gap ⟨token, hk⟩, Joined.none, Negated.none⟩ [] .joined
      simpa [← htokens] using hr
  | not | openParen | literal | quoted | family _ =>
      simp only [State.stepConnective, hk] at h
      have hr := Reads.stepOperand hw
        ⟨ha, Joined.adjacent conjunction, Negated.none⟩ gap _ _ _ h
      simpa using hr
  | closeParen =>
      simp only [State.stepConnective, hk] at h
      obtain ⟨disjunction, htokens, htree⟩ := ha.close conjunction
      cases hw with
      | nil => cases h
      | @cons around outer within before hw hb start opening =>
          simp only [Except.ok.injEq, Level.close, htree] at h
          subst h
          obtain ⟨first', conjunction', ha', htokens', htree'⟩ :=
            hb.absorb (.parens start opening disjunction gap ⟨token, hk⟩)
          have hr := Reads.connective hw ha' conjunction' []
          rw [← htree', Gap.tokens_nil, List.append_nil, ← htokens'] at hr
          simpa [Group.tokens, Group.tree, ← htokens] using hr
  | colon =>
      simp only [State.stepConnective, hk] at h
      split at h <;> cases h

-- The invariant of the reading.
theorem Reads.step {state next : State} {tokens : List Token} (hr : Reads state tokens)
    (token : Token) (h : state.step token = .ok next) : Reads next (tokens ++ [token]) := by
  cases hr with
  | operand hw hb gap place =>
      have hr := Reads.stepOperand hw hb gap (.operand place) place token h
      simpa using hr
  | name hw hb gap family opening =>
      simp only [State.step] at h
      split at h
      · rename_i hk
        simp only [Except.ok.injEq] at h
        subst h
        have hr := Reads.colon hw hb gap (.call family opening ⟨token, hk⟩ [])
        simp only [AtomForm.tokens] at hr
        simp only [List.append_assoc]
        exact hr
      · cases h
  | colon hw hb gap form =>
      simp only [State.step] at h
      split at h
      · rename_i hk
        simp only [Except.ok.injEq] at h
        subst h
        have hr := Reads.value hw hb gap form ⟨token, hk⟩
        simpa using hr
      · obtain ⟨first, conjunction, ha, htokens, htree⟩ := hb.absorb (.atom gap form)
        have htree : Level.absorb _ (OpenAtom.tree ⟨form.span, form.atom⟩) = conjunction.tree :=
          htree
        rw [htree] at h
        have hr := Reads.stepConnective hw ha conjunction [] _ token h
        simp only [Group.tokens] at htokens
        simpa [← List.append_assoc, ← htokens] using hr
  | value hw hb gap form colon =>
      simp only [State.step] at h
      split at h
      · rename_i hv
        simp only [Except.ok.injEq] at h
        subst h
        have hr := Reads.colon hw hb gap (form.extend (colon, ⟨token, hv⟩))
        rw [form.reading_extend (colon, ⟨token, hv⟩), form.tokens_extend] at hr
        simpa using hr
      · cases h
  | connective hw ha conjunction gap =>
      have hr := Reads.stepConnective hw ha conjunction gap _ token h
      simpa using hr

end Steps

theorem Reads.run {state last : State} {before : List Token} (hr : Reads state before)
    (tokens : List Token) (h : run state tokens = .ok last) : Reads last (before ++ tokens) := by
  induction tokens generalizing state before with
  | nil =>
      have he : state = last := Except.ok.inj h
      simpa [← he] using hr
  | cons token rest ih =>
      unfold Grammar.run at h ih
      rw [List.foldlM_cons] at h
      cases hs : state.step token with
      | error error =>
          rw [hs] at h
          cases h
      | ok next =>
          rw [hs] at h
          have hlast := ih (hr.step token hs) h
          simpa using hlast

theorem Reads.initial : Reads .initial [] :=
  .operand .nil Before.empty [] .start

-- A reading may end where every group is closed and the last operand is complete.
theorem Reads.finish {state : State} {tokens : List Token} (hr : Reads state tokens)
    {length : Nat} {tree : Tree Atom} (h : state.finish length = .ok tree) :
    ∃ derivation : Derivation, derivation.tokens = tokens ∧ derivation.tree = tree := by
  cases hr with
  | operand hw hb gap place => cases place <;> cases h
  | name hw hb gap family opening => cases h
  | value hw hb gap form colon => cases h
  | colon hw hb gap form =>
      cases hw with
      | cons _ _ _ _ => cases h
      | nil =>
          obtain ⟨first, conjunction, ha, htokens, htree⟩ := hb.absorb (.atom gap form)
          obtain ⟨disjunction, htokens', htree'⟩ := ha.close conjunction
          have htree : Level.absorb _ (OpenAtom.tree ⟨form.span, form.atom⟩) = conjunction.tree :=
            htree
          simp only [State.finish, State.finish.closeWith, htree, Level.close, htree',
            Except.ok.injEq] at h
          refine ⟨⟨disjunction, []⟩, ?_, h⟩
          simp only [Group.tokens] at htokens
          simp [Derivation.tokens, ← htokens', ← htokens]
  | connective hw ha conjunction gap =>
      cases hw with
      | cons _ _ _ _ => cases h
      | nil =>
          obtain ⟨disjunction, htokens, htree⟩ := ha.close conjunction
          simp only [State.finish, State.finish.closeWith, Level.close, htree,
            Except.ok.injEq] at h
          refine ⟨⟨disjunction, gap⟩, ?_, h⟩
          simp [Derivation.tokens, ← htokens]

-- A token list that is read is the token list of a derivation of the tree.
theorem exists_derivation {tokens : List Token} {length : Nat} {tree : Tree Atom}
    (h : read tokens length = .ok tree) :
    ∃ derivation : Derivation, derivation.tokens = tokens ∧ derivation.tree = tree := by
  unfold read at h
  cases hrun : run .initial tokens with
  | error error =>
      rw [hrun] at h
      cases h
  | ok last =>
      rw [hrun] at h
      have hlast := Reads.initial.run tokens hrun
      exact hlast.finish h

end VaultQuery.Query.Grammar
