import VaultQuery.Proofs.Grammar.Derivation

namespace VaultQuery.Query.Grammar

theorem run_append {state middle : State} {first : List Token}
    (h : run state first = .ok middle) (second : List Token) :
    run state (first ++ second) = run middle second := by
  unfold run at h ⊢
  rw [List.foldlM_append, h]
  rfl

theorem run_cons {state next : State} {token : Token} (h : state.step token = .ok next)
    (rest : List Token) : run state (token :: rest) = run next rest := by
  unfold run
  rw [List.foldlM_cons, h]
  rfl

namespace State

-- The reading has just completed a conjunction that a further operand may join. Right behind an
-- atom the last operand could still be extended, so there are two forms of it.
inductive Behind (enclosing : List (Level × Nat)) (alternatives : Option (Tree Atom))
    (conjunction : Tree Atom) : State → Prop where
  | connective (level : Level) (hl : level.alternatives = alternatives) :
    Behind enclosing alternatives conjunction ⟨enclosing, level, .connective conjunction⟩
  | colon (level : Level) (reading : OpenAtom) (hl : level.alternatives = alternatives)
    (hc : level.absorb reading.tree = conjunction) :
    Behind enclosing alternatives conjunction ⟨enclosing, level, .colon reading⟩

variable {enclosing : List (Level × Nat)} {alternatives : Option (Tree Atom)}
  {conjunction : Tree Atom} {state : State}

-- Whatever is not a colon ends an atom.
theorem Behind.step_eq (hb : Behind enclosing alternatives conjunction state) (token : Token)
    (hc : token.kind ≠ .colon) : state.step token = state.stepConnective conjunction token := by
  cases hb with
  | connective level hl => rfl
  | colon level reading hl he => simp only [step, if_neg hc, he]

theorem Behind.enclosing_eq (hb : Behind enclosing alternatives conjunction state) :
    state.enclosing = enclosing := by
  cases hb <;> rfl

theorem Behind.alternatives_eq (hb : Behind enclosing alternatives conjunction state) :
    state.level.alternatives = alternatives := by
  cases hb with
  | connective level hl => exact hl
  | colon level reading hl he => exact hl

theorem Behind.step_blank (hb : Behind enclosing alternatives conjunction state)
    (blank : Mark .blank) :
    ∃ next, state.step blank.val = .ok next ∧
      Behind enclosing alternatives conjunction next := by
  refine ⟨{ state with expecting := .connective conjunction }, ?_, ?_⟩
  · rw [hb.step_eq blank.val (by simp [blank.property])]
    simp only [stepConnective, blank.property]
  · have he := hb.enclosing_eq
    subst he
    exact .connective state.level hb.alternatives_eq

theorem Behind.step_and (hb : Behind enclosing alternatives conjunction state)
    (token : Mark .and) :
    state.step token.val =
      .ok ⟨enclosing, ⟨alternatives, some conjunction, none⟩, .operand .joined⟩ := by
  rw [hb.step_eq token.val (by simp [token.property])]
  simp only [stepConnective, token.property, hb.enclosing_eq, hb.alternatives_eq]

theorem Behind.step_or (hb : Behind enclosing alternatives conjunction state)
    (token : Mark .or) :
    state.step token.val =
      .ok ⟨enclosing, ⟨some (Level.joinOr alternatives conjunction), none, none⟩,
        .operand .joined⟩ := by
  rw [hb.step_eq token.val (by simp [token.property])]
  simp only [stepConnective, token.property, hb.enclosing_eq, Level.close, hb.alternatives_eq]

theorem Behind.step_close {outer : Level} {start : Nat}
    (hb : Behind ((outer, start) :: enclosing) alternatives conjunction state)
    (token : Mark .closeParen) :
    state.step token.val =
      .ok ⟨enclosing, outer, .connective (outer.absorb
        (.parens ⟨start, token.val.stop⟩ (Level.joinOr alternatives conjunction)))⟩ := by
  rw [hb.step_eq token.val (by simp [token.property])]
  simp only [stepConnective, token.property, hb.enclosing_eq, Level.close, hb.alternatives_eq]

theorem Behind.finish_eq (hb : Behind [] alternatives conjunction state) (length : Nat) :
    state.finish length = .ok (Level.joinOr alternatives conjunction) := by
  cases hb with
  | connective level hl => simp only [finish, finish.closeWith, Level.close, hl]
  | colon level reading hl hc => simp only [finish, finish.closeWith, Level.close, hl, hc]

end State

open State (Behind)

variable {enclosing : List (Level × Nat)} {alternatives : Option (Tree Atom)}
  {conjunction : Tree Atom} {state : State}

-- Where an operand is due, it does not matter what was expected before.
theorem stepOperand_expecting (enclosing : List (Level × Nat)) (level : Level)
    (first second : Expecting) (place : Place) (token : Token) :
    State.stepOperand ⟨enclosing, level, first⟩ place token =
      State.stepOperand ⟨enclosing, level, second⟩ place token := by
  simp only [State.stepOperand]

-- An operand right behind another one is read as if AND stood between them.
theorem Behind.step_operand (hb : Behind enclosing alternatives conjunction state)
    {token : Token} (hk : startsOperand token.kind = true) :
    state.step token =
      State.step ⟨enclosing, ⟨alternatives, some conjunction, none⟩, .operand .joined⟩ token := by
  have hc : token.kind ≠ .colon := by
    intro h
    simp [h, startsOperand] at hk
  have hjoin : state.stepConnective conjunction token =
      State.stepOperand ⟨enclosing, ⟨alternatives, some conjunction, none⟩, state.expecting⟩
        .joined token := by
    rw [← hb.enclosing_eq, ← hb.alternatives_eq]
    cases hkind : token.kind with
    | not | openParen | literal | quoted | family _ => simp only [State.stepConnective, hkind]
    | and | or | blank | closeParen | colon => simp [hkind, startsOperand] at hk
  rw [hb.step_eq token hc, hjoin]
  exact stepOperand_expecting _ _ _ _ _ _

theorem run_gap_operand (enclosing : List (Level × Nat)) (level : Level) (place : Place)
    (gap : Gap) :
    run ⟨enclosing, level, .operand place⟩ gap.tokens =
      .ok ⟨enclosing, level, .operand place⟩ := by
  induction gap with
  | nil => rfl
  | cons blank gap ih =>
      have hstep : State.step ⟨enclosing, level, .operand place⟩ blank.val =
          .ok ⟨enclosing, level, .operand place⟩ := by
        simp only [State.step, State.stepOperand, blank.property]
      rw [Gap.tokens_cons, run_cons hstep]
      exact ih

theorem run_gap_behind (hb : Behind enclosing alternatives conjunction state) (gap : Gap) :
    ∃ next, run state gap.tokens = .ok next ∧
      Behind enclosing alternatives conjunction next := by
  induction gap generalizing state with
  | nil => exact ⟨state, rfl, hb⟩
  | cons blank gap ih =>
      obtain ⟨next, hstep, hnext⟩ := hb.step_blank blank
      obtain ⟨last, hrun, hlast⟩ := ih hnext
      exact ⟨last, (run_cons hstep _).trans hrun, hlast⟩

theorem foldl_extend (reading : OpenAtom) (qualifiers : List Qualifier) :
    qualifiers.foldl (fun reading qualifier => reading.extend qualifier.2.val) reading =
      ⟨⟨reading.span.start, Qualifier.stop reading.span.stop qualifiers⟩,
        (Qualifier.values qualifiers).foldl Atom.extend reading.atom⟩ := by
  induction qualifiers generalizing reading with
  | nil => rfl
  | cons qualifier rest ih => exact ih _

theorem foldl_extend_values (head : Value) (before after : List Value) :
    after.foldl Atom.extend (.values head before) = .values head (before ++ after) := by
  induction after generalizing before with
  | nil => simp
  | cons value after ih => simp [Atom.extend, ih]

theorem foldl_extend_call (family : Family) (name : Value) (before after : List Value) :
    after.foldl Atom.extend (.call family name before) = .call family name (before ++ after) := by
  induction after generalizing before with
  | nil => simp
  | cons value after ih => simp [Atom.extend, ih]

theorem run_qualifiers (enclosing : List (Level × Nat)) (level : Level) (reading : OpenAtom)
    (qualifiers : List Qualifier) :
    run ⟨enclosing, level, .colon reading⟩ (Qualifier.tokens qualifiers) =
      .ok ⟨enclosing, level,
        .colon (qualifiers.foldl (fun reading qualifier => reading.extend qualifier.2.val)
          reading)⟩ := by
  induction qualifiers generalizing reading with
  | nil => rfl
  | cons qualifier rest ih =>
      obtain ⟨colon, value⟩ := qualifier
      have hcolon : State.step ⟨enclosing, level, .colon reading⟩ colon.val =
          .ok ⟨enclosing, level, .value reading colon.val.offset⟩ := by
        simp only [State.step, colon.property, if_true]
      have hvalue : State.step ⟨enclosing, level, .value reading colon.val.offset⟩ value.val =
          .ok ⟨enclosing, level, .colon (reading.extend value.val)⟩ := by
        simp only [State.step, value.property, if_true]
      rw [Qualifier.tokens, List.flatMap_cons, List.cons_append, run_cons hcolon,
        List.cons_append, run_cons hvalue]
      exact ih _

theorem AtomForm.run_eq (enclosing : List (Level × Nat)) (level : Level) (place : Place)
    (form : AtomForm) :
    run ⟨enclosing, level, .operand place⟩ form.tokens =
      .ok ⟨enclosing, level, .colon ⟨form.span, form.atom⟩⟩ := by
  cases form with
  | values head qualifiers =>
      have hhead : State.step ⟨enclosing, level, .operand place⟩ head.val =
          .ok ⟨enclosing, level,
            .colon ⟨⟨head.val.offset, head.val.stop⟩, .values head.val.value []⟩⟩ := by
        rcases value_kind head with hk | hk <;> simp only [State.step, State.stepOperand, hk]
      rw [tokens, run_cons hhead, run_qualifiers, foldl_extend, foldl_extend_values]
      rfl
  | call family opening name qualifiers =>
      have hopening : State.step ⟨enclosing, level, .operand place⟩ opening.val =
          .ok ⟨enclosing, level, .name family opening.val.offset⟩ := by
        simp only [State.step, State.stepOperand, opening.property]
      have hname : State.step ⟨enclosing, level, .name family opening.val.offset⟩ name.val =
          .ok ⟨enclosing, level, .colon
            ⟨⟨opening.val.offset, name.val.stop⟩, .call family name.val.value []⟩⟩ := by
        simp only [State.step, name.property, if_true]
      rw [tokens, run_cons hopening, run_cons hname, run_qualifiers, foldl_extend,
        foldl_extend_call]
      rfl

-- Blanks do not decide whether an operand joins by AND, the token behind them does.
theorem run_adjacent (hb : Behind enclosing alternatives conjunction state) (next : Negation) :
    run state next.tokens =
      run ⟨enclosing, ⟨alternatives, some conjunction, none⟩, .operand .joined⟩ next.tokens := by
  obtain ⟨gap, first, rest, ht, hs⟩ := next.tokens_eq
  obtain ⟨middle, hrun, hmiddle⟩ := run_gap_behind hb gap
  rw [ht, run_append hrun, run_append (run_gap_operand _ _ _ gap)]
  unfold run
  rw [List.foldlM_cons, List.foldlM_cons, Behind.step_operand hmiddle hs]

mutual

theorem Disjunction.run_eq (disjunction : Disjunction) (enclosing : List (Level × Nat))
    (place : Place) :
    ∃ next alternatives conjunction,
      run ⟨enclosing, .empty, .operand place⟩ disjunction.tokens = .ok next ∧
        Behind enclosing alternatives conjunction next ∧
        Level.joinOr alternatives conjunction = disjunction.tree := by
  cases disjunction with
  | mk first rest =>
      obtain ⟨middle, hfirst, hmiddle⟩ := first.run_eq enclosing none place
      obtain ⟨next, alternatives, conjunction, hrest, hnext, ht⟩ := rest.run_eq hmiddle
      exact ⟨next, alternatives, conjunction, (run_append hfirst _).trans hrest, hnext, ht⟩

theorem Alternatives.run_eq (rest : Alternatives) {enclosing : List (Level × Nat)}
    {alternatives : Option (Tree Atom)} {conjunction : Tree Atom} {state : State}
    (hb : Behind enclosing alternatives conjunction state) :
    ∃ next alternatives' conjunction',
      run state rest.tokens = .ok next ∧ Behind enclosing alternatives' conjunction' next ∧
        Level.joinOr alternatives' conjunction' =
          rest.onto (Level.joinOr alternatives conjunction) := by
  cases rest with
  | none => exact ⟨state, alternatives, conjunction, rfl, hb, rfl⟩
  | more gap connective operand rest =>
      obtain ⟨before, hgap, hbefore⟩ := run_gap_behind hb gap
      obtain ⟨middle, hoperand, hmiddle⟩ :=
        operand.run_eq enclosing (some (Level.joinOr alternatives conjunction)) .joined
      obtain ⟨next, alternatives', conjunction', hrest, hnext, ht⟩ := rest.run_eq hmiddle
      refine ⟨next, alternatives', conjunction', ?_, hnext, ht⟩
      rw [Alternatives.tokens, run_append hgap, run_cons (hbefore.step_or connective),
        run_append hoperand, hrest]

theorem Conjunction.run_eq (conjunction : Conjunction) (enclosing : List (Level × Nat))
    (alternatives : Option (Tree Atom)) (place : Place) :
    ∃ next,
      run ⟨enclosing, ⟨alternatives, none, none⟩, .operand place⟩ conjunction.tokens =
        .ok next ∧
        Behind enclosing alternatives conjunction.tree next := by
  cases conjunction with
  | mk first rest =>
      obtain ⟨middle, hfirst, hmiddle⟩ := first.run_eq enclosing alternatives none place
      obtain ⟨next, hrest, hnext⟩ := rest.run_eq hmiddle
      exact ⟨next, (run_append hfirst _).trans hrest, hnext⟩

theorem Conjuncts.run_eq (rest : Conjuncts) {enclosing : List (Level × Nat)}
    {alternatives : Option (Tree Atom)} {conjunction : Tree Atom} {state : State}
    (hb : Behind enclosing alternatives conjunction state) :
    ∃ next, run state rest.tokens = .ok next ∧
      Behind enclosing alternatives (rest.onto conjunction) next := by
  cases rest with
  | none => exact ⟨state, rfl, hb⟩
  | explicit gap connective operand rest =>
      obtain ⟨before, hgap, hbefore⟩ := run_gap_behind hb gap
      obtain ⟨middle, hoperand, hmiddle⟩ :=
        operand.run_eq enclosing alternatives (some conjunction) .joined
      obtain ⟨next, hrest, hnext⟩ := rest.run_eq hmiddle
      refine ⟨next, ?_, hnext⟩
      rw [Conjuncts.tokens, run_append hgap, run_cons (hbefore.step_and connective),
        run_append hoperand, hrest]
  | adjacent operand rest =>
      obtain ⟨middle, hoperand, hmiddle⟩ :=
        operand.run_eq enclosing alternatives (some conjunction) .joined
      obtain ⟨next, hrest, hnext⟩ := rest.run_eq hmiddle
      refine ⟨next, ?_, hnext⟩
      rw [Conjuncts.tokens, run_append ((run_adjacent hb operand).trans hoperand), hrest]

theorem Negation.run_eq (negation : Negation) (enclosing : List (Level × Nat))
    (alternatives conjunction : Option (Tree Atom)) (place : Place) :
    ∃ next,
      run ⟨enclosing, ⟨alternatives, conjunction, none⟩, .operand place⟩ negation.tokens =
        .ok next ∧
        Behind enclosing alternatives (Level.joinAnd conjunction negation.tree) next := by
  cases negation with
  | plain body => exact body.run_eq enclosing ⟨alternatives, conjunction, none⟩ place
  | negated gap connective body =>
      have hnot : State.step ⟨enclosing, ⟨alternatives, conjunction, none⟩, .operand place⟩
          connective.val =
          .ok ⟨enclosing, ⟨alternatives, conjunction, some connective.val.offset⟩,
            .operand .joined⟩ := by
        simp only [State.step, State.stepOperand, connective.property]
      obtain ⟨next, hbody, hnext⟩ := body.run_eq enclosing
        ⟨alternatives, conjunction, some connective.val.offset⟩ .joined
      refine ⟨next, ?_, hnext⟩
      rw [Negation.tokens, run_append (run_gap_operand _ _ _ gap), run_cons hnot, hbody]

theorem Group.run_eq (group : Group) (enclosing : List (Level × Nat)) (level : Level)
    (place : Place) :
    ∃ next,
      run ⟨enclosing, level, .operand place⟩ group.tokens = .ok next ∧
        Behind enclosing level.alternatives (level.absorb group.tree) next := by
  cases group with
  | parens gap opening body inner closing =>
      have hopening : State.step ⟨enclosing, level, .operand place⟩ opening.val =
          .ok ⟨(level, opening.val.offset) :: enclosing, .empty, .operand .opening⟩ := by
        simp only [State.step, State.stepOperand, opening.property]
      obtain ⟨middle, alternatives, conjunction, hbody, hmiddle, ht⟩ :=
        body.run_eq ((level, opening.val.offset) :: enclosing) .opening
      obtain ⟨before, hinner, hbefore⟩ := run_gap_behind hmiddle inner
      refine ⟨_, ?_, .connective level rfl⟩
      rw [Group.tokens, run_append (run_gap_operand _ _ _ gap), run_cons hopening,
        run_append hbody, run_append hinner, run_cons (hbefore.step_close closing), ht]
      rfl
  | atom gap form =>
      refine ⟨_, ?_, .colon level ⟨form.span, form.atom⟩ rfl rfl⟩
      rw [Group.tokens, run_append (run_gap_operand _ _ _ gap), form.run_eq]

end

-- The tokens of a derivation are read to its tree.
theorem read_tokens (derivation : Derivation) (length : Nat) :
    read derivation.tokens length = .ok derivation.tree := by
  obtain ⟨middle, alternatives, conjunction, hbody, hmiddle, ht⟩ :=
    derivation.body.run_eq [] .start
  obtain ⟨last, htrailing, hlast⟩ := run_gap_behind hmiddle derivation.trailing
  have hrun : run .initial derivation.tokens = .ok last :=
    (run_append hbody _).trans htrailing
  unfold read
  rw [hrun]
  exact (hlast.finish_eq length).trans (congrArg _ ht)

end VaultQuery.Query.Grammar
