import VaultQuery.Proofs.Grammar.Derivation

namespace VaultQuery.Query.Grammar

-- The kind of the first token that is no blank.
def upcoming : List Token → Option Token.Kind
  | [] => none
  | token :: rest => if token.kind = .blank then upcoming rest else some token.kind

theorem upcoming_gap (gap : Gap) (rest : List Token) :
    upcoming (gap.tokens ++ rest) = upcoming rest := by
  induction gap with
  | nil => rfl
  | cons blank gap ih => simpa [upcoming, blank.property] using ih

theorem upcoming_gap_cons (gap : Gap) {token : Token} (ht : token.kind ≠ .blank)
    (rest : List Token) : upcoming (gap.tokens ++ token :: rest) = some token.kind := by
  rw [upcoming_gap, upcoming, if_neg ht]

theorem upcoming_gap_mark {kind : Token.Kind} (hk : kind ≠ .blank) (gap : Gap)
    (token : Mark kind) (rest : List Token) :
    upcoming (gap.tokens ++ token.val :: rest) = some kind := by
  rw [upcoming_gap_cons gap (by rwa [token.property]), token.property]

theorem startsOperand_ne_blank {kind : Token.Kind} (hs : startsOperand kind = true) :
    kind ≠ .blank := by
  rintro rfl
  cases hs

theorem upcoming_form (gap : Gap) (form : AtomForm) (rest : List Token) :
    ∃ kind, upcoming (gap.tokens ++ (form.tokens ++ rest)) = some kind ∧
      kind ≠ .openParen := by
  obtain ⟨first, others, ht, hs, _, ho⟩ := form.tokens_eq
  rw [ht]
  exact ⟨first.kind, upcoming_gap_cons gap (startsOperand_ne_blank hs) _, ho⟩

theorem upcoming_group (group : Group) (rest : List Token) :
    ∃ kind, upcoming (group.tokens ++ rest) = some kind ∧ kind ≠ .not := by
  obtain ⟨gap, first, others, ht, hs, hn⟩ := group.tokens_eq
  rw [ht, List.append_assoc]
  exact ⟨first.kind, upcoming_gap_cons gap (startsOperand_ne_blank hs) _, hn⟩

theorem upcoming_negation (negation : Negation) (rest : List Token) :
    ∃ kind, upcoming (negation.tokens ++ rest) = some kind ∧ startsOperand kind = true := by
  obtain ⟨gap, first, others, ht, hs⟩ := negation.tokens_eq
  rw [ht, List.append_assoc]
  exact ⟨first.kind, upcoming_gap_cons gap (startsOperand_ne_blank hs) _, hs⟩

-- What may stand behind an operand: nothing that would extend an atom.
def EndsOperand (rest : List Token) : Prop :=
  upcoming rest ≠ some .colon

-- What may stand behind a conjunction, blanks aside.
def EndsConjunction (rest : List Token) : Prop :=
  ∀ kind, upcoming rest = some kind → kind = .or ∨ kind = .closeParen

-- What may stand behind a disjunction, blanks aside.
def EndsDisjunction (rest : List Token) : Prop :=
  ∀ kind, upcoming rest = some kind → kind = .closeParen

theorem EndsDisjunction.endsConjunction {rest : List Token} (h : EndsDisjunction rest) :
    EndsConjunction rest :=
  fun kind hk => Or.inr (h kind hk)

theorem EndsConjunction.endsOperand {rest : List Token} (h : EndsConjunction rest) :
    EndsOperand rest := by
  intro hc
  rcases h _ hc with hk | hk <;> cases hk

theorem endsOperand_conjuncts (conjuncts : Conjuncts) {rest : List Token}
    (hr : EndsConjunction rest) : EndsOperand (conjuncts.tokens ++ rest) := by
  cases conjuncts with
  | none => exact hr.endsOperand
  | explicit gap connective next last =>
      rw [Conjuncts.tokens, List.append_assoc, List.cons_append, EndsOperand,
        upcoming_gap_mark (by decide)]
      decide
  | adjacent next last =>
      obtain ⟨kind, hu, hs⟩ := upcoming_negation next (last.tokens ++ rest)
      rw [Conjuncts.tokens, List.append_assoc, EndsOperand, hu]
      rintro ⟨⟩
      cases hs

theorem endsConjunction_alternatives (alternatives : Alternatives) {rest : List Token}
    (hr : EndsDisjunction rest) : EndsConjunction (alternatives.tokens ++ rest) := by
  cases alternatives with
  | none => exact hr.endsConjunction
  | more gap connective next last =>
      intro kind hk
      rw [Alternatives.tokens, List.append_assoc, List.cons_append,
        upcoming_gap_mark (by decide)] at hk
      cases hk
      exact Or.inl rfl

theorem endsDisjunction_close (gap : Gap) (closing : Mark .closeParen) (rest : List Token) :
    EndsDisjunction (gap.tokens ++ closing.val :: rest) := by
  intro kind hk
  rw [upcoming_gap_mark (by decide)] at hk
  cases hk
  rfl

-- Blanks go as far as they can.
theorem gap_inj {gap gap' : Gap} {token token' : Token} {rest rest' : List Token}
    (ht : token.kind ≠ .blank) (ht' : token'.kind ≠ .blank)
    (h : gap.tokens ++ token :: rest = gap'.tokens ++ token' :: rest') :
    gap = gap' ∧ token = token' ∧ rest = rest' := by
  induction gap generalizing gap' with
  | nil =>
      cases gap' with
      | nil =>
          obtain ⟨rfl, rfl⟩ := List.cons.inj h
          exact ⟨rfl, rfl, rfl⟩
      | cons blank gap' =>
          obtain ⟨rfl, _⟩ := List.cons.inj h
          exact absurd blank.property ht
  | cons blank gap ih =>
      cases gap' with
      | nil =>
          obtain ⟨rfl, _⟩ := List.cons.inj h
          exact absurd blank.property ht'
      | cons blank' gap' =>
          obtain ⟨hb, hrest⟩ := List.cons.inj h
          obtain ⟨rfl, hu⟩ := ih hrest
          exact ⟨congrArg (· :: gap) (Subtype.ext hb), hu⟩

theorem gap_mark_inj {kind : Token.Kind} (hk : kind ≠ .blank) {gap gap' : Gap}
    {token token' : Mark kind} {rest rest' : List Token}
    (h : gap.tokens ++ token.val :: rest = gap'.tokens ++ token'.val :: rest') :
    gap = gap' ∧ token = token' ∧ rest = rest' := by
  obtain ⟨hg, ht, hr⟩ := gap_inj (by rwa [token.property]) (by rwa [token'.property]) h
  exact ⟨hg, Subtype.ext ht, hr⟩

theorem qualifiers_inj {qualifiers qualifiers' : List Qualifier} {rest rest' : List Token}
    (hr : EndsOperand rest) (hr' : EndsOperand rest')
    (h : Qualifier.tokens qualifiers ++ rest = Qualifier.tokens qualifiers' ++ rest') :
    qualifiers = qualifiers' ∧ rest = rest' := by
  induction qualifiers generalizing qualifiers' with
  | nil =>
      cases qualifiers' with
      | nil => exact ⟨rfl, h⟩
      | cons qualifier' qualifiers' =>
          have hu : upcoming rest = some .colon := by
            simp [show rest = _ from h, Qualifier.tokens, upcoming, qualifier'.1.property]
          exact absurd hu hr
  | cons qualifier qualifiers ih =>
      cases qualifiers' with
      | nil =>
          have hu : upcoming rest' = some .colon := by
            simp [show rest' = _ from h.symm, Qualifier.tokens, upcoming, qualifier.1.property]
          exact absurd hu hr'
      | cons qualifier' qualifiers' =>
          obtain ⟨hc, hrest⟩ := List.cons.inj h
          obtain ⟨hv, hrest⟩ := List.cons.inj hrest
          obtain ⟨hq, he⟩ := ih hrest
          have hh : qualifier = qualifier' := Prod.ext (Subtype.ext hc) (Subtype.ext hv)
          exact ⟨by rw [hh, hq], he⟩

theorem AtomForm.tokens_inj {form form' : AtomForm} {rest rest' : List Token}
    (hr : EndsOperand rest) (hr' : EndsOperand rest')
    (h : form.tokens ++ rest = form'.tokens ++ rest') : form = form' ∧ rest = rest' := by
  cases form with
  | values head qualifiers =>
      cases form' with
      | values head' qualifiers' =>
          obtain ⟨hh, htail⟩ := List.cons.inj h
          obtain ⟨rfl, he⟩ := qualifiers_inj hr hr' htail
          exact ⟨congrArg (AtomForm.values · qualifiers) (Subtype.ext hh), he⟩
      | call family' opening' name' qualifiers' =>
          obtain ⟨hh, _⟩ := List.cons.inj h
          have hk := hh ▸ opening'.property
          rcases value_kind head with hv | hv <;> rw [hv] at hk <;> cases hk
  | call family opening name qualifiers =>
      cases form' with
      | values head' qualifiers' =>
          obtain ⟨hh, _⟩ := List.cons.inj h
          have hk := hh ▸ opening.property
          rcases value_kind head' with hv | hv <;> rw [hv] at hk <;> cases hk
      | call family' opening' name' qualifiers' =>
          obtain ⟨hh, htail⟩ := List.cons.inj h
          obtain ⟨hn, htail⟩ := List.cons.inj htail
          obtain ⟨rfl, he⟩ := qualifiers_inj hr hr' htail
          have hf : Token.Kind.family family = .family family' := by
            rw [← opening.property, hh, opening'.property]
          cases hf
          obtain rfl : opening = opening' := Subtype.ext hh
          obtain rfl : name = name' := Subtype.ext hn
          exact ⟨rfl, he⟩

mutual

theorem Disjunction.tokens_inj {disjunction disjunction' : Disjunction} {rest rest' : List Token}
    (hr : EndsDisjunction rest) (hr' : EndsDisjunction rest')
    (h : disjunction.tokens ++ rest = disjunction'.tokens ++ rest') :
    disjunction = disjunction' ∧ rest = rest' := by
  obtain ⟨first, alternatives⟩ := disjunction
  obtain ⟨first', alternatives'⟩ := disjunction'
  simp only [Disjunction.tokens, List.append_assoc] at h
  obtain ⟨rfl, htail⟩ := Conjunction.tokens_inj (endsConjunction_alternatives alternatives hr)
    (endsConjunction_alternatives alternatives' hr') h
  obtain ⟨rfl, he⟩ := Alternatives.tokens_inj hr hr' htail
  exact ⟨rfl, he⟩
termination_by structural disjunction

theorem Alternatives.tokens_inj {alternatives alternatives' : Alternatives}
    {rest rest' : List Token} (hr : EndsDisjunction rest) (hr' : EndsDisjunction rest')
    (h : alternatives.tokens ++ rest = alternatives'.tokens ++ rest') :
    alternatives = alternatives' ∧ rest = rest' := by
  cases alternatives with
  | none =>
      cases alternatives' with
      | none => exact ⟨rfl, h⟩
      | more gap' connective' next' last' =>
          simp only [Alternatives.tokens, List.append_assoc, List.cons_append,
            List.nil_append] at h
          have hu := hr .or (h ▸ upcoming_gap_mark (by decide) gap' connective' _)
          cases hu
  | more gap connective next last =>
      cases alternatives' with
      | none =>
          simp only [Alternatives.tokens, List.append_assoc, List.cons_append,
            List.nil_append] at h
          have hu := hr' .or (h ▸ upcoming_gap_mark (by decide) gap connective _)
          cases hu
      | more gap' connective' next' last' =>
          simp only [Alternatives.tokens, List.append_assoc, List.cons_append] at h
          obtain ⟨rfl, rfl, htail⟩ := gap_mark_inj (by decide) h
          obtain ⟨rfl, hlast⟩ := Conjunction.tokens_inj (endsConjunction_alternatives last hr)
            (endsConjunction_alternatives last' hr') htail
          obtain ⟨rfl, he⟩ := Alternatives.tokens_inj hr hr' hlast
          exact ⟨rfl, he⟩
termination_by structural alternatives

theorem Conjunction.tokens_inj {conjunction conjunction' : Conjunction} {rest rest' : List Token}
    (hr : EndsConjunction rest) (hr' : EndsConjunction rest')
    (h : conjunction.tokens ++ rest = conjunction'.tokens ++ rest') :
    conjunction = conjunction' ∧ rest = rest' := by
  obtain ⟨first, conjuncts⟩ := conjunction
  obtain ⟨first', conjuncts'⟩ := conjunction'
  simp only [Conjunction.tokens, List.append_assoc] at h
  obtain ⟨rfl, htail⟩ := Negation.tokens_inj (endsOperand_conjuncts conjuncts hr)
    (endsOperand_conjuncts conjuncts' hr') h
  obtain ⟨rfl, he⟩ := Conjuncts.tokens_inj hr hr' htail
  exact ⟨rfl, he⟩
termination_by structural conjunction

theorem Conjuncts.tokens_inj {conjuncts conjuncts' : Conjuncts} {rest rest' : List Token}
    (hr : EndsConjunction rest) (hr' : EndsConjunction rest')
    (h : conjuncts.tokens ++ rest = conjuncts'.tokens ++ rest') :
    conjuncts = conjuncts' ∧ rest = rest' := by
  cases conjuncts with
  | none =>
      cases conjuncts' with
      | none => exact ⟨rfl, h⟩
      | explicit gap' connective' next' last' =>
          simp only [Conjuncts.tokens, List.append_assoc, List.cons_append, List.nil_append] at h
          rcases hr .and (h ▸ upcoming_gap_mark (by decide) gap' connective' _) with hu | hu <;>
            cases hu
      | adjacent next' last' =>
          simp only [Conjuncts.tokens, List.append_assoc, List.nil_append] at h
          obtain ⟨kind, hu, hs⟩ := upcoming_negation next' (last'.tokens ++ rest')
          rcases hr kind (h ▸ hu) with rfl | rfl <;> cases hs
  | explicit gap connective next last =>
      cases conjuncts' with
      | none =>
          simp only [Conjuncts.tokens, List.append_assoc, List.cons_append, List.nil_append] at h
          rcases hr' .and (h ▸ upcoming_gap_mark (by decide) gap connective _) with hu | hu <;>
            cases hu
      | explicit gap' connective' next' last' =>
          simp only [Conjuncts.tokens, List.append_assoc, List.cons_append] at h
          obtain ⟨rfl, rfl, htail⟩ := gap_mark_inj (by decide) h
          obtain ⟨rfl, hlast⟩ := Negation.tokens_inj (endsOperand_conjuncts last hr)
            (endsOperand_conjuncts last' hr') htail
          obtain ⟨rfl, he⟩ := Conjuncts.tokens_inj hr hr' hlast
          exact ⟨rfl, he⟩
      | adjacent next' last' =>
          simp only [Conjuncts.tokens, List.append_assoc, List.cons_append] at h
          obtain ⟨kind, hu, hs⟩ := upcoming_negation next' (last'.tokens ++ rest')
          rw [← h, upcoming_gap_mark (by decide)] at hu
          cases hu
          cases hs
  | adjacent next last =>
      cases conjuncts' with
      | none =>
          simp only [Conjuncts.tokens, List.append_assoc, List.nil_append] at h
          obtain ⟨kind, hu, hs⟩ := upcoming_negation next (last.tokens ++ rest)
          rcases hr' kind (h ▸ hu) with rfl | rfl <;> cases hs
      | explicit gap' connective' next' last' =>
          simp only [Conjuncts.tokens, List.append_assoc, List.cons_append] at h
          obtain ⟨kind, hu, hs⟩ := upcoming_negation next (last.tokens ++ rest)
          rw [h, upcoming_gap_mark (by decide)] at hu
          cases hu
          cases hs
      | adjacent next' last' =>
          simp only [Conjuncts.tokens, List.append_assoc] at h
          obtain ⟨rfl, hlast⟩ := Negation.tokens_inj (endsOperand_conjuncts last hr)
            (endsOperand_conjuncts last' hr') h
          obtain ⟨rfl, he⟩ := Conjuncts.tokens_inj hr hr' hlast
          exact ⟨rfl, he⟩
termination_by structural conjuncts

theorem Negation.tokens_inj {negation negation' : Negation} {rest rest' : List Token}
    (hr : EndsOperand rest) (hr' : EndsOperand rest')
    (h : negation.tokens ++ rest = negation'.tokens ++ rest') :
    negation = negation' ∧ rest = rest' := by
  cases negation with
  | negated gap connective body =>
      cases negation' with
      | negated gap' connective' body' =>
          simp only [Negation.tokens, List.append_assoc, List.cons_append] at h
          obtain ⟨rfl, rfl, htail⟩ := gap_mark_inj (by decide) h
          obtain ⟨rfl, he⟩ := Group.tokens_inj hr hr' htail
          exact ⟨rfl, he⟩
      | plain body' =>
          simp only [Negation.tokens, List.append_assoc, List.cons_append] at h
          obtain ⟨kind, hu, hn⟩ := upcoming_group body' rest'
          rw [← h, upcoming_gap_mark (by decide)] at hu
          exact absurd (Option.some.inj hu).symm hn
  | plain body =>
      cases negation' with
      | negated gap' connective' body' =>
          simp only [Negation.tokens, List.append_assoc, List.cons_append] at h
          obtain ⟨kind, hu, hn⟩ := upcoming_group body rest
          rw [h, upcoming_gap_mark (by decide)] at hu
          exact absurd (Option.some.inj hu).symm hn
      | plain body' =>
          obtain ⟨rfl, he⟩ := Group.tokens_inj hr hr' h
          exact ⟨rfl, he⟩
termination_by structural negation

theorem Group.tokens_inj {group group' : Group} {rest rest' : List Token}
    (hr : EndsOperand rest) (hr' : EndsOperand rest')
    (h : group.tokens ++ rest = group'.tokens ++ rest') : group = group' ∧ rest = rest' := by
  cases group with
  | parens gap opening body inner closing =>
      cases group' with
      | parens gap' opening' body' inner' closing' =>
          simp only [Group.tokens, List.append_assoc, List.cons_append, List.nil_append] at h
          obtain ⟨rfl, rfl, htail⟩ := gap_mark_inj (by decide) h
          obtain ⟨rfl, hclose⟩ := Disjunction.tokens_inj
            (endsDisjunction_close inner closing rest)
            (endsDisjunction_close inner' closing' rest') htail
          obtain ⟨rfl, rfl, he⟩ := gap_mark_inj (by decide) hclose
          exact ⟨rfl, he⟩
      | atom gap' form' =>
          simp only [Group.tokens, List.append_assoc, List.cons_append] at h
          obtain ⟨kind, hu, ho⟩ := upcoming_form gap' form' rest'
          rw [← h, upcoming_gap_mark (by decide)] at hu
          exact absurd (Option.some.inj hu).symm ho
  | atom gap form =>
      cases group' with
      | parens gap' opening' body' inner' closing' =>
          simp only [Group.tokens, List.append_assoc, List.cons_append] at h
          obtain ⟨kind, hu, ho⟩ := upcoming_form gap form rest
          rw [h, upcoming_gap_mark (by decide)] at hu
          exact absurd (Option.some.inj hu).symm ho
      | atom gap' form' =>
          simp only [Group.tokens, List.append_assoc] at h
          obtain ⟨first, others, ht, hs, _⟩ := form.tokens_eq
          obtain ⟨first', others', ht', hs', _⟩ := form'.tokens_eq
          rw [ht, ht'] at h
          obtain ⟨rfl, hfirst, hothers⟩ := gap_inj (startsOperand_ne_blank hs)
            (startsOperand_ne_blank hs') h
          have hform : form.tokens ++ rest = form'.tokens ++ rest' := by
            rw [ht, ht', hfirst]
            exact congrArg (first' :: ·) hothers
          obtain ⟨rfl, he⟩ := AtomForm.tokens_inj hr hr' hform
          exact ⟨rfl, he⟩
termination_by structural group

end

theorem Gap.tokens_inj {gap gap' : Gap} (h : gap.tokens = gap'.tokens) : gap = gap' :=
  (List.map_inj_right fun _ _ he => Subtype.ext he).mp h

-- A token list has at most one derivation.
theorem derivation_unique {derivation derivation' : Derivation}
    (h : derivation.tokens = derivation'.tokens) : derivation = derivation' := by
  obtain ⟨body, trailing⟩ := derivation
  obtain ⟨body', trailing'⟩ := derivation'
  have hends : ∀ gap : Gap, EndsDisjunction gap.tokens := by
    intro gap kind hk
    have hu := upcoming_gap gap []
    rw [List.append_nil] at hu
    rw [hu] at hk
    cases hk
  obtain ⟨rfl, ht⟩ := Disjunction.tokens_inj (hends trailing) (hends trailing') h
  rw [Gap.tokens_inj ht]

end VaultQuery.Query.Grammar
