import VaultQuery.Proofs.Grammar.Theorems
import VaultQuery.Proofs.Token.Cutting

namespace VaultQuery.Query

namespace Token

-- The tokens of a span, from the first to the last.
structure Spanned (tokens : List Token) (span : Span) : Prop where
  begins : ∃ first rest, tokens = first :: rest ∧ first.kind ≠ .blank ∧ first.offset = span.start
  ends : ∃ rest last, tokens = rest ++ [last] ∧ last.kind ≠ .blank ∧ last.stop = span.stop

-- The part of a text that a span stands for, between what is before and after it.
structure Splits (text : String) (span : Span) (before part after : List Char) : Prop where
  text_eq : text.toList = before ++ (part ++ after)
  start_eq : span.start = Text.byteLength before
  stop_eq : span.stop = Text.byteLength (before ++ part)

theorem Splits.slice_eq {text : String} {span : Span} {before part after : List Char}
    (h : Splits text span before part after) : span.slice text = String.ofList part := by
  have hlength : span.stop - span.start = Text.byteLength part := by
    rw [h.stop_eq, h.start_eq, Text.byteLength_append, Nat.add_sub_cancel_left]
  rw [Span.slice, Text.slice, hlength, h.start_eq, h.text_eq, Text.dropBytes_append,
    Text.takeBytes_append]

theorem Spanned.exists_splits {text : String} {span : Span} {first own second : List Token}
    (hs : Spanned own span) (h : tokenize text = first ++ (own ++ second)) :
    ∃ before part after, Splits text span before part after ∧
      own.flatMap (fun token => token.text.toList) = part ∧
      scan span.start 0 (part ++ after) = own ++ second ∧ scan span.stop 0 after = second := by
  obtain ⟨before, behind, htext, _, hown⟩ := exists_parts_of_scan h
  obtain ⟨part, after, rfl, hpart, hsecond⟩ := exists_parts_of_scan hown
  rw [Nat.zero_add] at hown hsecond
  rw [← Text.byteLength_append] at hsecond
  have hstart : span.start = Text.byteLength before := by
    obtain ⟨token, rest, rfl, _, ho⟩ := hs.begins
    have htiles := tiles_scan (Text.byteLength before) (part ++ after)
    rw [hown] at htiles
    rw [← ho, htiles.head_offset token rfl]
  have hstop : span.stop = Text.byteLength (before ++ part) := by
    obtain ⟨rest, token, rfl, _, ho⟩ := hs.ends
    rw [List.append_assoc] at hown
    obtain ⟨others, last, _, hothers, hlast⟩ := exists_parts_of_scan hown
    have htiles := tiles_scan (Text.byteLength before + Text.byteLength others) last
    rw [hlast] at htiles
    rw [← ho, stop, htiles.head_offset token rfl, ← hpart, List.flatMap_append, hothers,
      Text.byteLength_append, Text.byteLength_append, ← Nat.add_assoc]
    simp
  exact ⟨before, part, after, ⟨htext, hstart, hstop⟩, hpart, hstart ▸ hown, hstop ▸ hsecond⟩

end Token

namespace Grammar

open Token (Spanned)

-- What a node is derived from, the loosest part first.
inductive Rule where
  | disjunction
  | conjunction
  | negation
  | group

-- What may stand between two operands of a conjunction.
inductive Joint : List Token → Prop where
  | adjacent (gap : Gap) : Joint gap.tokens
  | explicit (before : Gap) (connective : Mark .and) (after : Gap) :
    Joint (before.tokens ++ connective.val :: after.tokens)

-- The derivation of a node from its own tokens, without the blanks around them.
inductive Forms : Rule → List Token → Tree Atom → Prop where
  | atom (form : AtomForm) : Forms .group form.tokens (.leaf form.span form.atom)
  | parens (opening : Mark .openParen) (before : Gap) {tokens : List Token} {body : Tree Atom}
    (hb : Forms .disjunction tokens body) (after : Gap) (closing : Mark .closeParen) :
    Forms .group
      (opening.val :: (before.tokens ++ (tokens ++ (after.tokens ++ [closing.val]))))
      (.parens ⟨opening.val.offset, closing.val.stop⟩ body)
  | not (connective : Mark .not) (gap : Gap) {tokens : List Token} {body : Tree Atom}
    (hb : Forms .group tokens body) :
    Forms .negation (connective.val :: (gap.tokens ++ tokens))
      (.not ⟨connective.val.offset, body.span.stop⟩ body)
  | and {first joint second : List Token} {left right : Tree Atom}
    (hl : Forms .conjunction first left) (hj : Joint joint) (hr : Forms .negation second right) :
    Forms .conjunction (first ++ (joint ++ second))
      (.and (left.span.cover right.span) left right)
  | or {first second : List Token} {left right : Tree Atom} (hl : Forms .disjunction first left)
    (before : Gap) (connective : Mark .or) (after : Gap) (hr : Forms .conjunction second right) :
    Forms .disjunction
      (first ++ (before.tokens ++ connective.val :: (after.tokens ++ second)))
      (.or (left.span.cover right.span) left right)
  | ofGroup {tokens : List Token} {tree : Tree Atom} (h : Forms .group tokens tree) :
    Forms .negation tokens tree
  | ofNegation {tokens : List Token} {tree : Tree Atom} (h : Forms .negation tokens tree) :
    Forms .conjunction tokens tree
  | ofConjunction {tokens : List Token} {tree : Tree Atom}
    (h : Forms .conjunction tokens tree) : Forms .disjunction tokens tree

mutual

theorem Disjunction.exists_forms (disjunction : Disjunction) :
    ∃ (gap : Gap) (tokens : List Token), disjunction.tokens = gap.tokens ++ tokens ∧
      Forms .disjunction tokens disjunction.tree := by
  cases disjunction with
  | mk first rest =>
      obtain ⟨gap, tokens, ht, hf⟩ := first.exists_forms
      refine ⟨gap, tokens ++ rest.tokens, ?_, rest.forms_onto (.ofConjunction hf)⟩
      rw [Disjunction.tokens, ht, List.append_assoc]

theorem Alternatives.forms_onto (rest : Alternatives) {tokens : List Token} {left : Tree Atom}
    (hl : Forms .disjunction tokens left) :
    Forms .disjunction (tokens ++ rest.tokens) (rest.onto left) := by
  cases rest with
  | none =>
      rw [Alternatives.tokens, List.append_nil]
      exact hl
  | more before connective next rest =>
      obtain ⟨after, second, ht, hf⟩ := next.exists_forms
      have hor := rest.forms_onto (.or hl before connective after hf)
      rw [Alternatives.tokens, Alternatives.onto, ht]
      simpa only [List.append_assoc, List.cons_append] using hor

theorem Conjunction.exists_forms (conjunction : Conjunction) :
    ∃ (gap : Gap) (tokens : List Token), conjunction.tokens = gap.tokens ++ tokens ∧
      Forms .conjunction tokens conjunction.tree := by
  cases conjunction with
  | mk first rest =>
      obtain ⟨gap, tokens, ht, hf⟩ := first.exists_forms
      refine ⟨gap, tokens ++ rest.tokens, ?_, rest.forms_onto (.ofNegation hf)⟩
      rw [Conjunction.tokens, ht, List.append_assoc]

theorem Conjuncts.forms_onto (rest : Conjuncts) {tokens : List Token} {left : Tree Atom}
    (hl : Forms .conjunction tokens left) :
    Forms .conjunction (tokens ++ rest.tokens) (rest.onto left) := by
  cases rest with
  | none =>
      rw [Conjuncts.tokens, List.append_nil]
      exact hl
  | explicit before connective next rest =>
      obtain ⟨after, second, ht, hf⟩ := next.exists_forms
      have hand := rest.forms_onto (.and hl (.explicit before connective after) hf)
      rw [Conjuncts.tokens, Conjuncts.onto, ht]
      simpa only [List.append_assoc, List.cons_append] using hand
  | adjacent next rest =>
      obtain ⟨gap, second, ht, hf⟩ := next.exists_forms
      have hand := rest.forms_onto (.and hl (.adjacent gap) hf)
      rw [Conjuncts.tokens, Conjuncts.onto, ht]
      simpa only [List.append_assoc] using hand

theorem Negation.exists_forms (negation : Negation) :
    ∃ (gap : Gap) (tokens : List Token), negation.tokens = gap.tokens ++ tokens ∧
      Forms .negation tokens negation.tree := by
  cases negation with
  | negated gap connective body =>
      obtain ⟨inner, tokens, ht, hf⟩ := body.exists_forms
      refine ⟨gap, _, ?_, .not connective inner hf⟩
      rw [Negation.tokens, ht]
  | plain body =>
      obtain ⟨gap, tokens, ht, hf⟩ := body.exists_forms
      exact ⟨gap, tokens, ht, .ofGroup hf⟩

theorem Group.exists_forms (group : Group) :
    ∃ (gap : Gap) (tokens : List Token), group.tokens = gap.tokens ++ tokens ∧
      Forms .group tokens group.tree := by
  cases group with
  | parens gap opening body inner closing =>
      obtain ⟨before, tokens, ht, hf⟩ := body.exists_forms
      refine ⟨gap, _, ?_, .parens opening before hf inner closing⟩
      rw [Group.tokens, ht, List.append_assoc]
  | atom gap form => exact ⟨gap, form.tokens, rfl, .atom form⟩

end

-- What it is for tokens behind a gap to be derived by a rule.
def Rule.Derives (tokens : List Token) (tree : Tree Atom) : Rule → Prop
  | .disjunction => ∀ gap : Gap,
    ∃ disjunction : Disjunction, disjunction.tokens = gap.tokens ++ tokens ∧
      disjunction.tree = tree
  | .conjunction => ∀ gap : Gap,
    ∃ conjunction : Conjunction, conjunction.tokens = gap.tokens ++ tokens ∧
      conjunction.tree = tree
  | .negation => ∀ gap : Gap,
    ∃ negation : Negation, negation.tokens = gap.tokens ++ tokens ∧ negation.tree = tree
  | .group => ∀ gap : Gap,
    ∃ group : Group, group.tokens = gap.tokens ++ tokens ∧ group.tree = tree

namespace Forms

variable {rule : Rule} {tokens : List Token} {tree : Tree Atom}

theorem derives (h : Forms rule tokens tree) : rule.Derives tokens tree := by
  induction h with
  | atom form =>
      intro gap
      exact ⟨.atom gap form, rfl, rfl⟩
  | parens opening before _ after closing ih =>
      intro gap
      obtain ⟨body, ht, rfl⟩ := ih before
      refine ⟨.parens gap opening body after closing, ?_, rfl⟩
      rw [Group.tokens, ht, List.append_assoc]
  | not connective inner _ ih =>
      intro gap
      obtain ⟨body, ht, rfl⟩ := ih inner
      refine ⟨.negated gap connective body, ?_, rfl⟩
      rw [Negation.tokens, ht]
  | and _ hj _ ihl ihr =>
      intro gap
      obtain ⟨left, hl, rfl⟩ := ihl gap
      cases hj with
      | adjacent inner =>
          obtain ⟨right, hr, rfl⟩ := ihr inner
          refine ⟨left.append (.adjacent right .none), ?_, ?_⟩
          · simp [Conjunction.tokens_append, Conjuncts.tokens, hl, hr]
          · rw [Conjunction.tree_append]
            rfl
      | explicit before connective after =>
          obtain ⟨right, hr, rfl⟩ := ihr after
          refine ⟨left.append (.explicit before connective right .none), ?_, ?_⟩
          · simp [Conjunction.tokens_append, Conjuncts.tokens, hl, hr]
          · rw [Conjunction.tree_append]
            rfl
  | or _ before connective after _ ihl ihr =>
      intro gap
      obtain ⟨left, hl, rfl⟩ := ihl gap
      obtain ⟨right, hr, rfl⟩ := ihr after
      refine ⟨left.append (.more before connective right .none), ?_, ?_⟩
      · simp [Disjunction.tokens_append, Alternatives.tokens, hl, hr]
      · rw [Disjunction.tree_append]
        rfl
  | ofGroup _ ih =>
      intro gap
      obtain ⟨group, ht, hg⟩ := ih gap
      exact ⟨.plain group, ht, hg⟩
  | ofNegation _ ih =>
      intro gap
      obtain ⟨negation, ht, hn⟩ := ih gap
      exact ⟨.mk negation .none, by simpa [Conjunction.tokens, Conjuncts.tokens] using ht, hn⟩
  | ofConjunction _ ih =>
      intro gap
      obtain ⟨conjunction, ht, hc⟩ := ih gap
      exact ⟨.mk conjunction .none, by simpa [Disjunction.tokens, Alternatives.tokens] using ht,
        hc⟩

theorem disjunction (h : Forms rule tokens tree) : Forms .disjunction tokens tree := by
  cases rule with
  | disjunction => exact h
  | conjunction => exact .ofConjunction h
  | negation => exact .ofConjunction (.ofNegation h)
  | group => exact .ofConjunction (.ofNegation (.ofGroup h))

-- The tokens of a node are a query on their own.
theorem read_eq (h : Forms rule tokens tree) (length : Nat) : read tokens length = .ok tree := by
  obtain ⟨body, ht, rfl⟩ := h.disjunction.derives []
  have hread := read_tokens ⟨body, []⟩ length
  rw [Derivation.tokens, ht] at hread
  simpa [Derivation.tree] using hread

-- Every node of a tree has a derivation from a stretch of the tokens.
theorem of_mem_preorder (h : Forms rule tokens tree) {depth : Nat} {entry : Nat × Tree Atom}
    (hm : entry ∈ tree.preorder depth) :
    ∃ (part : Rule) (own : List Token), own <:+: tokens ∧ Forms part own entry.2 := by
  induction h generalizing depth with
  | atom form =>
      rw [List.mem_singleton.mp hm]
      exact ⟨_, _, List.infix_rfl, .atom form⟩
  | @parens opening before tokens body hb after closing ih =>
      rcases List.mem_cons.mp hm with rfl | hm
      · exact ⟨_, _, List.infix_rfl, .parens opening before hb after closing⟩
      · obtain ⟨part, own, hown, hf⟩ := ih hm
        refine ⟨part, own, hown.trans ?_, hf⟩
        exact ⟨opening.val :: before.tokens, after.tokens ++ [closing.val], by simp⟩
  | @not connective gap tokens body hb ih =>
      rcases List.mem_cons.mp hm with rfl | hm
      · exact ⟨_, _, List.infix_rfl, .not connective gap hb⟩
      · obtain ⟨part, own, hown, hf⟩ := ih hm
        refine ⟨part, own, hown.trans ?_, hf⟩
        exact ⟨connective.val :: gap.tokens, [], by simp⟩
  | @and first joint second left right hl hj hr ihl ihr =>
      rcases List.mem_cons.mp hm with rfl | hm
      · exact ⟨_, _, List.infix_rfl, .and hl hj hr⟩
      rcases List.mem_append.mp hm with hm | hm
      · obtain ⟨part, own, hown, hf⟩ := ihl hm
        exact ⟨part, own, hown.trans (List.prefix_append _ _).isInfix, hf⟩
      · obtain ⟨part, own, hown, hf⟩ := ihr hm
        exact ⟨part, own, hown.trans ⟨first ++ joint, [], by simp⟩, hf⟩
  | @or first second left right hl before connective after hr ihl ihr =>
      rcases List.mem_cons.mp hm with rfl | hm
      · exact ⟨_, _, List.infix_rfl, .or hl before connective after hr⟩
      rcases List.mem_append.mp hm with hm | hm
      · obtain ⟨part, own, hown, hf⟩ := ihl hm
        exact ⟨part, own, hown.trans (List.prefix_append _ _).isInfix, hf⟩
      · obtain ⟨part, own, hown, hf⟩ := ihr hm
        refine ⟨part, own, hown.trans ?_, hf⟩
        exact ⟨first ++ (before.tokens ++ connective.val :: after.tokens), [], by simp⟩
  | ofGroup _ ih | ofNegation _ ih | ofConjunction _ ih => exact ih hm

end Forms

theorem value_kind_ne_blank (value : ValueToken) : value.val.kind ≠ .blank := by
  rcases value_kind value with hk | hk <;> simp [hk]

theorem exists_last_qualifier {token : Token} (hk : token.kind ≠ .blank)
    (qualifiers : List Qualifier) :
    ∃ rest last, token :: Qualifier.tokens qualifiers = rest ++ [last] ∧ last.kind ≠ .blank ∧
      last.stop = Qualifier.stop token.stop qualifiers := by
  induction qualifiers generalizing token with
  | nil => exact ⟨[], token, rfl, hk, rfl⟩
  | cons qualifier qualifiers ih =>
      obtain ⟨rest, last, ht, hl, hs⟩ := ih (value_kind_ne_blank qualifier.2)
      refine ⟨token :: qualifier.1.val :: rest, last, ?_, hl, hs⟩
      rw [List.cons_append, List.cons_append, ← ht]
      rfl

-- The last value of an atom is where its span stops.
theorem AtomForm.spanned (form : AtomForm) : Spanned form.tokens form.span := by
  cases form with
  | values head qualifiers =>
      have hk := value_kind_ne_blank head
      exact ⟨⟨head.val, _, rfl, hk, rfl⟩, exists_last_qualifier hk qualifiers⟩
  | call family opening name qualifiers =>
      have hk : name.val.kind ≠ .blank := by simp [name.property]
      obtain ⟨rest, last, ht, hl, hs⟩ := exists_last_qualifier hk qualifiers
      refine ⟨⟨opening.val, _, rfl, by simp [opening.property], rfl⟩, ?_⟩
      exact ⟨opening.val :: rest, last, by rw [AtomForm.tokens, ht, List.cons_append], hl, hs⟩

theorem Forms.spanned {rule : Rule} {tokens : List Token} {tree : Tree Atom}
    (h : Forms rule tokens tree) : Spanned tokens tree.span := by
  induction h with
  | atom form => exact form.spanned
  | @parens opening before tokens body hb after closing ih =>
      refine ⟨⟨_, _, rfl, by simp [opening.property], rfl⟩, ?_⟩
      refine ⟨opening.val :: (before.tokens ++ (tokens ++ after.tokens)), closing.val, by simp, ?_,
        rfl⟩
      simp [closing.property]
  | @not connective gap tokens body hb ih =>
      obtain ⟨rest, last, rfl, hk, hs⟩ := ih.ends
      refine ⟨⟨_, _, rfl, by simp [connective.property], rfl⟩, ?_⟩
      exact ⟨connective.val :: (gap.tokens ++ rest), last, by simp, hk, hs⟩
  | @and first joint second left right hl hj hr ihl ihr =>
      obtain ⟨token, others, hfirst, hk, ho⟩ := ihl.begins
      obtain ⟨rest, last, hsecond, hkl, hs⟩ := ihr.ends
      refine ⟨⟨token, others ++ (joint ++ second), by rw [hfirst, List.cons_append], hk, ho⟩, ?_⟩
      exact ⟨first ++ (joint ++ rest), last, by simp [hsecond], hkl, hs⟩
  | @or first second left right hl before connective after hr ihl ihr =>
      obtain ⟨token, others, hfirst, hk, ho⟩ := ihl.begins
      obtain ⟨rest, last, hsecond, hkl, hs⟩ := ihr.ends
      refine ⟨⟨token, _, by rw [hfirst, List.cons_append], hk, ho⟩, ?_⟩
      refine ⟨first ++ (before.tokens ++ connective.val :: (after.tokens ++ rest)), last, ?_, hkl,
        hs⟩
      simp [hsecond]
  | ofGroup _ ih | ofNegation _ ih | ofConjunction _ ih => exact ih

-- Every node of a query has a derivation from a stretch of the tokens of the text.
theorem exists_forms_of_parse {text : String} {query : Query} (h : parse text = .ok query) :
    ∃ body : Query, query = .search body.span body ∧
      ∀ entry ∈ body.preorder 1, ∃ (rule : Rule) (own : List Token) (shape : Tree Atom),
        own <:+: tokenize text ∧ Forms rule own shape ∧
          shape.traverse Atom.resolve = .ok entry.2 := by
  obtain ⟨derivation, body, ht, hb, rfl⟩ := (parse_eq_ok_iff text query).mp h
  obtain ⟨gap, tokens, hbody, hf⟩ := derivation.body.exists_forms
  refine ⟨body, rfl, ?_⟩
  intro entry he
  obtain ⟨shape, hs, hr⟩ := Tree.mem_preorder_of_traverse hb he
  obtain ⟨rule, own, hown, hforms⟩ := hf.of_mem_preorder hs
  refine ⟨rule, own, shape, hown.trans ?_, hforms, hr⟩
  rw [← ht, Derivation.tokens, hbody]
  exact ⟨gap.tokens, derivation.trailing.tokens, rfl⟩

end Grammar

end VaultQuery.Query
