import VaultQuery.Proofs.Filter.Chains
import VaultQuery.Proofs.Grammar.Shift
import VaultQuery.Query.Evaluate
import VaultQuery.Website.Builtin

namespace VaultQuery.Query

-- A text that is a query, with what it means.
structure QueryText where
  text : String
  query : Query
  parse_eq : parse text = .ok query

namespace QueryText

def parenthesized (part : QueryText) : String :=
  "(" ++ part.text ++ ")"

-- The texts in parentheses with AND between them.
def conjunction (parts : List QueryText) : String :=
  " AND ".intercalate (parts.map parenthesized)

-- A quote at the start of a bare word could find its end in a text behind it.
def OpensNoQuote (part : QueryText) : Prop :=
  ∀ token ∈ tokenize part.text, token.kind = .literal → token.text.toList.head? ≠ some '"'

instance (part : QueryText) : Decidable part.OpensNoQuote :=
  inferInstanceAs (Decidable (∀ token ∈ tokenize part.text,
    token.kind = .literal → token.text.toList.head? ≠ some '"'))

theorem OpensNoQuote.sealed {part : QueryText} (h : part.OpensNoQuote) (after : List Char) :
    Token.Sealed (tokenize part.text) after := by
  intro token ht hk hq
  exact absurd hq (h token ht hk)

end QueryText

namespace QueryText

-- What the text means in parentheses that open at a byte position.
def placed (start : Nat) (part : QueryText) : Query :=
  .parens ⟨start, start + part.text.utf8ByteSize + 2⟩ ((unrooted part.query).shift (start + 1))

-- The same for several texts. Two parentheses and five bytes of the connective stand between the
-- starts of a text and of the next one.
def placedFrom : Nat → List QueryText → List Query
  | _, [] => []
  | start, part :: parts =>
    part.placed start :: placedFrom (start + part.text.utf8ByteSize + 7) parts

end QueryText

-- The conjunction of queries, joined from left to right.
def conjoin (first : Query) (rest : List Query) : Query :=
  rest.foldl (fun left right => .and (left.span.cover right.span) left right) first

namespace Grammar

open QueryText Token

-- The tokens of a text in parentheses are its own, between those of the parentheses.
theorem scan_parenthesized (part : QueryText) {after : List Char}
    (hs : Sealed (tokenize part.text) after) (start : Nat) :
    scan start 0 (part.parenthesized.toList ++ after) =
      ⟨.openParen, "(", start⟩ :: ((tokenize part.text).map (shift (start + 1)) ++
        ⟨.closeParen, ")", start + part.text.utf8ByteSize + 1⟩ ::
          scan (start + part.text.utf8ByteSize + 2) 0 after) := by
  have hinner : scan (start + 1) 0 part.text.toList =
      (tokenize part.text).map (shift (start + 1)) := by
    have h := scan_add 0 (start + 1) 0 part.text.toList
    rwa [Nat.zero_add] at h
  have hsealed : Sealed (scan (start + 1) 0 part.text.toList) after := by
    rw [hinner]
    intro token ht
    obtain ⟨unshifted, hu, rfl⟩ := List.mem_map.mp ht
    exact hs unshifted hu
  have hbody := scan_append_closeParen hsealed
  have hopening := scan_append (leads_openParen (part.text.toList ++ ')' :: after)) start
  have hclosing := scan_append (leads_closeParen after) (start + part.text.utf8ByteSize + 1)
  have hsplit : part.parenthesized.toList ++ after =
      "(".toList ++ (part.text.toList ++ ')' :: after) := by
    simp [parenthesized]
  rw [Text.byteLength_toList, Nat.add_right_comm] at hbody
  rw [hsplit, hopening]
  refine congrArg _ (hbody.trans ?_)
  rw [hinner]
  exact congrArg _ hclosing

-- A query text in parentheses is an operand, wherever it stands.
theorem exists_group (part : QueryText) {after : List Char}
    (hs : Sealed (tokenize part.text) after) (gap : Gap) (start : Nat) :
    ∃ group : Group,
      gap.tokens ++ scan start 0 (part.parenthesized.toList ++ after) =
        group.tokens ++ scan (start + part.text.utf8ByteSize + 2) 0 after ∧
      group.tree.traverse Atom.resolve = .ok (part.placed start) := by
  obtain ⟨derivation, inner, ht, hi, hquery⟩ := (parse_eq_ok_iff _ _).mp part.parse_eq
  have hread := read_shift (start + 1) (read_tokens derivation 0) 0
  obtain ⟨shifted, hst, hstree⟩ := (read_eq_ok_iff _ _ _).mp hread
  have hmeaning : shifted.tree.traverse Atom.resolve = .ok (inner.shift (start + 1)) := by
    rw [hstree]
    refine Tree.traverse_shift ?_ hi
    intro span atom clause hc
    exact Atom.resolve_of_ok hc _
  have hscan := scan_parenthesized part hs start
  rw [← ht, ← hst] at hscan
  refine ⟨.parens gap ⟨⟨.openParen, "(", start⟩, rfl⟩ shifted.body shifted.trailing
    ⟨⟨.closeParen, ")", start + part.text.utf8ByteSize + 1⟩, rfl⟩, ?_, ?_⟩
  · rw [hscan]
    simp [Group.tokens, Derivation.tokens]
  · have hbody : shifted.body.tree.traverse Atom.resolve = .ok (inner.shift (start + 1)) :=
      hmeaning
    have hbyte : Text.byteLength ")".toList = 1 := rfl
    simp only [Group.tree, Tree.traverse, hbody, placed, hquery, unrooted, stop, hbyte]
    rfl

-- The connective in front of the parentheses has five bytes.
theorem exists_operand (part : QueryText) {after : List Char}
    (hs : Sealed (tokenize part.text) after) (offset : Nat) :
    ∃ operand : Operand .and,
      scan offset 0 (" AND ".toList ++ (part.parenthesized.toList ++ after)) =
        Operand.tokens [operand] ++ scan (offset + 5 + part.text.utf8ByteSize + 2) 0 after ∧
      operand.group.tree.traverse Atom.resolve = .ok (part.placed (offset + 5)) := by
  have hparens : ∀ c ∈ (part.parenthesized.toList ++ after).head?, Text.isBlank c = false := by
    have hb : Text.isBlank '(' = false := by decide
    simp [parenthesized, hb]
  have hword : ∀ c ∈ ("AND".toList ++ (" ".toList ++ (part.parenthesized.toList ++ after))).head?,
      Text.isBlank c = false := by
    have hb : Text.isBlank 'A' = false := by decide
    simp [hb]
  have hbefore := scan_append (leads_space hword) offset
  have hand := scan_append (leads_and (part.parenthesized.toList ++ after)) (offset + 1)
  have hbehind := scan_append (leads_space hparens) (offset + 4)
  obtain ⟨group, hgroup, hmeaning⟩ :=
    exists_group part hs [⟨⟨.blank, " ", offset + 4⟩, rfl⟩] (offset + 5)
  refine ⟨⟨[⟨⟨.blank, " ", offset⟩, rfl⟩], ⟨⟨.and, "AND", offset + 1⟩, rfl⟩, group⟩, ?_, hmeaning⟩
  calc scan offset 0 (" AND ".toList ++ (part.parenthesized.toList ++ after))
      = ⟨.blank, " ", offset⟩ :: ⟨.and, "AND", offset + 1⟩ :: ⟨.blank, " ", offset + 4⟩ ::
          scan (offset + 5) 0 (part.parenthesized.toList ++ after) :=
        hbefore.trans (congrArg _ (hand.trans (congrArg _ hbehind)))
    _ = ⟨.blank, " ", offset⟩ :: ⟨.and, "AND", offset + 1⟩ ::
          (group.tokens ++ scan (offset + 5 + part.text.utf8ByteSize + 2) 0 after) := by
        rw [← hgroup]
        rfl
    _ = _ := by simp [Operand.tokens]

-- A quote may be left open in the last text, since no quote stands behind it.
theorem sealed_tailText {part : QueryText} {parts : List QueryText}
    (h : ∀ other ∈ (part :: parts).dropLast, other.OpensNoQuote) :
    Sealed (tokenize part.text) (tailText " AND " parenthesized parts) := by
  cases parts with
  | nil =>
      intro token _ _ _
      exact List.not_mem_nil
  | cons next parts => exact (h part (by simp)).sealed _

theorem opensNoQuote_of_cons {part : QueryText} {parts : List QueryText}
    (h : ∀ other ∈ (part :: parts).dropLast, other.OpensNoQuote) :
    ∀ other ∈ parts.dropLast, other.OpensNoQuote := by
  intro other ho
  cases parts with
  | nil => exact absurd ho List.not_mem_nil
  | cons next parts => exact h other (List.mem_cons_of_mem part ho)

theorem exists_operands (parts : List QueryText)
    (h : ∀ part ∈ parts.dropLast, part.OpensNoQuote) (offset : Nat) :
    ∃ operands : List (Operand .and),
      scan offset 0 (tailText " AND " parenthesized parts) = Operand.tokens operands ∧
      ∀ left before, left.traverse Atom.resolve = .ok before →
        (Operand.foldOnto .and left operands).traverse Atom.resolve =
          .ok (conjoin before (placedFrom (offset + 5) parts)) := by
  induction parts generalizing offset with
  | nil =>
      refine ⟨[], rfl, ?_⟩
      intro left before hl
      exact hl
  | cons part parts ih =>
      obtain ⟨operand, hscan, hmeaning⟩ := exists_operand part (sealed_tailText h) offset
      obtain ⟨operands, hrest, hfold⟩ :=
        ih (opensNoQuote_of_cons h) (offset + 5 + part.text.utf8ByteSize + 2)
      refine ⟨operand :: operands, ?_, ?_⟩
      · have hcons := @tailText_cons _ parenthesized " AND " part parts []
        rw [List.append_nil, List.append_nil] at hcons
        rw [hcons, hscan, hrest]
        simp [Operand.tokens]
      · intro left before hl
        apply hfold
        simp only [Tree.traverse, hl, hmeaning, Tree.span_of_traverse hl,
          Tree.span_of_traverse hmeaning]
        rfl

theorem parse_conjunction (first : QueryText) (rest : List QueryText)
    (h : ∀ part ∈ (first :: rest).dropLast, part.OpensNoQuote) :
    let tree := conjoin (first.placed 0) (placedFrom (first.text.utf8ByteSize + 7) rest)
    parse (conjunction (first :: rest)) = .ok (.search tree.span tree) := by
  intro tree
  obtain ⟨group, hgroup, hmeaning⟩ := exists_group first (sealed_tailText h) [] 0
  obtain ⟨operands, hrest, hfold⟩ :=
    exists_operands rest (opensNoQuote_of_cons h) (first.text.utf8ByteSize + 2)
  have htree : (Conjunction.mk (.plain group) (.ofOperands operands)).tree.traverse Atom.resolve =
      .ok tree := by
    rw [Conjunction.tree, Conjuncts.onto_ofOperands]
    exact hfold _ _ hmeaning
  refine (parse_eq_ok_iff _ _).mpr
    ⟨⟨.mk (.mk (.plain group) (.ofOperands operands)) .none, []⟩, tree, ?_, htree, rfl⟩
  rw [Gap.tokens_nil, List.nil_append, Nat.zero_add, hrest] at hgroup
  rw [tokenize, conjunction, toList_intercalate_map, hgroup]
  simp [Derivation.tokens, Disjunction.tokens, Conjunction.tokens, Negation.tokens,
    Alternatives.tokens, Conjuncts.tokens_ofOperands]

end Grammar

section Results

variable [Website.Services]

-- A query means the same wherever it stands.
@[simp] theorem evaluate_shift (options : Options) (distance : Nat) (query : Query)
    (vault : Vault) :
    evaluate options (query.shift distance) vault = evaluate options query vault := by
  induction query generalizing vault with
  | search span body ih | parens span body ih => exact ih vault
  | or span left right ihl ihr => simp only [Tree.shift, evaluate, ihl, ihr]
  | and span left right ihl ihr => simp only [Tree.shift, evaluate, ihl, ihr]
  | not span body ih => simp only [Tree.shift, evaluate, ih]
  | leaf span content => cases content <;> rfl

@[simp] theorem evaluate_unrooted (options : Options) (query : Query) (vault : Vault) :
    evaluate options (unrooted query) vault = evaluate options query vault := by
  cases query <;> rfl

@[simp] theorem QueryText.evaluate_placed (options : Options) (start : Nat) (part : QueryText)
    (vault : Vault) :
    evaluate options (part.placed start) vault = evaluate options part.query vault := by
  simp only [placed, evaluate, evaluate_shift, evaluate_unrooted]

theorem evaluate_conjoin (options : Options) (first : Query) (rest : List Query) (vault : Vault) :
    evaluate options (conjoin first rest) vault =
      rest.foldl (fun vault query => evaluate options query vault)
        (evaluate options first vault) := by
  induction rest generalizing first with
  | nil => rfl
  | cons query rest ih => exact ih _

theorem QueryText.evaluate_placedFrom (options : Options) (start : Nat) (parts : List QueryText)
    (vault : Vault) :
    (placedFrom start parts).foldl (fun vault query => evaluate options query vault) vault =
      parts.foldl (fun vault part => evaluate options part.query vault) vault := by
  induction parts generalizing start vault with
  | nil => rfl
  | cons part parts ih => simp only [placedFrom, List.foldl_cons, evaluate_placed, ih]

-- Query texts in parentheses with AND between them are a query whose tree joins theirs to the left,
-- if a quote is left open in the last one at most. Running it is running one query after the other.
theorem conjunction_runs_in_turn (first : QueryText) (rest : List QueryText)
    (h : ∀ part ∈ (first :: rest).dropLast, part.OpensNoQuote) :
    let tree := conjoin (first.placed 0)
      (QueryText.placedFrom (first.text.utf8ByteSize + 7) rest)
    parse (QueryText.conjunction (first :: rest)) = .ok (.search tree.span tree) ∧
      ∀ options vault, evaluate options (.search tree.span tree) vault =
        (first :: rest).foldl (fun vault part => evaluate options part.query vault) vault := by
  refine ⟨Grammar.parse_conjunction first rest h, ?_⟩
  intro options vault
  have hrun := evaluate_conjoin options (first.placed 0)
    (QueryText.placedFrom (first.text.utf8ByteSize + 7) rest) vault
  rw [QueryText.evaluate_placedFrom, QueryText.evaluate_placed] at hrun
  exact hrun

end Results

-- A backslash in front of the parenthesis takes nothing with it, and the parentheses keep the OR of
-- the first text together.
def QueryText.endsInBackslash : QueryText where
  text := "a OR \\"
  query := .search ⟨0, 6⟩ (.or ⟨0, 6⟩ (.leaf ⟨0, 1⟩ (.test (.term ⟨"a", false⟩)))
    (.leaf ⟨5, 6⟩ (.test (.term ⟨"\\", false⟩))))
  parse_eq := by decide

def QueryText.leavesQuoteOpen : QueryText where
  text := "\"b"
  query := .search ⟨0, 2⟩ (.leaf ⟨0, 2⟩ (.test (.term ⟨"\"b", false⟩)))
  parse_eq := by decide

theorem conjunction_with_open_quote_runs_in_turn :
    let tree : Query := .search ⟨0, 17⟩ (.and ⟨0, 17⟩
      (.parens ⟨0, 8⟩ (.or ⟨1, 7⟩ (.leaf ⟨1, 2⟩ (.test (.term ⟨"a", false⟩)))
        (.leaf ⟨6, 7⟩ (.test (.term ⟨"\\", false⟩)))))
      (.parens ⟨13, 17⟩ (.leaf ⟨14, 16⟩ (.test (.term ⟨"\"b", false⟩)))))
    (∀ part ∈ [QueryText.endsInBackslash, QueryText.leavesQuoteOpen].dropLast,
      part.OpensNoQuote) ∧
    parse "(a OR \\) AND (\"b)" = .ok tree ∧
      ∀ options vault, evaluate options tree vault =
        evaluate options QueryText.leavesQuoteOpen.query
          (evaluate options QueryText.endsInBackslash.query vault) := by
  intro tree
  have hquotes : ∀ part ∈ [QueryText.endsInBackslash, QueryText.leavesQuoteOpen].dropLast,
      part.OpensNoQuote := by decide
  obtain ⟨hparse, hrun⟩ := conjunction_runs_in_turn QueryText.endsInBackslash
    [QueryText.leavesQuoteOpen] hquotes
  exact ⟨hquotes, hparse, hrun⟩

-- In front of another text an open quote may be closed by a quote of that text.
example : (tokenize "(\"a) AND (b\")").map (·.kind) = [.openParen, .quoted, .closeParen] := by
  decide

end VaultQuery.Query
