import Mathlib.Data.List.Forall2
import VaultQuery.Proofs.Filter.Predicates

namespace VaultQuery.Query.Grammar

open Token

variable {α : Type} {spell : α → String} {meets : α → Query → Prop}

-- The operands of a left fold of one connective, each of which means an item.
inductive Chain (node : Span → Query → Query → Query) (meets : α → Query → Prop) :
    Query → List α → Prop where
  | one {query : Query} {item : α} (h : meets item query) : Chain node meets query [item]
  | more {left right : Query} {items : List α} {item : α} (span : Span)
    (hl : Chain node meets left items) (hr : meets item right) :
    Chain node meets (node span left right) (items ++ [item])

-- Flattening gives back the operands when it takes the connective apart and nothing else.
theorem Chain.forall₂_operands {node : Span → Query → Query → Query}
    (operands : Query → List Query)
    (hnode : ∀ span left right, operands (node span left right) = operands left ++ operands right)
    (hone : ∀ item query, meets item query → operands query = [query]) {query : Query}
    {items : List α} (h : Chain node meets query items) :
    List.Forall₂ meets items (operands query) := by
  induction h with
  | one h =>
      rw [hone _ _ h]
      exact .cons h .nil
  | more span _ hr ih =>
      rw [hnode, hone _ _ hr]
      exact List.rel_append ih (.cons hr .nil)

-- A separator is a connective between two blanks.
def Separates (kind : Kind) (separator : String) : Prop :=
  ∃ word : String, separator = " " ++ word ++ " " ∧
    (∃ c cs, word.toList = c :: cs ∧ Text.isBlank c = false) ∧
    ∀ after, Leads kind word (" ".toList ++ after)

theorem separates_or : Separates .or " OR " := by
  refine ⟨"OR", rfl, ⟨'O', ['R'], rfl, by decide⟩, ?_⟩
  intro after
  exact leads_word (by decide) (by decide) (by decide) (endsWord_space after).not_bare rfl

theorem leads_and (after : List Char) : Leads .and "AND" (" ".toList ++ after) :=
  leads_word (by decide) (by decide) (by decide) (endsWord_space after).not_bare rfl

theorem separates_and : Separates .and " AND " :=
  ⟨"AND", rfl, ⟨'A', ['N', 'D'], rfl, by decide⟩, leads_and⟩

theorem exists_mark {kind : Kind} {text : String} {after : List Char} (h : Leads kind text after)
    (offset : Nat) :
    ∃ (mark : Mark kind) (next : Nat),
      scan offset 0 (text.toList ++ after) = mark.val :: scan next 0 after :=
  ⟨⟨⟨kind, text, offset⟩, rfl⟩, _, scan_append h offset⟩

-- An operand behind the connective that joins it to those before.
structure Operand (kind : Kind) where
  gap : Gap
  connective : Mark kind
  group : Group

namespace Operand

variable {kind : Kind}

def tokens (operands : List (Operand kind)) : List Token :=
  operands.flatMap fun operand =>
    operand.gap.tokens ++ operand.connective.val :: operand.group.tokens

def foldOnto (node : Span → Tree Atom → Tree Atom → Tree Atom) (left : Tree Atom)
    (operands : List (Operand kind)) : Tree Atom :=
  operands.foldl (fun left operand =>
    node (left.span.cover operand.group.tree.span) left operand.group.tree) left

def Meets (meets : α → Query → Prop) (operand : Operand kind) (item : α) : Prop :=
  ∃ query, operand.group.tree.traverse Atom.resolve = .ok query ∧ meets item query

end Operand

theorem Separates.scan_operand {kind : Kind} {separator text : String} {item : α}
    (hs : Separates kind separator) (ht : Spells text (meets item)) (offset : Nat)
    {after : List Char} (ha : EndsWord after) :
    ∃ (operand : Operand kind) (next : Nat),
      scan offset 0 (separator.toList ++ (text.toList ++ after)) =
        Operand.tokens [operand] ++ scan next 0 after ∧
      operand.Meets meets item := by
  obtain ⟨word, rfl, ⟨c, cs, hw, hc⟩, hl⟩ := hs
  obtain ⟨d, ds, htext, hd⟩ := ht.head
  have hword : ∀ e ∈ (word.toList ++ (" ".toList ++ (text.toList ++ after))).head?,
      Text.isBlank e = false := by simpa [hw] using hc
  have hoperand : ∀ e ∈ (text.toList ++ after).head?, Text.isBlank e = false := by
    simpa [htext] using hd
  obtain ⟨blank, _, hblank⟩ := exists_mark (leads_space hword) offset
  obtain ⟨connective, _, hconnective⟩ := exists_mark (hl (text.toList ++ after)) _
  obtain ⟨space, start, hspace⟩ := exists_mark (leads_space hoperand) _
  obtain ⟨group, next, query, hgroup, hq, hm⟩ := ht.operand [space] start after ha
  refine ⟨⟨[blank], connective, group⟩, next, ?_, query, hq, hm⟩
  simp only [String.toList_append, List.append_assoc]
  rw [hblank, hconnective, hspace]
  simpa [Operand.tokens] using hgroup

-- What stands behind the first of some texts.
def tailText (separator : String) (spell : α → String) (items : List α) : List Char :=
  items.flatMap fun item => separator.toList ++ (spell item).toList

theorem tailText_cons (separator : String) (item : α) (items : List α) (after : List Char) :
    tailText separator spell (item :: items) ++ after =
      separator.toList ++ ((spell item).toList ++ (tailText separator spell items ++ after)) := by
  simp [tailText]

theorem toList_intercalate_map (separator : String) (first : α) (rest : List α) :
    (separator.intercalate ((first :: rest).map spell)).toList =
      (spell first).toList ++ tailText separator spell rest := by
  induction rest generalizing first with
  | nil => simp [tailText, String.intercalate_singleton]
  | cons item rest ih =>
      rw [List.map_cons, List.map_cons, String.intercalate_cons_cons, String.toList_append,
        String.toList_append, ← List.map_cons, ih]
      simp [tailText]

-- The next connective ends the word before it.
theorem Separates.endsWord_tailText {kind : Kind} {separator : String}
    (h : Separates kind separator) (spell : α → String) (items : List α) {after : List Char}
    (ha : EndsWord after) :
    EndsWord (tailText separator spell items ++ after) := by
  obtain ⟨word, rfl, _⟩ := h
  cases items with
  | nil => exact ha
  | cons item items =>
      rw [tailText_cons]
      simp [EndsWord]

theorem Separates.scan_tailText {kind : Kind} {separator : String}
    (hs : Separates kind separator) (items : List α)
    (h : ∀ item ∈ items, Spells (spell item) (meets item)) (offset : Nat) {after : List Char}
    (ha : EndsWord after) :
    ∃ (operands : List (Operand kind)) (next : Nat),
      scan offset 0 (tailText separator spell items ++ after) =
        Operand.tokens operands ++ scan next 0 after ∧
      List.Forall₂ (Operand.Meets meets) operands items := by
  induction items generalizing offset with
  | nil => exact ⟨[], offset, rfl, .nil⟩
  | cons item items ih =>
      obtain ⟨operand, next, hscan, hm⟩ :=
        hs.scan_operand (h item (by simp)) offset (hs.endsWord_tailText spell items ha)
      have hitems : ∀ other ∈ items, Spells (spell other) (meets other) := by
        intro other ho
        exact h other (List.mem_cons_of_mem item ho)
      obtain ⟨operands, last, hrest, hall⟩ := ih hitems next
      refine ⟨operand :: operands, last, ?_, .cons hm hall⟩
      rw [tailText_cons, hscan, hrest]
      simp [Operand.tokens]

-- Folding the operands gives a chain of their meanings.
theorem Operand.traverse_foldOnto {kind : Kind} {written : Span → Tree Atom → Tree Atom → Tree Atom}
    {node : Span → Query → Query → Query}
    (hnode : ∀ span left right, (written span left right).traverse Atom.resolve =
      do return node span (← left.traverse Atom.resolve) (← right.traverse Atom.resolve))
    {operands : List (Operand kind)} {items : List α}
    (h : List.Forall₂ (Operand.Meets meets) operands items) {left : Tree Atom} {query : Query}
    {before : List α} (hl : left.traverse Atom.resolve = .ok query)
    (hc : Chain node meets query before) :
    ∃ result, (foldOnto written left operands).traverse Atom.resolve = .ok result ∧
      Chain node meets result (before ++ items) := by
  induction h generalizing left query before with
  | nil => exact ⟨query, hl, by simpa using hc⟩
  | @cons operand item operands items hm _ ih =>
      obtain ⟨right, hr, hi⟩ := hm
      have hstep : (written (left.span.cover operand.group.tree.span) left
          operand.group.tree).traverse Atom.resolve =
          .ok (node (left.span.cover operand.group.tree.span) query right) := by
        rw [hnode, hl, hr]
        rfl
      obtain ⟨result, hres, hchain⟩ := ih hstep (.more _ hc hi)
      exact ⟨result, hres, by simpa using hchain⟩

def Alternatives.ofOperands : List (Operand .or) → Alternatives
  | [] => .none
  | operand :: operands =>
    .more operand.gap operand.connective (.mk (.plain operand.group) .none) (ofOperands operands)

def Conjuncts.ofOperands : List (Operand .and) → Conjuncts
  | [] => .none
  | operand :: operands =>
    .explicit operand.gap operand.connective (.plain operand.group) (ofOperands operands)

theorem Alternatives.tokens_ofOperands (operands : List (Operand .or)) :
    (ofOperands operands).tokens = Operand.tokens operands := by
  induction operands with
  | nil => rfl
  | cons operand operands ih =>
      simp [ofOperands, tokens, Conjunction.tokens, Negation.tokens, Conjuncts.tokens, ih,
        Operand.tokens]

theorem Conjuncts.tokens_ofOperands (operands : List (Operand .and)) :
    (ofOperands operands).tokens = Operand.tokens operands := by
  induction operands with
  | nil => rfl
  | cons operand operands ih => simp [ofOperands, tokens, Negation.tokens, ih, Operand.tokens]

theorem Alternatives.onto_ofOperands (operands : List (Operand .or)) (left : Tree Atom) :
    (ofOperands operands).onto left = Operand.foldOnto .or left operands := by
  induction operands generalizing left with
  | nil => rfl
  | cons operand operands ih => exact ih _

theorem Conjuncts.onto_ofOperands (operands : List (Operand .and)) (left : Tree Atom) :
    (ofOperands operands).onto left = Operand.foldOnto .and left operands := by
  induction operands generalizing left with
  | nil => rfl
  | cons operand operands ih => exact ih _

-- Texts between separators are read back as one chain, whatever they spell and mean.
def ReadsBack (separator : String) (node : Span → Query → Query → Query) : Prop :=
  ∀ (α : Type) (spell : α → String) (meets : α → Query → Prop) (items : List α), items ≠ [] →
    (∀ item ∈ items, Spells (spell item) (meets item)) →
    ∀ (offset : Nat) (after : List Char), EndsWord after →
      ∃ (body : Disjunction) (next : Nat) (query : Query),
        scan offset 0 ((separator.intercalate (items.map spell)).toList ++ after) =
          body.tokens ++ scan next 0 after ∧
        body.tree.traverse Atom.resolve = .ok query ∧ Chain node meets query items

theorem Separates.readsBack {kind : Kind} {separator : String}
    (hs : Separates kind separator) (written : Span → Tree Atom → Tree Atom → Tree Atom)
    {node : Span → Query → Query → Query}
    (hnode : ∀ span left right, (written span left right).traverse Atom.resolve =
      do return node span (← left.traverse Atom.resolve) (← right.traverse Atom.resolve))
    (body : Group → List (Operand kind) → Disjunction)
    (htokens : ∀ first operands,
      (body first operands).tokens = first.tokens ++ Operand.tokens operands)
    (htree : ∀ first operands,
      (body first operands).tree = Operand.foldOnto written first.tree operands) :
    ReadsBack separator node := by
  intro α spell meets items hne h offset after ha
  obtain ⟨first, rest, rfl⟩ := List.exists_cons_of_ne_nil hne
  obtain ⟨group, next, query, hfirst, hq, hm⟩ := (h first (by simp)).operand [] offset _
    (hs.endsWord_tailText spell rest ha)
  have hitems : ∀ item ∈ rest, Spells (spell item) (meets item) := by
    intro item hi
    exact h item (List.mem_cons_of_mem first hi)
  obtain ⟨operands, last, hrest, hall⟩ := hs.scan_tailText rest hitems next ha
  obtain ⟨result, hres, hchain⟩ := Operand.traverse_foldOnto hnode hall hq (.one hm)
  refine ⟨body group operands, last, result, ?_, ?_, hchain⟩
  · rw [Gap.tokens_nil, List.nil_append] at hfirst
    rw [toList_intercalate_map, List.append_assoc, hfirst, hrest, htokens, List.append_assoc]
  · rw [htree]
    exact hres

theorem readsBack_or : ReadsBack " OR " .or := by
  refine separates_or.readsBack .or (fun _ _ _ => rfl)
    (fun first operands => .mk (.mk (.plain first) .none) (.ofOperands operands)) ?_ ?_
  · intro first operands
    simp [Disjunction.tokens, Conjunction.tokens, Negation.tokens, Conjuncts.tokens,
      Alternatives.tokens_ofOperands]
  · intro first operands
    exact Alternatives.onto_ofOperands operands first.tree

theorem readsBack_and : ReadsBack " AND " .and := by
  refine separates_and.readsBack .and (fun _ _ _ => rfl)
    (fun first operands => .mk (.mk (.plain first) (.ofOperands operands)) .none) ?_ ?_
  · intro first operands
    simp [Disjunction.tokens, Conjunction.tokens, Negation.tokens, Alternatives.tokens,
      Conjuncts.tokens_ofOperands]
  · intro first operands
    exact Conjuncts.onto_ofOperands operands first.tree

-- A chain in parentheses is an operand itself.
theorem ReadsBack.spells_parens {separator : String} {node : Span → Query → Query → Query}
    (hback : ReadsBack separator node) {items : List α} (hne : items ≠ [])
    (h : ∀ item ∈ items, Spells (spell item) (meets item)) :
    Spells ("(" ++ separator.intercalate (items.map spell) ++ ")")
      (fun query => ∃ span body, query = .parens span body ∧ Chain node meets body items) := by
  refine ⟨⟨'(', (separator.intercalate (items.map spell) ++ ")").toList, by simp, by decide⟩, ?_⟩
  intro gap offset after ha
  obtain ⟨opening, start, hopening⟩ := exists_mark
    (leads_openParen ((separator.intercalate (items.map spell)).toList ++ (")".toList ++ after)))
    offset
  obtain ⟨body, stop, query, hbody, hq, hchain⟩ :=
    hback α spell meets items hne h start (")".toList ++ after) (endsWord_closeParen after)
  obtain ⟨closing, next, hclosing⟩ := exists_mark (leads_closeParen after) stop
  refine ⟨.parens gap opening body [] closing, next,
    .parens ⟨opening.val.offset, closing.val.stop⟩ query, ?_, ?_, _, query, rfl, hchain⟩
  · simp only [String.toList_append, List.append_assoc]
    rw [hopening, hbody, hclosing]
    simp [Group.tokens]
  · simp only [Group.tree, Tree.traverse, hq]
    rfl

end VaultQuery.Query.Grammar
