import VaultQuery.Proofs.Grammar.Layout
import VaultQuery.Proofs.Grammar.Shift

namespace VaultQuery.Query

namespace Tree

variable {α : Type}

theorem leaves_shift (distance : Nat) (tree : Tree α) :
    (tree.shift distance).leaves =
      tree.leaves.map fun leaf => (leaf.1.shift distance, leaf.2) := by
  induction tree with
  | search span body ih | not span body ih | parens span body ih => exact ih
  | or span left right ihl ihr | and span left right ihl ihr =>
      simp only [shift, leaves, ihl, ihr, List.map_append]
  | leaf span content => rfl

-- What a tree means at a later position it means where it is.
theorem exists_traverse_of_shift {distance : Nat} {tree : Tree Atom} {result : Query}
    (h : (tree.shift distance).traverse Atom.resolve = .ok result) :
    ∃ part : Query, tree.traverse Atom.resolve = .ok part ∧ part.shift distance = result := by
  have hshifted := (exists_traverse_iff _ _).mp ⟨result, h⟩
  rw [leaves_shift] at hshifted
  have hleaves : ∀ leaf ∈ tree.leaves, ∃ clause, leaf.2.resolve leaf.1 = .ok clause := by
    intro leaf hl
    obtain ⟨clause, hc⟩ := hshifted _ (List.mem_map_of_mem hl)
    exact ⟨clause, Atom.resolve_of_ok hc leaf.1⟩
  obtain ⟨part, hp⟩ := (exists_traverse_iff _ _).mpr hleaves
  have hpart : (tree.shift distance).traverse Atom.resolve = .ok (part.shift distance) := by
    refine traverse_shift ?_ hp
    intro span atom clause hc
    exact Atom.resolve_of_ok hc _
  rw [h] at hpart
  exact ⟨part, hp, (Except.ok.inj hpart).symm⟩

end Tree

def Token.unshift (distance : Nat) (token : Token) : Token :=
  { token with offset := token.offset - distance }

namespace Grammar

section Moved

variable {move : Token → Token} (hmove : ∀ token, (move token).kind = token.kind)

def Mark.moved {kind : Token.Kind} (mark : Mark kind) : Mark kind :=
  ⟨move mark.val, (hmove mark.val).trans mark.property⟩

def ValueToken.moved (value : ValueToken) : ValueToken :=
  ⟨move value.val, by
    have hv := value.property
    simpa only [Token.isValue, hmove] using hv⟩

include hmove

theorem exists_gap_moved (gap : Gap) : ∃ image : Gap, image.tokens = gap.tokens.map move :=
  ⟨gap.map (Mark.moved hmove), by simp [Gap.tokens, Mark.moved]⟩

theorem exists_qualifiers_moved (qualifiers : List Qualifier) :
    ∃ image : List Qualifier, Qualifier.tokens image = (Qualifier.tokens qualifiers).map move := by
  refine ⟨qualifiers.map fun qualifier =>
    (Mark.moved hmove qualifier.1, ValueToken.moved hmove qualifier.2), ?_⟩
  simp [Qualifier.tokens, List.flatMap_map, List.map_flatMap, Mark.moved, ValueToken.moved]

theorem exists_form_moved (form : AtomForm) :
    ∃ image : AtomForm, image.tokens = form.tokens.map move := by
  cases form with
  | values head qualifiers =>
      obtain ⟨image, hq⟩ := exists_qualifiers_moved hmove qualifiers
      refine ⟨.values (ValueToken.moved hmove head) image, ?_⟩
      rw [AtomForm.tokens, hq]
      rfl
  | call family opening name qualifiers =>
      obtain ⟨image, hq⟩ := exists_qualifiers_moved hmove qualifiers
      refine ⟨.call family (Mark.moved hmove opening) (Mark.moved hmove name) image, ?_⟩
      rw [AtomForm.tokens, hq]
      rfl

theorem joint_moved {joint : List Token} (h : Joint joint) : Joint (joint.map move) := by
  cases h with
  | adjacent gap =>
      obtain ⟨image, hi⟩ := exists_gap_moved hmove gap
      rw [← hi]
      exact .adjacent image
  | explicit before connective after =>
      obtain ⟨first, hf⟩ := exists_gap_moved hmove before
      obtain ⟨last, hl⟩ := exists_gap_moved hmove after
      rw [List.map_append, List.map_cons, ← hf, ← hl]
      exact .explicit first (Mark.moved hmove connective) last

-- Whether tokens are a query depends on their kinds only.
theorem Forms.exists_moved {rule : Rule} {tokens : List Token} {tree : Tree Atom}
    (h : Forms rule tokens tree) : ∃ image, Forms rule (tokens.map move) image := by
  induction h with
  | atom form =>
      obtain ⟨image, hi⟩ := exists_form_moved hmove form
      rw [← hi]
      exact ⟨_, .atom image⟩
  | parens opening before _ after closing ih =>
      obtain ⟨body, hb⟩ := ih
      obtain ⟨first, hf⟩ := exists_gap_moved hmove before
      obtain ⟨last, hl⟩ := exists_gap_moved hmove after
      have hparens := Forms.parens (Mark.moved hmove opening) first hb last
        (Mark.moved hmove closing)
      rw [hf, hl] at hparens
      exact ⟨_, by simpa [Mark.moved] using hparens⟩
  | not connective gap _ ih =>
      obtain ⟨body, hb⟩ := ih
      obtain ⟨image, hi⟩ := exists_gap_moved hmove gap
      have hnot := Forms.not (Mark.moved hmove connective) image hb
      rw [hi] at hnot
      exact ⟨_, by simpa [Mark.moved] using hnot⟩
  | and _ hj _ ihl ihr =>
      obtain ⟨left, hl⟩ := ihl
      obtain ⟨right, hr⟩ := ihr
      have hand := Forms.and hl (joint_moved hmove hj) hr
      exact ⟨_, by simpa using hand⟩
  | or _ before connective after _ ihl ihr =>
      obtain ⟨left, hl⟩ := ihl
      obtain ⟨right, hr⟩ := ihr
      obtain ⟨first, hf⟩ := exists_gap_moved hmove before
      obtain ⟨last, ha⟩ := exists_gap_moved hmove after
      have hor := Forms.or hl first (Mark.moved hmove connective) last hr
      rw [hf, ha] at hor
      exact ⟨_, by simpa [Mark.moved] using hor⟩
  | ofGroup _ ih =>
      obtain ⟨image, hi⟩ := ih
      exact ⟨image, .ofGroup hi⟩
  | ofNegation _ ih =>
      obtain ⟨image, hi⟩ := ih
      exact ⟨image, .ofNegation hi⟩
  | ofConjunction _ ih =>
      obtain ⟨image, hi⟩ := ih
      exact ⟨image, .ofConjunction hi⟩

end Moved

-- Tokens that are a query at a later position are the same query where they are.
theorem Forms.exists_read {rule : Rule} {tokens : List Token} {tree : Tree Atom} {distance : Nat}
    (h : Forms rule (tokens.map (Token.shift distance)) tree) (length : Nat) :
    ∃ image : Tree Atom, read tokens length = .ok image ∧ image.shift distance = tree := by
  have hkind : ∀ token : Token, (token.unshift distance).kind = token.kind := fun _ => rfl
  obtain ⟨image, hi⟩ := h.exists_moved hkind
  have hback : (tokens.map (Token.shift distance)).map (Token.unshift distance) = tokens := by
    rw [List.map_map]
    refine (List.map_congr_left ?_).trans (List.map_id tokens)
    intro token _
    simp [Token.shift, Token.unshift]
  rw [hback] at hi
  have hread := hi.read_eq length
  have hshift := read_shift distance hread length
  rw [h.read_eq length] at hshift
  exact ⟨image, hread, (Except.ok.inj hshift).symm⟩

end Grammar

open Token

-- The part of a query text that a node stands for is a query on its own, and means the node at the
-- place it has in the text. A word in front of a blank outside ASCII could be a connective on its
-- own.
theorem parse_slice {text : String} {query node : Query} {depth : Nat}
    (h : parse text = .ok query)
    (hblank : ∀ token ∈ tokenize text, token.kind = .blank →
      ∀ c ∈ token.text.toList, Text.isAscii c = true)
    (hnode : (depth, node) ∈ query.preorder 0) (hdepth : 0 < depth) :
    ∃ part : Query, parse (node.span.slice text) = .ok (.search part.span part) ∧
      part.shift node.span.start = node := by
  obtain ⟨body, rfl, hforms⟩ := Grammar.exists_forms_of_parse h
  have hbelow : (depth, node) ∈ body.preorder 1 := by
    rcases List.mem_cons.mp hnode with he | hm
    · cases he
      cases hdepth
    · exact hm
  obtain ⟨rule, own, shape, ⟨first, second, hsplit⟩, hf, hr⟩ := hforms _ hbelow
  rw [List.append_assoc] at hsplit
  obtain ⟨before, part, after, hpart, hchars, hscan, hafter⟩ :=
    hf.spanned.exists_splits hsplit.symm
  have hspan : shape.span = node.span := (Tree.span_of_traverse hr).symm
  rw [hspan] at hpart hscan hafter
  have hplain : EndsPlainly after := by
    have hscanned : ∀ token ∈ scan node.span.stop 0 after, token.kind = .blank →
        ∀ c ∈ token.text.toList, Text.isAscii c = true := by
      intro token ht
      apply hblank token
      rw [← hsplit, ← hafter]
      simp [ht]
    exact endsPlainly_of_scan hscanned
  have hown : (tokenize (node.span.slice text)).map (shift node.span.start) = own := by
    have hshift := scan_add 0 node.span.start 0 part
    rw [Nat.zero_add, scan_of_append hplain hscan hchars] at hshift
    rw [hpart.slice_eq, tokenize, String.toList_ofList, ← hshift]
  rw [← hown] at hf
  obtain ⟨image, hread, rfl⟩ := hf.exists_read (node.span.slice text).utf8ByteSize
  obtain ⟨result, hresult, hnode⟩ := Tree.exists_traverse_of_shift hr
  refine ⟨result, ?_, hnode⟩
  rw [parse, hread]
  show (image.traverse Atom.resolve >>= _) = _
  rw [hresult]
  rfl

-- The quote of the first group is left open, and the text in front of it has two bytes more than
-- characters.
theorem parse_slice_open_quote :
    let text := "(é OR \"x) AND NOT é:b"
    let node : Query := .or ⟨1, 9⟩ (.leaf ⟨1, 3⟩ (.test (.term ⟨"é", false⟩)))
      (.leaf ⟨7, 9⟩ (.test (.term ⟨"\"x", false⟩)))
    let query : Query := .search ⟨0, 23⟩ (.and ⟨0, 23⟩ (.parens ⟨0, 10⟩ node)
      (.not ⟨15, 23⟩ (.leaf ⟨19, 23⟩ (.test (.fieldTerm ⟨"é", false⟩ ⟨"b", false⟩)))))
    parse text = .ok query ∧
      (∀ token ∈ tokenize text, token.kind = .blank →
        ∀ c ∈ token.text.toList, Text.isAscii c = true) ∧
      (3, node) ∈ query.preorder 0 ∧ 0 < 3 ∧
      ∃ part : Query, parse (node.span.slice text) = .ok (.search part.span part) ∧
        part.shift 1 = node := by
  intro text node query
  have hparse : parse text = .ok query := by decide
  have hall : ((tokenize text).all fun token =>
      token.kind != .blank || token.text.toList.all Text.isAscii) = true := by decide
  have hblank : ∀ token ∈ tokenize text, token.kind = .blank →
      ∀ c ∈ token.text.toList, Text.isAscii c = true := by
    intro token ht hk
    have htoken := List.all_eq_true.mp hall token ht
    simpa [hk] using htoken
  have hnode : (3, node) ∈ query.preorder 0 := by decide
  exact ⟨hparse, hblank, hnode, by decide, parse_slice hparse hblank hnode (by decide)⟩

-- In front of a blank outside ASCII the word AND is a term, but on its own it is no query.
example : (parse "AND\u00a0b").isOk = true ∧ (parse "AND").isOk = false := by decide

end VaultQuery.Query
