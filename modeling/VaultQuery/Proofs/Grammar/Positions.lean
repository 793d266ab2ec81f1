import VaultQuery.Filter.Reader
import VaultQuery.Proofs.Grammar.Layout

namespace VaultQuery.Query

-- A position in a text that is not inside a character.
structure IsBoundary (text : String) (position : Nat) : Prop where
  le_size : position ≤ text.utf8ByteSize
  isValid : String.Pos.Raw.IsValid text ⟨position⟩

theorem isBoundary_of_isValid {text : String} {position : Nat}
    (h : String.Pos.Raw.IsValid text ⟨position⟩) : IsBoundary text position :=
  ⟨h.le_rawEndPos, h⟩

-- A span that can be cut out of a text, and that has no blank at either end.
structure Span.Usable (text : String) (span : Span) : Prop where
  start_lt : span.start < span.stop
  start_boundary : IsBoundary text span.start
  stop_boundary : IsBoundary text span.stop
  length_eq : span.start + span.length = span.stop
  parts : ∃ before after, text = before ++ span.slice text ++ after ∧
    before.utf8ByteSize = span.start ∧ (span.slice text).utf8ByteSize = span.length
  first_not_blank : ∀ c ∈ (span.slice text).toList.head?, Text.isBlank c = false
  last_not_blank : ∀ c ∈ (span.slice text).toList.getLast?, Text.isBlank c = false

theorem bind_eq_error {α β ε : Type} {first : Except ε α} {second : α → Except ε β} {error : ε} :
    (first >>= second) = .error error ↔
      first = .error error ∨ ∃ value, first = .ok value ∧ second value = .error error := by
  cases first with
  | error other =>
      constructor
      · intro h
        cases h
        exact Or.inl rfl
      · rintro (h | ⟨_, h, _⟩)
        · cases h
          rfl
        · cases h
  | ok value =>
      constructor
      · intro h
        exact Or.inr ⟨value, rfl, h⟩
      · rintro (h | ⟨_, h, hs⟩)
        · cases h
        · cases h
          exact hs

namespace Tree

variable {α β ε : Type}

-- How the span of a node lies around those of its children.
def Frames : Tree α → Prop
  | .search span body => span = body.span
  | .or span left right | .and span left right =>
    span.start = left.span.start ∧ span.stop = right.span.stop ∧
      left.span.stop ≤ right.span.start
  | .not span body => span.start < body.span.start ∧ body.span.stop = span.stop
  | .parens span body => span.start < body.span.start ∧ body.span.stop < span.stop
  | .leaf _ _ => True

theorem frames_of_traverse {f : Span → α → Except ε β} {tree : Tree α} {result : Tree β}
    (h : tree.traverse f = .ok result) (hf : tree.Frames) : result.Frames := by
  cases tree with
  | search span body | not span body | parens span body =>
      simp only [traverse, bind_eq_ok, pure_eq_ok] at h
      obtain ⟨inner, hi, rfl⟩ := h
      simpa only [Frames, span_of_traverse hi] using hf
  | or span left right | and span left right =>
      simp only [traverse, bind_eq_ok, pure_eq_ok] at h
      obtain ⟨first, hl, second, hr, rfl⟩ := h
      simpa only [Frames, span_of_traverse hl, span_of_traverse hr] using hf
  | leaf span content =>
      simp only [traverse, bind_eq_ok, pure_eq_ok] at h
      obtain ⟨value, _, rfl⟩ := h
      trivial

-- A replacement that fails has failed at a leaf.
theorem exists_leaf_of_traverse_error {f : Span → α → Except ε β} {tree : Tree α} {error : ε}
    (h : tree.traverse f = .error error) (depth : Nat) :
    ∃ level span content, (level, .leaf span content) ∈ tree.preorder depth ∧
      f span content = .error error := by
  induction tree generalizing depth with
  | search span body ih | not span body ih | parens span body ih =>
      simp only [traverse, bind_eq_error] at h
      rcases h with h | ⟨_, _, h⟩
      · obtain ⟨level, inner, content, hm, he⟩ := ih h (depth + 1)
        exact ⟨level, inner, content, List.mem_cons_of_mem _ hm, he⟩
      · cases h
  | or span left right ihl ihr | and span left right ihl ihr =>
      simp only [traverse, bind_eq_error] at h
      rcases h with h | ⟨_, _, h | ⟨_, _, h⟩⟩
      · obtain ⟨level, inner, content, hm, he⟩ := ihl h (depth + 1)
        exact ⟨level, inner, content, List.mem_cons_of_mem _ (List.mem_append_left _ hm), he⟩
      · obtain ⟨level, inner, content, hm, he⟩ := ihr h (depth + 1)
        exact ⟨level, inner, content, List.mem_cons_of_mem _ (List.mem_append_right _ hm), he⟩
      · cases h
  | leaf span content =>
      simp only [traverse, bind_eq_error] at h
      rcases h with h | ⟨_, _, h⟩
      · exact ⟨depth, span, content, List.mem_singleton_self _, h⟩
      · cases h

end Tree

theorem mapError_eq_error {α ε ε' : Type} {f : ε → ε'} {outcome : Except ε α} {error : ε'} :
    outcome.mapError f = .error error ↔ ∃ cause, outcome = .error cause ∧ f cause = error := by
  cases outcome <;> simp [Except.mapError]

theorem Atom.resolve_error {span : Span} {atom : Atom} {error : SyntaxError}
    (h : atom.resolve span = .error error) :
    error.position = span.start ∨ error.position = span.stop := by
  unfold resolve at h
  obtain ⟨cause, _, rfl⟩ := mapError_eq_error.mp h
  unfold faultPosition
  split
  · exact Or.inr rfl
  · exact Or.inl rfl

namespace Token

theorem byteLength_pos {cs : List Char} (h : cs ≠ []) : 0 < Text.byteLength cs := by
  obtain ⟨c, rest, rfl⟩ := List.exists_cons_of_ne_nil h
  have hc := Char.utf8Size_pos c
  simp only [Text.byteLength]
  omega

-- Where a text splits it can be cut.
theorem Splits.usable {text : String} {span : Span} {before part after : List Char}
    (h : Splits text span before part after) (hne : part ≠ [])
    (hfirst : ∀ c ∈ part.head?, Text.isBlank c = false)
    (hlast : ∀ c ∈ part.getLast?, Text.isBlank c = false) : span.Usable text := by
  have htext : text = String.ofList (before ++ (part ++ after)) := by
    rw [← h.text_eq, String.ofList_toList]
  have hpos := byteLength_pos hne
  have hstop := h.stop_eq
  have hstart := h.start_eq
  rw [Text.byteLength_append] at hstop
  refine ⟨by omega, isBoundary_of_isValid ?_, isBoundary_of_isValid ?_, ?_, ?_, ?_, ?_⟩
  · rw [hstart, htext]
    exact isValid_byteLength before (part ++ after)
  · rw [h.stop_eq, htext, ← List.append_assoc]
    exact isValid_byteLength (before ++ part) after
  · rw [Span.length]
    omega
  · refine ⟨String.ofList before, String.ofList after, ?_, ?_, ?_⟩
    · rw [h.slice_eq, ← String.ofList_append, ← String.ofList_append, htext, List.append_assoc]
    · rw [Text.utf8ByteSize_ofList, hstart]
    · rw [h.slice_eq, Text.utf8ByteSize_ofList, Span.length]
      omega
  · rw [h.slice_eq, String.toList_ofList]
    exact hfirst
  · rw [h.slice_eq, String.toList_ofList]
    exact hlast

-- Neither the first nor the last token of a span is blank.
theorem Spanned.usable {text : String} {span : Span} {own : List Token} (hs : Spanned own span)
    (h : own <:+: tokenize text) : span.Usable text := by
  have hcut : ∀ token ∈ own, token.text.toList ≠ [] ∧ token.kind.Shape token.text.toList := by
    intro token hm
    obtain ⟨_, _, _, _, hcut⟩ := (tiles_scan 0 text.toList).exists_parts (h.subset hm)
    exact ⟨hcut.nonempty, hcut.shape⟩
  obtain ⟨first, second, hsplit⟩ := h
  rw [List.append_assoc] at hsplit
  obtain ⟨before, part, after, hpart, hchars, _, _⟩ := hs.exists_splits hsplit.symm
  obtain ⟨token, rest, hbegins, hk, _⟩ := hs.begins
  obtain ⟨others, last, hends, hkl, _⟩ := hs.ends
  obtain ⟨hne, hshape⟩ := hcut token (by simp [hbegins])
  obtain ⟨hnel, hshapel⟩ := hcut last (by simp [hends])
  have hhead : part.head? = token.text.toList.head? := by
    rw [← hchars, hbegins, List.flatMap_cons, List.head?_append_of_ne_nil _ hne]
  have hlast : part.getLast? = last.text.toList.getLast? := by
    rw [← hchars, hends, List.flatMap_append, List.flatMap_singleton,
      List.getLast?_append_of_ne_nil _ hnel]
  refine hpart.usable ?_ ?_ ?_
  · rw [← hchars, hbegins, List.flatMap_cons]
    simp [hne]
  · rw [hhead]
    exact (hshape.not_blank hk).1
  · rw [hlast]
    exact (hshapel.not_blank hkl).2

-- Tokens that are not empty and follow each other.
structure Ordered (tokens : List Token) : Prop where
  offset_lt : ∀ token ∈ tokens, token.offset < token.stop
  pairwise : tokens.Pairwise fun token next => token.stop ≤ next.offset

theorem ordered_tokenize (text : String) : Ordered (tokenize text) :=
  ⟨fun _ hm => (tiles_scan 0 text.toList).offset_lt_stop hm, (tiles_scan 0 text.toList).pairwise⟩

theorem Ordered.sublist {tokens part : List Token} (h : Ordered tokens) (hp : part.Sublist tokens) :
    Ordered part :=
  ⟨fun token hm => h.offset_lt token (hp.subset hm), h.pairwise.sublist hp⟩

theorem Ordered.stop_le {first : Token} {rest : List Token} (h : Ordered (first :: rest)) :
    ∀ next ∈ rest, first.stop ≤ next.offset :=
  (List.pairwise_cons.mp h.pairwise).1

theorem Ordered.append {first second : List Token} (h : Ordered (first ++ second)) :
    ∀ token ∈ first, ∀ next ∈ second, token.stop ≤ next.offset :=
  (List.pairwise_append.mp h.pairwise).2.2

theorem Ordered.stop_le_start {first second behind : List Token} {left right : Span}
    (h : Ordered (first ++ behind)) (hl : Spanned first left) (hr : Spanned second right)
    (hs : second ⊆ behind) : left.stop ≤ right.start := by
  obtain ⟨others, last, hlast, _, hstop⟩ := hl.ends
  obtain ⟨next, rest, hnext, _, hstart⟩ := hr.begins
  rw [← hstop, ← hstart]
  exact h.append last (by simp [hlast]) next (hs (by simp [hnext]))

end Token

namespace Grammar

open Token (Spanned Ordered)

-- The spans of a node and of its children are read off the same tokens.
theorem Forms.frames {rule : Rule} {tokens : List Token} {tree : Tree Atom}
    (h : Forms rule tokens tree) (ho : Ordered tokens) : tree.Frames := by
  induction h with
  | atom form => trivial
  | @parens opening before tokens body hb after closing ih =>
      obtain ⟨first, rest, hfirst, _, hstart⟩ := hb.spanned.begins
      obtain ⟨others, last, hlast, _, hstop⟩ := hb.spanned.ends
      have hinner : Ordered (tokens ++ (after.tokens ++ [closing.val])) :=
        ho.sublist ((List.sublist_append_right before.tokens _).cons opening.val)
      have hopening := ho.offset_lt opening.val (by simp)
      have hclosing := ho.offset_lt closing.val (by simp)
      have hbegins := ho.stop_le first (by simp [hfirst])
      have hends := hinner.append last (by simp [hlast]) closing.val (by simp)
      constructor
      · show opening.val.offset < body.span.start
        omega
      · show body.span.stop < closing.val.stop
        omega
  | @not connective gap tokens body hb ih =>
      obtain ⟨first, rest, hfirst, _, hstart⟩ := hb.spanned.begins
      have hconnective := ho.offset_lt connective.val (by simp)
      have hbegins := ho.stop_le first (by simp [hfirst])
      refine ⟨?_, rfl⟩
      show connective.val.offset < body.span.start
      omega
  | @and first joint second left right hl hj hr ihl ihr =>
      have hsecond : second ⊆ joint ++ second := List.subset_append_right joint second
      exact ⟨rfl, rfl, ho.stop_le_start hl.spanned hr.spanned hsecond⟩
  | @or first second left right hl before connective after hr ihl ihr =>
      have hsecond : second ⊆ before.tokens ++ connective.val :: (after.tokens ++ second) := by
        intro token ht
        simp [ht]
      exact ⟨rfl, rfl, ho.stop_le_start hl.spanned hr.spanned hsecond⟩
  | ofGroup _ ih | ofNegation _ ih | ofConjunction _ ih => exact ih ho

-- The one earlier position that a fault can be reported at is that of a colon without a value.
def Expecting.Marks (valid : Nat → Prop) : Expecting → Prop
  | .value _ position => valid position
  | _ => True

variable {valid : Nat → Prop}

namespace State

variable {state next : State} {token : Token} {error : SyntaxError}

theorem stepOperand_error {place : Place} (h : state.stepOperand place token = .error error) :
    error.position = token.offset := by
  cases hk : token.kind with
  | not =>
      simp only [stepOperand, hk] at h
      split at h <;> cases h
      rfl
  | closeParen =>
      simp only [stepOperand, hk] at h
      split at h <;> cases h <;> rfl
  | blank | openParen | literal | quoted | family _ | and | or | colon =>
      simp only [stepOperand, hk] at h
      cases h <;> rfl

theorem stepConnective_error {conjunction : Tree Atom}
    (h : state.stepConnective conjunction token = .error error) :
    error.position = token.offset := by
  cases hk : token.kind with
  | not | openParen | literal | quoted | family _ =>
      simp only [stepConnective, hk] at h
      exact stepOperand_error h
  | closeParen | colon =>
      simp only [stepConnective, hk] at h
      split at h <;> cases h <;> rfl
  | blank | and | or =>
      simp only [stepConnective, hk] at h
      cases h

theorem step_error (h : state.step token = .error error) (hs : state.expecting.Marks valid)
    (ht : valid token.offset) : valid error.position := by
  obtain ⟨enclosing, level, expecting⟩ := state
  cases expecting with
  | operand place =>
      rw [stepOperand_error h]
      exact ht
  | connective conjunction =>
      rw [stepConnective_error h]
      exact ht
  | name family start =>
      simp only [step] at h
      split at h <;> cases h
      exact ht
  | colon reading =>
      simp only [step] at h
      split at h
      · cases h
      · rw [stepConnective_error h]
        exact ht
  | value reading colon =>
      simp only [step] at h
      split at h <;> cases h
      exact hs

theorem stepOperand_marks {place : Place} (h : state.stepOperand place token = .ok next) :
    next.expecting.Marks valid := by
  cases hk : token.kind with
  | not | closeParen =>
      simp only [stepOperand, hk] at h
      split at h <;> cases h <;> trivial
  | blank | openParen | literal | quoted | family _ | and | or | colon =>
      simp only [stepOperand, hk] at h
      cases h <;> trivial

theorem stepConnective_marks {conjunction : Tree Atom}
    (h : state.stepConnective conjunction token = .ok next) : next.expecting.Marks valid := by
  cases hk : token.kind with
  | not | openParen | literal | quoted | family _ =>
      simp only [stepConnective, hk] at h
      exact stepOperand_marks h
  | closeParen | colon =>
      simp only [stepConnective, hk] at h
      split at h <;> cases h <;> trivial
  | blank | and | or =>
      simp only [stepConnective, hk] at h
      cases h
      trivial

theorem step_marks (h : state.step token = .ok next) (ht : valid token.offset) :
    next.expecting.Marks valid := by
  obtain ⟨enclosing, level, expecting⟩ := state
  cases expecting with
  | operand place => exact stepOperand_marks h
  | connective conjunction => exact stepConnective_marks h
  | name family start | value reading colon =>
      simp only [step] at h
      split at h <;> cases h
      trivial
  | colon reading =>
      simp only [step] at h
      split at h
      · cases h
        exact ht
      · exact stepConnective_marks h

theorem finish_error {length : Nat} (h : state.finish length = .error error)
    (hs : state.expecting.Marks valid) (hz : valid 0) (hl : valid length) :
    valid error.position := by
  obtain ⟨enclosing, level, expecting⟩ := state
  have hclose : ∀ conjunction,
      finish.closeWith ⟨enclosing, level, expecting⟩ length conjunction = .error error →
        valid error.position := by
    intro conjunction hc
    cases enclosing with
    | nil => cases hc
    | cons outer enclosing =>
        cases hc
        exact hl
  cases expecting with
  | operand place =>
      cases place with
      | start =>
          cases h
          exact hz
      | opening | joined =>
          cases h
          exact hl
  | name family start =>
      cases h
      exact hl
  | value reading colon =>
      cases h
      exact hs
  | colon reading | connective conjunction => exact hclose _ h

end State

-- The invariant of the reading is that a colon which waits for its value is in the text.
theorem run_positions {state : State} {tokens : List Token} (hs : state.expecting.Marks valid)
    (ht : ∀ token ∈ tokens, valid token.offset) :
    (∀ last, run state tokens = .ok last → last.expecting.Marks valid) ∧
      ∀ error, run state tokens = .error error → valid error.position := by
  induction tokens generalizing state with
  | nil =>
      refine ⟨?_, ?_⟩
      · intro last h
        cases h
        exact hs
      · intro error h
        cases h
  | cons token tokens ih =>
      obtain ⟨htoken, hrest⟩ := List.forall_mem_cons.mp ht
      cases hstep : state.step token with
      | error error =>
          have hrun : run state (token :: tokens) = .error error := by
            rw [run, List.foldlM_cons, hstep]
            rfl
          rw [hrun]
          refine ⟨?_, ?_⟩
          · intro last h
            cases h
          · intro other h
            cases h
            exact State.step_error hstep hs htoken
      | ok next =>
          rw [run_cons hstep]
          exact ih (State.step_marks hstep htoken) hrest

theorem read_position {tokens : List Token} {length : Nat} {error : SyntaxError}
    (h : read tokens length = .error error) (ht : ∀ token ∈ tokens, valid token.offset)
    (hz : valid 0) (hl : valid length) : valid error.position := by
  have hinitial : State.initial.expecting.Marks valid := trivial
  obtain ⟨hlast, herror⟩ := run_positions hinitial ht
  unfold read at h
  cases hrun : run .initial tokens with
  | error other =>
      rw [hrun] at h
      cases h
      exact herror _ hrun
  | ok last =>
      rw [hrun] at h
      exact State.finish_error h (hlast last hrun) hz hl

end Grammar

theorem Tree.self_mem_preorder {α : Type} (depth : Nat) (tree : Tree α) :
    (depth, tree) ∈ tree.preorder depth := by
  cases tree <;> exact List.mem_cons_self

theorem mem_preorder_of_conjuncts {query conjunct : Query}
    (h : conjunct ∈ Filter.conjuncts query) (depth : Nat) :
    ∃ level, (level, conjunct) ∈ query.preorder depth := by
  induction query generalizing depth with
  | and span left right ihl ihr =>
      rcases List.mem_append.mp h with h | h
      · obtain ⟨level, hm⟩ := ihl h (depth + 1)
        exact ⟨level, List.mem_cons_of_mem _ (List.mem_append_left _ hm)⟩
      · obtain ⟨level, hm⟩ := ihr h (depth + 1)
        exact ⟨level, List.mem_cons_of_mem _ (List.mem_append_right _ hm)⟩
  | _ =>
      rw [List.mem_singleton.mp h]
      exact ⟨depth, Tree.self_mem_preorder depth _⟩

theorem isBoundary_offset {text : String} {token : Token} (h : token ∈ tokenize text) :
    IsBoundary text token.offset := by
  obtain ⟨before, after, htext, ho, _⟩ := (Token.tiles_scan 0 text.toList).exists_parts h
  have hvalid := Token.isValid_byteLength before (token.text.toList ++ after)
  rw [← htext, String.ofList_toList] at hvalid
  rw [ho, Nat.zero_add]
  exact isBoundary_of_isValid hvalid

theorem usable_of_mem_preorder {text : String} {query : Query} (h : parse text = .ok query)
    {entry : Nat × Query} (hm : entry ∈ query.preorder 0) :
    entry.2.span.Usable text ∧ entry.2.Frames := by
  obtain ⟨body, rfl, hforms⟩ := Grammar.exists_forms_of_parse h
  have hbelow : ∀ entry ∈ body.preorder 1, entry.2.span.Usable text ∧ entry.2.Frames := by
    intro entry he
    obtain ⟨rule, own, shape, hown, hf, hr⟩ := hforms entry he
    have hframes := hf.frames ((Token.ordered_tokenize text).sublist hown.sublist)
    rw [Tree.span_of_traverse hr]
    exact ⟨hf.spanned.usable hown, Tree.frames_of_traverse hr hframes⟩
  rcases List.mem_cons.mp hm with rfl | hm
  · exact ⟨(hbelow _ (Tree.self_mem_preorder 1 body)).1, rfl⟩
  · exact hbelow entry hm

theorem isBoundary_of_parse_error {text : String} {error : SyntaxError}
    (h : parse text = .error error) : IsBoundary text error.position := by
  simp only [parse, bind_eq_error] at h
  rcases h with h | ⟨shape, hread, h | ⟨_, _, h⟩⟩
  · exact Grammar.read_position h (fun token hm => isBoundary_offset hm)
      (isBoundary_of_isValid (String.Pos.Raw.isValid_zero))
      (isBoundary_of_isValid (String.Pos.Raw.isValid_rawEndPos))
  · obtain ⟨derivation, ht, rfl⟩ := (read_eq_ok_iff _ _ _).mp hread
    obtain ⟨gap, tokens, hbody, hf⟩ := derivation.body.exists_forms
    obtain ⟨level, span, atom, hm, he⟩ := Tree.exists_leaf_of_traverse_error h 0
    obtain ⟨rule, own, hown, hleaf⟩ := hf.of_mem_preorder hm
    have hwhole : tokens <:+: tokenize text := by
      rw [← ht, Grammar.Derivation.tokens, hbody]
      exact ⟨gap.tokens, derivation.trailing.tokens, rfl⟩
    have husable := hleaf.spanned.usable (hown.trans hwhole)
    rcases Atom.resolve_error he with hp | hp
    · rw [hp]
      exact husable.start_boundary
    · rw [hp]
      exact husable.stop_boundary
  · cases h

-- Every node of a query can be cut out of the text at its span, and the spans of its children lie
-- in its own, in their order. The same holds of the groups a filter is read from. A text that is no
-- query has its fault between two characters of the text.
theorem parse_positions (text : String) :
    match parse text with
    | .ok query =>
      (∀ entry ∈ query.preorder 0, entry.2.span.Usable text ∧ entry.2.Frames) ∧
        ∀ conjunct ∈ Filter.conjuncts (unrooted query), conjunct.span.Usable text
    | .error error => IsBoundary text error.position := by
  cases h : parse text with
  | error error => exact isBoundary_of_parse_error h
  | ok query =>
      refine ⟨fun entry hm => usable_of_mem_preorder h hm, ?_⟩
      intro conjunct hc
      obtain ⟨body, rfl, _⟩ := Grammar.exists_forms_of_parse h
      obtain ⟨level, hm⟩ := mem_preorder_of_conjuncts hc 1
      exact (usable_of_mem_preorder h (List.mem_cons_of_mem _ hm)).1

end VaultQuery.Query
