import VaultQuery.Proofs.Grammar.Positions
import VaultQuery.Proofs.Text.Trim

namespace VaultQuery.Query

-- A token stands where it cannot stand.
inductive SyntaxError.Cause.Misplaced : Cause → Prop where
  | doubleNegation : Misplaced .doubleNegation
  | unexpected (text : String) : Misplaced (.unexpected text)
  | emptyParens : Misplaced .emptyParens
  | unclosedBefore (text : String) : Misplaced (.unclosedBefore text)
  | missingName (family : Family) : Misplaced (.missingName family false)

theorem SyntaxError.Cause.Misplaced.ne_missingValue {cause : Cause} (h : cause.Misplaced) :
    cause ≠ .missingValue := by
  rintro rfl
  cases h

namespace Grammar

-- Tokens that are the beginning of a query, or a query.
def Viable (tokens : List Token) : Prop :=
  ∃ (more : List Token) (length : Nat) (tree : Tree Atom), read (tokens ++ more) length = .ok tree

-- An operand, wherever one is due.
def anyWord : Mark .literal :=
  ⟨⟨.literal, "a", 0⟩, rfl⟩

def anyCloseParen : Mark .closeParen :=
  ⟨⟨.closeParen, ")", 0⟩, rfl⟩

namespace State

-- What is due can be supplied by a single word.
theorem exists_behind (state : State) :
    ∃ (tokens : List Token) (next : State) (alternatives : Option (Tree Atom))
      (conjunction : Tree Atom), run state tokens = .ok next ∧
        Behind state.enclosing alternatives conjunction next := by
  obtain ⟨enclosing, level, expecting⟩ := state
  cases expecting with
  | operand | name | value =>
      exact ⟨[anyWord.val], _, _, _, run_cons rfl [], .colon level _ rfl rfl⟩
  | colon reading => exact ⟨[], _, _, _, rfl, .colon level reading rfl rfl⟩
  | connective conjunction => exact ⟨[], _, _, _, rfl, .connective level rfl⟩

-- Behind an operand nothing is missing but the parentheses of the open groups.
theorem Behind.exists_finish {enclosing : List (Level × Nat)}
    {alternatives : Option (Tree Atom)} {conjunction : Tree Atom} {state : State}
    (hb : Behind enclosing alternatives conjunction state) (length : Nat) :
    ∃ (tokens : List Token) (last : State) (tree : Tree Atom),
      run state tokens = .ok last ∧ last.finish length = .ok tree := by
  induction enclosing generalizing alternatives conjunction state with
  | nil => exact ⟨[], state, _, rfl, hb.finish_eq length⟩
  | cons outer enclosing ih =>
      obtain ⟨level, start⟩ := outer
      obtain ⟨tokens, last, tree, hrun, hfinish⟩ := ih (.connective level rfl)
      have hclose := run_cons (hb.step_close anyCloseParen) tokens
      exact ⟨anyCloseParen.val :: tokens, last, tree, hclose.trans hrun, hfinish⟩

end State

theorem run_append_eq_ok {state last : State} {first second : List Token} :
    run state (first ++ second) = .ok last ↔
      ∃ middle, run state first = .ok middle ∧ run middle second = .ok last := by
  unfold run
  rw [List.foldlM_append, bind_eq_ok]

-- A beginning of a query is what can be read without a fault.
theorem viable_iff (tokens : List Token) :
    Viable tokens ↔ ∃ state, run .initial tokens = .ok state := by
  constructor
  · rintro ⟨more, length, tree, hread⟩
    rw [read, bind_eq_ok] at hread
    obtain ⟨last, hrun, _⟩ := hread
    obtain ⟨state, hstate, _⟩ := run_append_eq_ok.mp hrun
    exact ⟨state, hstate⟩
  · rintro ⟨state, hstate⟩
    obtain ⟨operand, next, alternatives, conjunction, hoperand, hb⟩ := state.exists_behind
    obtain ⟨closing, last, tree, hclosing, hfinish⟩ := hb.exists_finish 0
    refine ⟨operand ++ closing, 0, tree, ?_⟩
    rw [read, run_append hstate, run_append hoperand, hclosing]
    exact hfinish

instance (tokens : List Token) : Decidable (Viable tokens) :=
  decidable_of_iff ((run .initial tokens).isOk = true) <| by
    rw [viable_iff]
    cases run .initial tokens <;> simp [Except.isOk, Except.toBool]

theorem not_viable_concat {tokens : List Token} {state : State} {token : Token}
    {error : SyntaxError} (hrun : run .initial tokens = .ok state)
    (hstep : state.step token = .error error) : ¬Viable (tokens ++ [token]) := by
  rw [viable_iff]
  rintro ⟨last, hlast⟩
  rw [run_append hrun, run, List.foldlM_cons, hstep] at hlast
  cases hlast

-- A fault comes up at a token or at the end.
theorem run_eq_error {state : State} {tokens : List Token} {error : SyntaxError}
    (h : run state tokens = .error error) :
    ∃ (before : List Token) (token : Token) (after : List Token) (middle : State),
      tokens = before ++ token :: after ∧ run state before = .ok middle ∧
        middle.step token = .error error := by
  induction tokens generalizing state with
  | nil => cases h
  | cons token tokens ih =>
      cases hstep : state.step token with
      | error other =>
          rw [run, List.foldlM_cons, hstep] at h
          cases h
          exact ⟨[], token, tokens, state, rfl, rfl, hstep⟩
      | ok next =>
          rw [run_cons hstep] at h
          obtain ⟨before, last, after, middle, rfl, hrun, hlast⟩ := ih h
          exact ⟨token :: before, last, after, middle, rfl, (run_cons hstep before).trans hrun,
            hlast⟩

section Faults

variable {state next : State} {token : Token} {error : SyntaxError}

-- A token is at fault only for the place where it stands.
theorem State.stepOperand_cause {place : Place} (h : state.stepOperand place token = .error error) :
    error.cause.Misplaced := by
  cases hk : token.kind with
  | not =>
      simp only [stepOperand, hk] at h
      split at h <;> cases h
      exact .doubleNegation
  | closeParen =>
      simp only [stepOperand, hk] at h
      split at h <;> cases h
      · exact .emptyParens
      · exact .unexpected token.text
  | blank | openParen | literal | quoted | family _ =>
      simp only [stepOperand, hk] at h
      cases h
  | and | or | colon =>
      simp only [stepOperand, hk] at h
      cases h
      exact .unexpected token.text

theorem State.stepConnective_cause {conjunction : Tree Atom}
    (h : state.stepConnective conjunction token = .error error) : error.cause.Misplaced := by
  cases hk : token.kind with
  | not | openParen | literal | quoted | family _ =>
      simp only [stepConnective, hk] at h
      exact stepOperand_cause h
  | closeParen =>
      simp only [stepConnective, hk] at h
      split at h <;> cases h
      exact .unexpected token.text
  | colon =>
      simp only [stepConnective, hk] at h
      split at h <;> cases h
      · exact .unexpected token.text
      · exact .unclosedBefore token.text
  | blank | and | or =>
      simp only [stepConnective, hk] at h
      cases h

-- A fault is that of the token it comes up at, unless a colon behind an atom has no value.
theorem State.step_fault (h : state.step token = .error error) :
    (error.cause ≠ .missingValue ∧ error.position = token.offset) ∨
      ∃ reading colon, state.expecting = .value reading colon ∧
        error = ⟨.missingValue, colon⟩ := by
  obtain ⟨enclosing, level, expecting⟩ := state
  cases expecting with
  | operand place => exact .inl ⟨(stepOperand_cause h).ne_missingValue, stepOperand_error h⟩
  | connective conjunction =>
      exact .inl ⟨(stepConnective_cause h).ne_missingValue, stepConnective_error h⟩
  | name family start =>
      simp only [step] at h
      split at h <;> cases h
      exact .inl ⟨nofun, rfl⟩
  | colon reading =>
      simp only [step] at h
      split at h
      · cases h
      · exact .inl ⟨(stepConnective_cause h).ne_missingValue, stepConnective_error h⟩
  | value reading colon =>
      simp only [step] at h
      split at h <;> cases h
      exact .inr ⟨reading, colon, rfl, rfl⟩

-- At the end a text can also turn out to be blank.
theorem State.finish_fault {length : Nat} (h : state.finish length = .error error) :
    (error.cause ≠ .missingValue ∧ error.position = length) ∨
      (∃ reading colon, state.expecting = .value reading colon ∧
        error = ⟨.missingValue, colon⟩) ∨
      state.expecting = .operand .start := by
  obtain ⟨enclosing, level, expecting⟩ := state
  have hclose : ∀ conjunction,
      finish.closeWith ⟨enclosing, level, expecting⟩ length conjunction = .error error →
        error.cause ≠ .missingValue ∧ error.position = length := by
    intro conjunction hc
    cases enclosing <;> cases hc
    exact ⟨nofun, rfl⟩
  cases expecting with
  | operand place =>
      cases place with
      | start => exact .inr (.inr rfl)
      | opening | joined =>
          cases h
          exact .inl ⟨nofun, rfl⟩
  | name family start =>
      cases h
      exact .inl ⟨nofun, rfl⟩
  | value reading colon =>
      cases h
      exact .inr (.inl ⟨reading, colon, rfl, rfl⟩)
  | colon reading | connective conjunction => exact .inl (hclose _ h)

-- The colon that waits for a value is the last token read.
theorem Reads.exists_colon {tokens : List Token} (hr : Reads state tokens) {reading : OpenAtom}
    {position : Nat} (he : state.expecting = .value reading position) :
    ∃ before colon, tokens = before ++ [colon] ∧ colon.offset = position := by
  cases hr with
  | @value enclosing outer level before hw hb gap form colon =>
      cases he
      exact ⟨outer ++ (before ++ (gap.tokens ++ form.tokens)), colon.val, by simp, rfl⟩
  | operand | name | colon | connective => cases he

theorem State.stepOperand_start {place : Place} (h : state.stepOperand place token = .ok next)
    (hn : next.expecting = .operand .start) : place = .start ∧ token.kind = .blank := by
  cases hk : token.kind with
  | blank =>
      simp only [stepOperand, hk] at h
      cases h
      cases hn
      exact ⟨rfl, rfl⟩
  | not | closeParen =>
      simp only [stepOperand, hk] at h
      split at h <;> cases h <;> cases hn
  | openParen | literal | quoted | family _ =>
      simp only [stepOperand, hk] at h
      cases h
      cases hn
  | and | or | colon =>
      simp only [stepOperand, hk] at h
      cases h

theorem State.stepConnective_ne_start {conjunction : Tree Atom}
    (h : state.stepConnective conjunction token = .ok next) :
    next.expecting ≠ .operand .start := by
  intro hn
  cases hk : token.kind with
  | not | openParen | literal | quoted | family _ =>
      simp only [stepConnective, hk] at h
      cases (stepOperand_start h hn).1
  | closeParen | colon =>
      simp only [stepConnective, hk] at h
      split at h <;> cases h <;> cases hn
  | blank | and | or =>
      simp only [stepConnective, hk] at h
      cases h
      cases hn

theorem State.step_start (h : state.step token = .ok next)
    (hn : next.expecting = .operand .start) :
    state.expecting = .operand .start ∧ token.kind = .blank := by
  obtain ⟨enclosing, level, expecting⟩ := state
  cases expecting with
  | operand place =>
      obtain ⟨rfl, hk⟩ := stepOperand_start h hn
      exact ⟨rfl, hk⟩
  | connective conjunction => exact absurd hn (stepConnective_ne_start h)
  | name family start | value reading colon =>
      simp only [step] at h
      split at h <;> cases h
      cases hn
  | colon reading =>
      simp only [step] at h
      split at h
      · cases h
        cases hn
      · exact absurd hn (stepConnective_ne_start h)

end Faults

-- The start of a query lasts as long as there are only blanks.
theorem run_start {state last : State} {tokens : List Token} (h : run state tokens = .ok last)
    (hl : last.expecting = .operand .start) :
    state.expecting = .operand .start ∧ ∀ token ∈ tokens, token.kind = .blank := by
  induction tokens generalizing state with
  | nil =>
      cases h
      exact ⟨hl, nofun⟩
  | cons token tokens ih =>
      rw [run, List.foldlM_cons, bind_eq_ok] at h
      obtain ⟨next, hstep, hrest⟩ := h
      obtain ⟨hnext, hblank⟩ := ih hrest
      obtain ⟨hstate, hk⟩ := State.step_start hstep hnext
      exact ⟨hstate, List.forall_mem_cons.mpr ⟨hk, hblank⟩⟩

end Grammar

namespace Token

-- The tokens that end at or before a position.
def upTo (position : Nat) (tokens : List Token) : List Token :=
  tokens.filter fun token => token.stop ≤ position

theorem upTo_eq_self {position : Nat} {tokens : List Token}
    (h : ∀ token ∈ tokens, token.stop ≤ position) : upTo position tokens = tokens :=
  List.filter_eq_self.mpr fun token hm => decide_eq_true (h token hm)

theorem upTo_append (position : Nat) (first second : List Token) :
    upTo position (first ++ second) = upTo position first ++ upTo position second :=
  List.filter_append ..

namespace Ordered

variable {before after : List Token} {token : Token}

theorem upTo_offset (h : Ordered (before ++ token :: after)) :
    upTo token.offset (before ++ token :: after) = before := by
  have hbehind : Ordered (token :: after) := h.sublist (List.sublist_append_right ..)
  have htoken := h.offset_lt token (by simp)
  have hnone : upTo token.offset (token :: after) = [] := by
    rw [upTo, List.filter_eq_nil_iff]
    intro next hm
    have hnext := h.offset_lt next (by simp [hm])
    rw [decide_eq_true_eq]
    rcases List.mem_cons.mp hm with rfl | hm
    · omega
    · have hle := hbehind.stop_le next hm
      omega
  rw [upTo_append, hnone, List.append_nil]
  exact upTo_eq_self fun earlier hm => h.append earlier hm token List.mem_cons_self

theorem upTo_stop (h : Ordered (before ++ token :: after)) :
    upTo token.stop (before ++ token :: after) = before ++ [token] := by
  have hbehind : Ordered (token :: after) := h.sublist (List.sublist_append_right ..)
  have htoken := h.offset_lt token (by simp)
  have hnone : upTo token.stop after = [] := by
    rw [upTo, List.filter_eq_nil_iff]
    intro next hm
    have hnext := h.offset_lt next (by simp [hm])
    have hle := hbehind.stop_le next hm
    rw [decide_eq_true_eq]
    omega
  rw [List.append_cons, upTo_append, hnone, List.append_nil]
  apply upTo_eq_self
  intro earlier hm
  rcases List.mem_append.mp hm with hm | hm
  · have hle := h.append earlier hm token List.mem_cons_self
    omega
  · rw [List.mem_singleton.mp hm]

-- The token at a position is found by its position.
theorem dropWhile_eq (h : Ordered (before ++ token :: after)) :
    (before ++ token :: after).dropWhile (·.offset ≠ token.offset) = token :: after := by
  have hbefore : ∀ earlier ∈ before, decide (earlier.offset ≠ token.offset) = true := by
    intro earlier hm
    have hlt := h.offset_lt earlier (by simp [hm])
    have hle := h.append earlier hm token List.mem_cons_self
    rw [decide_eq_true_eq]
    omega
  rw [List.dropWhile_append_of_pos hbefore, List.dropWhile_cons_of_neg (by simp)]

end Ordered

theorem stop_le_size {text : String} {token : Token} (h : token ∈ tokenize text) :
    token.stop ≤ text.utf8ByteSize := by
  obtain ⟨before, after, htext, ho, _⟩ := (tiles_scan 0 text.toList).exists_parts h
  rw [← Text.byteLength_toList, htext, stop, ho, Text.byteLength_append, Text.byteLength_append]
  omega

theorem isBlankText_of_blank {text : String}
    (h : ∀ token ∈ tokenize text, token.kind = .blank) : Text.isBlankText text = true := by
  have htiles := tiles_scan 0 text.toList
  rw [Text.isBlankText_iff, ← htiles.flatMap_eq]
  intro c hc
  obtain ⟨token, hm, hc⟩ := List.mem_flatMap.mp hc
  obtain ⟨_, _, _, _, hcut⟩ := htiles.exists_parts hm
  have hshape := hcut.shape
  rw [h token hm] at hshape
  exact hshape c hc

end Token

-- The token a fault is about. It starts at the position of the fault, but where a colon misses its
-- value it is the one behind the colon.
def SyntaxError.offending? (error : SyntaxError) (tokens : List Token) : Option Token :=
  let found := tokens.dropWhile (·.offset ≠ error.position)
  if error.cause = .missingValue then found.tail.head? else found.head?

namespace SyntaxError

variable {error : SyntaxError} {before after : List Token} {token colon : Token}

theorem offending?_of_position (h : Token.Ordered (before ++ token :: after))
    (hc : error.cause ≠ .missingValue) (hp : error.position = token.offset) :
    error.offending? (before ++ token :: after) = some token := by
  rw [offending?, hp, h.dropWhile_eq, if_neg hc, List.head?_cons]

theorem offending?_of_colon (h : Token.Ordered (before ++ colon :: after)) :
    offending? ⟨.missingValue, colon.offset⟩ (before ++ colon :: after) = after.head? := by
  rw [offending?, h.dropWhile_eq, if_pos rfl, List.tail_cons]

theorem offending?_eq_none {tokens : List Token}
    (h : ∀ token ∈ tokens, token.offset ≠ error.position) : error.offending? tokens = none := by
  have hnone : tokens.dropWhile (·.offset ≠ error.position) = [] :=
    List.dropWhile_eq_nil_iff.mpr fun token hm => decide_eq_true (h token hm)
  rw [offending?, hnone, List.tail_nil, List.head?_nil, ite_self]

end SyntaxError

open Grammar (Viable State)

variable {tokens : List Token} {error : SyntaxError}

-- A fault that comes up at a token is about that token. Its position is that of the token, or of
-- the colon in front of it.
theorem run_fault_offends (ho : Token.Ordered tokens)
    (h : Grammar.run .initial tokens = .error error) :
    ∃ token, error.offending? tokens = some token ∧ Viable (Token.upTo error.position tokens) ∧
      Viable (Token.upTo token.offset tokens) ∧ ¬Viable (Token.upTo token.stop tokens) := by
  obtain ⟨before, token, after, state, rfl, hbefore, hstep⟩ := Grammar.run_eq_error h
  have hviable := (Grammar.viable_iff before).mpr ⟨state, hbefore⟩
  have hoffends := Grammar.not_viable_concat hbefore hstep
  refine ⟨token, ?_⟩
  rw [ho.upTo_offset, ho.upTo_stop]
  rcases State.step_fault hstep with ⟨hc, hp⟩ | ⟨reading, position, he, rfl⟩
  · rw [SyntaxError.offending?_of_position ho hc hp, hp, ho.upTo_offset]
    exact ⟨rfl, hviable, hviable, hoffends⟩
  · obtain ⟨earlier, colon, rfl, rfl⟩ := (Grammar.Reads.initial.run _ hbefore).exists_colon he
    obtain ⟨middle, hearlier, _⟩ := Grammar.run_append_eq_ok.mp hbefore
    have hlist : earlier ++ [colon] ++ token :: after = earlier ++ colon :: token :: after := by
      simp
    rw [hlist] at ho ⊢
    rw [SyntaxError.offending?_of_colon ho, ho.upTo_offset]
    exact ⟨rfl, (Grammar.viable_iff earlier).mpr ⟨middle, hearlier⟩, hviable, hoffends⟩

-- A fault at the end of a text that is not blank is about no token.
theorem finish_fault_offends {state : State} {length : Nat} (ho : Token.Ordered tokens)
    (hend : ∀ token ∈ tokens, token.stop ≤ length) (h : Grammar.run .initial tokens = .ok state)
    (hstart : state.expecting ≠ .operand .start) (hf : state.finish length = .error error) :
    error.offending? tokens = none ∧ Viable (Token.upTo error.position tokens) ∧
      Viable tokens := by
  have hviable := (Grammar.viable_iff tokens).mpr ⟨state, h⟩
  rcases State.finish_fault hf with ⟨_, hp⟩ | ⟨reading, position, he, rfl⟩ | he
  · have hnone : error.offending? tokens = none := by
      apply SyntaxError.offending?_eq_none
      intro token hm
      have hlt := ho.offset_lt token hm
      have hle := hend token hm
      omega
    rw [hp, Token.upTo_eq_self hend]
    exact ⟨hnone, hviable, hviable⟩
  · obtain ⟨earlier, colon, rfl, rfl⟩ := (Grammar.Reads.initial.run _ h).exists_colon he
    obtain ⟨middle, hearlier, _⟩ := Grammar.run_append_eq_ok.mp h
    rw [SyntaxError.offending?_of_colon ho, ho.upTo_offset]
    exact ⟨rfl, (Grammar.viable_iff earlier).mpr ⟨middle, hearlier⟩, hviable⟩
  · exact absurd he hstart

-- A text that is not blank and no query for its grammar is the beginning of one up to the position
-- of the fault, and up to the token the fault is about, but with that token no longer. If there is
-- no such token, the whole text is the beginning of a query.
theorem read_fault_offends {text : String} {error : SyntaxError}
    (hb : Text.isBlankText text = false)
    (h : Grammar.read (tokenize text) text.utf8ByteSize = .error error) :
    Viable (Token.upTo error.position (tokenize text)) ∧
      match error.offending? (tokenize text) with
      | some token =>
        Viable (Token.upTo token.offset (tokenize text)) ∧
          ¬Viable (Token.upTo token.stop (tokenize text))
      | none => Viable (tokenize text) := by
  have hordered := Token.ordered_tokenize text
  rw [Grammar.read, bind_eq_error] at h
  rcases h with hrun | ⟨state, hrun, hfinish⟩
  · obtain ⟨token, hfound, hposition, hoffends⟩ := run_fault_offends hordered hrun
    rw [hfound]
    exact ⟨hposition, hoffends⟩
  · have hstart : state.expecting ≠ .operand .start := by
      intro he
      have hblank := Token.isBlankText_of_blank (Grammar.run_start hrun he).2
      rw [hb] at hblank
      cases hblank
    obtain ⟨hnone, hviable⟩ :=
      finish_fault_offends hordered (fun _ => Token.stop_le_size) hrun hstart hfinish
    rw [hnone]
    exact hviable

-- The blank behind the colon is at fault, which is reported at the colon. A text that ends with the
-- colon has the same fault without an offending token.
theorem read_fault_offends_colon :
    let text := "é AND (b: c"
    let start := "é AND (b:"
    let error : SyntaxError := ⟨.missingValue, 9⟩
    let blank : Token := ⟨.blank, " ", 10⟩
    (Text.isBlankText text = false ∧
      Grammar.read (tokenize text) text.utf8ByteSize = .error error ∧
      error.offending? (tokenize text) = some blank ∧
      Viable (Token.upTo 9 (tokenize text)) ∧
      Viable (Token.upTo blank.offset (tokenize text)) ∧
      ¬Viable (Token.upTo blank.stop (tokenize text))) ∧
    Text.isBlankText start = false ∧
      Grammar.read (tokenize start) start.utf8ByteSize = .error error ∧
      error.offending? (tokenize start) = none ∧
      Viable (Token.upTo 9 (tokenize start)) ∧ Viable (tokenize start) := by
  intro text start error blank
  have hb : Text.isBlankText text = false := by decide
  have hread : Grammar.read (tokenize text) text.utf8ByteSize = .error error := by decide
  have hfound : error.offending? (tokenize text) = some blank := by decide
  have hoffends := read_fault_offends hb hread
  rw [hfound] at hoffends
  have hs : Text.isBlankText start = false := by decide
  have hstart : Grammar.read (tokenize start) start.utf8ByteSize = .error error := by decide
  have hnone : error.offending? (tokenize start) = none := by decide
  have hends := read_fault_offends hs hstart
  rw [hnone] at hends
  exact ⟨⟨hb, hread, hfound, hoffends⟩, hs, hstart, hnone, hends⟩

end VaultQuery.Query
