import Mathlib.Tactic.TFAE
import VaultQuery.Proofs.Filter.Shape
import VaultQuery.Proofs.Grammar.Viability
import VaultQuery.Proofs.Session.History

namespace VaultQuery

namespace Query

theorem head?_toList_append {first : String} {c : Char} (h : first.toList.head? = some c)
    (rest : String) : (first ++ rest).toList.head? = some c := by
  rw [String.toList_append, List.head?_append, h]
  rfl

namespace SyntaxError.Cause

-- Where a message quotes a part of the text, it opens with words of its own.
theorem exists_opening {cause : Cause} (h : cause ≠ .emptyQuery) :
    ∃ c, cause.message.toList.head? = some c ∧ c ≠ 'q' := by
  cases cause with
  | emptyQuery => exact absurd rfl h
  | missingTerm | emptyParens | missingValue => exact ⟨'e', by decide, by decide⟩
  | doubleNegation => exact ⟨'N', by decide, by decide⟩
  | unclosed => exact ⟨'m', by decide, by decide⟩
  | bareUrl => exact ⟨'a', by decide, by decide⟩
  | unclosedBefore text =>
      exact ⟨'e', head?_toList_append (head?_toList_append (by decide) _) _, by decide⟩
  | missingName family atEnd =>
      exact ⟨'e', head?_toList_append (head?_toList_append
        (head?_toList_append (by decide) _) _) _, by decide⟩
  | unexpected text | unknownStrategy name | unknownDirection name =>
      exact ⟨'u', head?_toList_append (head?_toList_append (by decide) _) _, by decide⟩
  | unknownPredicate family name =>
      exact ⟨'u', head?_toList_append (head?_toList_append
        (head?_toList_append (by decide) _) _) _, by decide⟩
  | tooManyQualifiers name | valueRefused name =>
      exact ⟨'\'', head?_toList_append (head?_toList_append (by decide) _) _, by decide⟩
  | tooManyArguments name =>
      exact ⟨'t', head?_toList_append (head?_toList_append (by decide) _) _, by decide⟩
  | nameNeeded name =>
      exact ⟨'i', head?_toList_append (head?_toList_append (head?_toList_append
        (head?_toList_append (by decide) _) _) _) _, by decide⟩

-- No other message is that of an empty query.
theorem message_eq_iff (cause : Cause) :
    cause.message = "query is empty" ↔ cause = .emptyQuery := by
  constructor
  · intro h
    by_contra hne
    obtain ⟨c, hc, hq⟩ := exists_opening hne
    have hopening : "query is empty".toList.head? = some 'q' := by decide
    rw [h, hopening, Option.some.injEq] at hc
    exact hq hc.symm
  · rintro rfl
    rfl

end SyntaxError.Cause

namespace Grammar

-- At a token a reading fails for its place or for the value that the colon before it misses.
theorem State.step_cause {state : State} {token : Token} {error : SyntaxError}
    (h : state.step token = .error error) :
    error.cause.Misplaced ∨ error.cause = .missingValue := by
  obtain ⟨enclosing, level, expecting⟩ := state
  cases expecting with
  | operand place => exact .inl (stepOperand_cause h)
  | connective conjunction => exact .inl (stepConnective_cause h)
  | name family start =>
      simp only [step] at h
      split at h <;> cases h
      exact .inl (.missingName family)
  | colon reading =>
      simp only [step] at h
      split at h
      · cases h
      · exact .inl (stepConnective_cause h)
  | value reading colon =>
      simp only [step] at h
      split at h <;> cases h
      exact .inr rfl

theorem State.expecting_of_finish_error {state : State} {length : Nat} {error : SyntaxError}
    (h : state.finish length = .error error) (he : error.cause = .emptyQuery) :
    state.expecting = .operand .start := by
  obtain ⟨enclosing, level, expecting⟩ := state
  cases expecting with
  | operand place =>
      cases place with
      | start => rfl
      | opening | joined =>
          cases h
          cases he
  | name family start | value reading colon =>
      cases h
      cases he
  | colon reading | connective conjunction =>
      cases enclosing <;> cases h
      cases he

theorem read_of_blank {tokens : List Token} (h : ∀ token ∈ tokens, token.kind = .blank)
    (length : Nat) : read tokens length = .error ⟨.emptyQuery, 0⟩ := by
  have hgap : Gap.tokens (tokens.pmap Subtype.mk h) = tokens := by
    simp only [Gap.tokens, List.map_pmap, List.pmap_eq_map, List.map_id']
  have hrun := run_gap_operand [] .empty .start (tokens.pmap Subtype.mk h)
  rw [hgap] at hrun
  rw [read, State.initial, hrun]
  rfl

theorem blank_of_read_error {tokens : List Token} {length : Nat} {error : SyntaxError}
    (h : read tokens length = .error error) (he : error.cause = .emptyQuery) :
    ∀ token ∈ tokens, token.kind = .blank := by
  rcases bind_eq_error.mp h with hrun | ⟨last, hrun, hfinish⟩
  · obtain ⟨_, _, _, _, _, _, hstep⟩ := run_eq_error hrun
    have hcause := State.step_cause hstep
    rw [he] at hcause
    rcases hcause with hplace | hvalue
    · cases hplace
    · cases hvalue
  · exact (run_start hrun (State.expecting_of_finish_error hfinish he)).2

end Grammar

namespace Atom

-- An atom that has been read is at fault for the words it is made of.
inductive Fault : Atom → SyntaxError.Cause → Prop where
  | bareUrl (head : Value) (qualifiers : List Value) : Fault (.values head qualifiers) .bareUrl
  | unknownStrategy (head : Value) {qualifiers : List Value} {modifier : Value}
      (hm : modifier ∈ qualifiers) : Fault (.values head qualifiers) (.unknownStrategy modifier.text)
  | unknownDirection (head : Value) {qualifiers : List Value} {modifier : Value}
      (hm : modifier ∈ qualifiers) :
      Fault (.values head qualifiers) (.unknownDirection modifier.text)
  | tooManyQualifiers (head : Value) (qualifiers : List Value) :
      Fault (.values head qualifiers) (.tooManyQualifiers head.text)
  | nameNeeded (family : Family) (name : Value) :
      Fault (.call family name []) (.nameNeeded (Text.asciiLowercase name.text))
  | valueRefused (family : Family) (name value : Value) :
      Fault (.call family name [value]) (.valueRefused name.text)
  | unknownPredicate (family : Family) (name : Value) (arguments : List Value) :
      Fault (.call family name arguments) (.unknownPredicate family name.text)
  | tooManyArguments (family : Family) (name : Value) (arguments : List Value) :
      Fault (.call family name arguments) (.tooManyArguments name.text)

variable {family : Family} {head name value modifier : Value} {qualifiers arguments : List Value}
  {cause : SyntaxError.Cause}

theorem fault_of_resolveTriple (h : resolveTriple head value modifier = .error cause) :
    Fault (.values head [value, modifier]) cause := by
  have hm : modifier ∈ [value, modifier] := List.mem_cons_of_mem _ List.mem_cons_self
  unfold resolveTriple at h
  split at h
  · split at h <;> cases h
    exact .unknownStrategy head hm
  · split at h
    · split at h <;> cases h
      exact .unknownDirection head hm
    · cases h
      exact .tooManyQualifiers head _

theorem fault_of_resolveValues (h : resolveValues head qualifiers = .error cause) :
    Fault (.values head qualifiers) cause := by
  unfold resolveValues at h
  split at h
  · cases h
  · cases h
  · split at h
    · cases h
      exact .bareUrl head _
    · split at h
      · exact fault_of_resolveTriple h
      · cases h
        exact .tooManyQualifiers head _

theorem fault_of_resolveFlag (h : resolveFlag family name.text = .error cause) :
    Fault (.call family name []) cause := by
  simp only [resolveFlag] at h
  split at h
  · cases h
  · split at h <;> cases h
    · exact .nameNeeded family name
    · exact .unknownPredicate family name []

theorem fault_of_resolveNamed (h : resolveNamed family name.text value.text = .error cause) :
    Fault (.call family name [value]) cause := by
  simp only [resolveNamed] at h
  split at h
  · cases h
  · split at h <;> cases h
    · exact .valueRefused family name value
    · exact .unknownPredicate family name [value]

theorem fault_of_resolveCall (h : resolveCall family name arguments = .error cause) :
    Fault (.call family name arguments) cause := by
  unfold resolveCall at h
  split at h
  · exact fault_of_resolveFlag h
  · exact fault_of_resolveNamed h
  · cases h
    exact .tooManyArguments family name _

theorem fault_of_resolve {span : Span} {atom : Atom} {error : SyntaxError}
    (h : atom.resolve span = .error error) : Fault atom error.cause := by
  unfold resolve at h
  obtain ⟨cause, hc, rfl⟩ := mapError_eq_error.mp h
  cases atom with
  | values head qualifiers => exact fault_of_resolveValues hc
  | call family name arguments => exact fault_of_resolveCall hc

theorem Fault.ne_emptyQuery {atom : Atom} (h : Fault atom cause) : cause ≠ .emptyQuery := by
  rintro rfl
  cases h

end Atom

-- Only blanks come with no token that is not blank.
theorem Token.blank_of_isBlankText {text : String} (h : Text.isBlankText text = true) :
    ∀ token ∈ tokenize text, token.kind = .blank := by
  intro token hm
  obtain ⟨before, after, htext, _, hcut⟩ := (tiles_scan 0 text.toList).exists_parts hm
  obtain ⟨c, rest, hown⟩ := List.exists_cons_of_ne_nil hcut.nonempty
  have hblank : Text.isBlank c = true := by
    apply (Text.isBlankText_iff text).mp h
    rw [htext, hown]
    simp
  by_contra hk
  have hc := (hcut.shape.not_blank hk).1 c (by rw [hown]; rfl)
  rw [hblank] at hc
  cases hc

theorem blank_of_parse_error {text : String} {error : SyntaxError}
    (h : parse text = .error error) (he : error.cause = .emptyQuery) :
    ∀ token ∈ tokenize text, token.kind = .blank := by
  rcases bind_eq_error.mp h with hread | ⟨shape, _, hrest⟩
  · exact Grammar.blank_of_read_error hread he
  · rcases bind_eq_error.mp hrest with htraverse | ⟨_, _, hpure⟩
    · obtain ⟨_, span, atom, _, hresolve⟩ := Tree.exists_leaf_of_traverse_error htraverse 0
      exact absurd he (Atom.fault_of_resolve hresolve).ne_emptyQuery
    · cases hpure

theorem parse_of_blank {text : String} (h : ∀ token ∈ tokenize text, token.kind = .blank) :
    parse text = .error ⟨.emptyQuery, 0⟩ := by
  rw [parse, Grammar.read_of_blank h]
  rfl

-- A text with something else than blanks is not refused as an empty query.
theorem message_of_parse_error {text : String} {error : SyntaxError}
    (hb : Text.isBlankText text = false) (h : parse text = .error error) :
    error.cause.message ≠ "query is empty" := by
  rw [Ne, SyntaxError.Cause.message_eq_iff]
  intro he
  have hblank := Token.isBlankText_of_blank (blank_of_parse_error h he)
  rw [hb] at hblank
  cases hblank

end Query

theorem Search.message_of_compile_error {text : String} {error : Query.SyntaxError}
    (h : compile text = .error error) : error.cause.message ≠ "query is empty" := by
  rcases compile_cases text with ⟨_, hc⟩ | ⟨hb, ⟨query, _, hc⟩ | ⟨other, hq, hc⟩⟩
  · cases hc.symm.trans h
  · cases hc.symm.trans h
  · cases hc.symm.trans h
    exact Query.message_of_parse_error hb hq

theorem Filter.message_of_ofText_error {text : String} {error : Query.SyntaxError}
    (h : ofText text = .error (.syntaxError error)) : error.cause.message ≠ "query is empty" := by
  unfold ofText at h
  split at h
  · cases h
  rename_i hb
  split at h
  · rename_i hq
    cases h
    exact Query.message_of_parse_error (by simpa using hb) hq
  · obtain ⟨_, _, _, _, _, _, _, _, herror⟩ := of_readGroups_eq_error h
    cases herror

theorem Search.isEmpty_iff (text : String) :
    (∃ search, compile text = .ok search ∧ search.isEmpty = true) ↔
      Text.isBlankText text = true := by
  constructor
  · rintro ⟨search, hc, he⟩
    rw [← (of_compile_ok hc).2, he]
  · intro hb
    rcases compile_cases text with ⟨_, hc⟩ | ⟨hne, _⟩
    · exact ⟨_, hc, rfl⟩
    · rw [hb] at hne
      cases hne

theorem Session.update_cleared_iff (session : Session) (text : String) :
    (session.update text).2 = .cleared ↔ Text.isBlankText text = true := by
  rcases Search.compile_cases text with ⟨hb, hc⟩ | ⟨hb, ⟨query, _, hc⟩ | ⟨error, _, hc⟩⟩ <;>
    simp [update, hc, hb, Search.isEmpty]

-- A text with nothing left of it when it is trimmed, a text with blank tokens only, and a text that
-- is refused as an empty query, which is at its start, are the same. A search and a filter are
-- never refused so. On these texts, and on no others, a search is empty and an edit clears the
-- session.
theorem blank_text_tfae (text : String) :
    [Text.trim text = "",
      ∀ token ∈ Query.tokenize text, token.kind = .blank,
      Query.parse text = .error ⟨.emptyQuery, 0⟩,
      ∃ error, Query.parse text = .error error ∧ error.cause.message = "query is empty"].TFAE ∧
    (∀ error, Search.compile text = .error error → error.cause.message ≠ "query is empty") ∧
    (∀ error, Filter.ofText text = .error (.syntaxError error) →
      error.cause.message ≠ "query is empty") ∧
    ((∃ search, Search.compile text = .ok search ∧ search.isEmpty = true) ↔
      Text.trim text = "") ∧
    ∀ session : Session, (session.update text).2 = .cleared ↔ Text.trim text = "" := by
  have hblank : Text.isBlankText text = true ↔ Text.trim text = "" := by
    rw [Text.isBlankText, String.isEmpty_iff]
  refine ⟨?_, fun error => Search.message_of_compile_error,
    fun error => Filter.message_of_ofText_error, ?_, ?_⟩
  · tfae_have 1 → 2 := fun h => Query.Token.blank_of_isBlankText (hblank.mpr h)
    tfae_have 2 → 3 := Query.parse_of_blank
    tfae_have 3 → 4 := fun h => ⟨_, h, rfl⟩
    tfae_have 4 → 1 := by
      rintro ⟨error, hparse, hmessage⟩
      have hcause := (Query.SyntaxError.Cause.message_eq_iff error.cause).mp hmessage
      exact hblank.mp (Query.Token.isBlankText_of_blank (Query.blank_of_parse_error hparse hcause))
    tfae_finish
  · rw [Search.isEmpty_iff, hblank]
  · intro session
    rw [session.update_cleared_iff, hblank]

end VaultQuery
