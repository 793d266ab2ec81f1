import VaultQuery.Proofs.Grammar.Theorems

namespace VaultQuery.Query.Grammar

-- Some of the ANDs are left out. All other tokens stay, at the positions they had.
inductive OmitsAnds : List Token → List Token → Prop where
  | nil : OmitsAnds [] []
  | keep {tokens kept : List Token} (token : Token) (h : OmitsAnds tokens kept) :
    OmitsAnds (token :: tokens) (token :: kept)
  | drop {tokens kept : List Token} {token : Token} (hk : token.kind = .and)
    (h : OmitsAnds tokens kept) : OmitsAnds (token :: tokens) kept

namespace State

-- An AND is taken only behind an operand.
theorem exists_behind_of_step_and {state next : State} {token : Token} (hk : token.kind = .and)
    (h : state.step token = .ok next) :
    ∃ conjunction, Behind state.enclosing state.level.alternatives conjunction state := by
  obtain ⟨enclosing, level, expecting⟩ := state
  cases expecting with
  | operand place =>
      simp only [step, stepOperand, hk] at h
      cases h
  | name family start =>
      simp only [step, hk] at h
      cases h
  | value reading colon =>
      simp only [step, Token.isValue, hk] at h
      cases h
  | colon reading => exact ⟨_, .colon level reading rfl rfl⟩
  | connective conjunction => exact ⟨conjunction, .connective level rfl⟩

-- What two readings have come to, the second one of tokens without some of the ANDs. Right behind
-- an AND that was left out, the first one waits for the operand that the second one can do without.
inductive Abreast : State → State → Prop where
  | same (state : State) : Abreast state state
  | ahead {enclosing : List (Level × Nat)} {alternatives : Option (Tree Atom)}
    {conjunction : Tree Atom} {state : State}
    (hb : Behind enclosing alternatives conjunction state) :
    Abreast ⟨enclosing, ⟨alternatives, some conjunction, none⟩, .operand .joined⟩ state

variable {state other next last : State} {token : Token}

-- An AND that is left out puts the first reading ahead.
theorem Abreast.step_dropped (hs : Abreast state other) (hk : token.kind = .and)
    (h : state.step token = .ok next) : Abreast next other := by
  cases hs with
  | same =>
      obtain ⟨conjunction, hb⟩ := exists_behind_of_step_and hk h
      cases h.symm.trans (hb.step_and ⟨token, hk⟩)
      exact .ahead hb
  | ahead hb =>
      simp only [step, stepOperand, hk] at h
      cases h

-- A blank keeps the first reading ahead, and an operand brings the two together, for it joins the
-- conjunction with or without an AND. Nothing else can follow an AND.
theorem Abreast.step_kept (hs : Abreast state other) (h : state.step token = .ok next) :
    ∃ following, other.step token = .ok following ∧ Abreast next following := by
  cases hs with
  | same => exact ⟨next, h, .same next⟩
  | ahead hb =>
      cases hk : token.kind with
      | not | openParen | literal | quoted | family _ =>
          exact ⟨next, (Behind.step_operand hb (by simp [hk, startsOperand])).trans h, .same next⟩
      | blank =>
          obtain ⟨following, hstep, hbehind⟩ := hb.step_blank ⟨token, hk⟩
          simp only [step, stepOperand, hk] at h
          cases h
          exact ⟨following, hstep, .ahead hbehind⟩
      | and | or | closeParen | colon =>
          simp only [step, stepOperand, hk] at h
          cases h

theorem Abreast.run {tokens kept : List Token} (ht : OmitsAnds tokens kept)
    (hs : Abreast state other) (h : run state tokens = .ok last) :
    ∃ ending, Grammar.run other kept = .ok ending ∧ Abreast last ending := by
  induction ht generalizing state other with
  | nil =>
      cases h
      exact ⟨other, rfl, hs⟩
  | keep token _ ih =>
      rw [Grammar.run, List.foldlM_cons, bind_eq_ok] at h
      obtain ⟨next, hstep, hrest⟩ := h
      obtain ⟨following, hfollowing, hnext⟩ := hs.step_kept hstep
      rw [run_cons hfollowing]
      exact ih hnext hrest
  | drop hk _ ih =>
      rw [Grammar.run, List.foldlM_cons, bind_eq_ok] at h
      obtain ⟨next, hstep, hrest⟩ := h
      exact ih (hs.step_dropped hk hstep) hrest

-- No query ends with an AND, so in the end neither reading is ahead.
theorem Abreast.finish_eq (hs : Abreast state other) {length : Nat} {tree : Tree Atom}
    (h : state.finish length = .ok tree) : other.finish length = .ok tree := by
  cases hs with
  | same => exact h
  | ahead hb => cases h

end State

-- Tokens that can be read are read to the same tree without any choice of their ANDs. The length of
-- the text they come from makes no difference.
theorem read_of_omitsAnds {tokens kept : List Token} (ht : OmitsAnds tokens kept)
    {length : Nat} {tree : Tree Atom} (h : read tokens length = .ok tree) (other : Nat) :
    read kept other = .ok tree := by
  have hkept : read kept length = .ok tree := by
    rw [read, bind_eq_ok] at h ⊢
    obtain ⟨last, hrun, hfinish⟩ := h
    obtain ⟨ending, hending, hlast⟩ := (State.Abreast.same .initial).run ht hrun
    exact ⟨ending, hending, hlast.finish_eq hfinish⟩
  exact (read_eq_ok_iff kept other tree).mpr ((read_eq_ok_iff kept length tree).mp hkept)

-- The AND in the parentheses is left out, the one before them is written.
theorem read_of_omitsAnds_nested :
    let front : List Token := [⟨.literal, "a", 0⟩, ⟨.blank, " ", 1⟩, ⟨.and, "AND", 2⟩,
      ⟨.blank, " ", 5⟩, ⟨.openParen, "(", 6⟩, ⟨.quoted, "\"b\"", 7⟩, ⟨.blank, " ", 10⟩]
    let connective : Token := ⟨.and, "AND", 11⟩
    let back : List Token := [⟨.blank, " ", 14⟩, ⟨.not, "NOT", 15⟩, ⟨.blank, " ", 18⟩,
      ⟨.literal, "c", 19⟩, ⟨.closeParen, ")", 20⟩]
    let tree : Tree Atom := .and ⟨0, 21⟩ (.leaf ⟨0, 1⟩ (.values ⟨"a", false⟩ []))
      (.parens ⟨6, 21⟩ (.and ⟨7, 20⟩ (.leaf ⟨7, 10⟩ (.values ⟨"b", true⟩ []))
        (.not ⟨15, 20⟩ (.leaf ⟨19, 20⟩ (.values ⟨"c", false⟩ [])))))
    tokenize "a AND (\"b\" AND NOT c)" = front ++ connective :: back ∧
      OmitsAnds (front ++ connective :: back) (front ++ back) ∧
      read (front ++ connective :: back) 21 = .ok tree ∧ read (front ++ back) 21 = .ok tree := by
  intro front connective back tree
  have ht : OmitsAnds (front ++ connective :: back) (front ++ back) := by repeat constructor
  have hread : read (front ++ connective :: back) 21 = .ok tree := rfl
  exact ⟨by decide, ht, hread, read_of_omitsAnds ht hread 21⟩

end VaultQuery.Query.Grammar
