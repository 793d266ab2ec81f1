import Mathlib.Data.List.TakeWhile
import VaultQuery.Proofs.Filter.Spelling

namespace VaultQuery.Query.Token

-- What stands between two quotes: pairs of a backslash and any character but a line feed, and
-- characters that are neither a backslash nor a quote. So every quote in it is escaped.
inductive Enclosed : List Char → Prop where
  | nil : Enclosed []
  | plain {c : Char} {cs : List Char} (hq : c ≠ '"') (hb : c ≠ '\\') (h : Enclosed cs) :
    Enclosed (c :: cs)
  | pair {c : Char} {cs : List Char} (hn : c ≠ '\n') (h : Enclosed cs) :
    Enclosed ('\\' :: c :: cs)

-- A blank, a parenthesis or a colon.
def Delimits (c : Char) : Prop :=
  Text.isBlank c = true ∨ c = '(' ∨ c = ')' ∨ c = ':'

instance (c : Char) : Decidable (Delimits c) :=
  inferInstanceAs (Decidable (_ ∨ _))

-- What the text of a token of each kind looks like.
def Kind.Shape (text : List Char) : Kind → Prop
  | .blank => ∀ c ∈ text, Text.isBlank c = true
  | .literal => ∀ c ∈ text, ¬Delimits c
  | .quoted => ∃ body, text = '"' :: (body ++ ['"']) ∧ Enclosed body
  | .and => text = ['A', 'N', 'D']
  | .or => text = ['O', 'R']
  | .not => text = ['N', 'O', 'T']
  | .openParen => text = ['(']
  | .closeParen => text = [')']
  | .colon => text = [':']
  | .family .has => text = ['h', 'a', 's', ':']
  | .family .inside => text = ['i', 'n', ':']
  | .family .is => text = ['i', 's', ':']

-- Which kinds of tokens stand right behind a token. A run of blanks and a bare word are as long as
-- they can be.
def Kind.Precedes : Kind → Kind → Prop
  | .blank, next => next ≠ .blank
  | .literal, next => next = .blank ∨ next = .openParen ∨ next = .closeParen ∨ next = .colon
  | _, _ => True

-- The same for the text behind a token.
def Kind.EndsBefore (rest : List Char) : Kind → Prop
  | .blank => ∀ c ∈ rest.head?, Text.isBlank c = false
  | .literal => ∀ c ∈ rest.head?, Delimits c
  | _ => True

theorem isBare_eq_false_iff (c : Char) : isBare c = false ↔ Delimits c := by
  rw [Bool.eq_false_iff, Ne, isBare_iff, Delimits]
  cases Text.isBlank c <;> simp [Classical.or_iff_not_imp_left]

theorem isBare_iff_not_delimits (c : Char) : isBare c = true ↔ ¬Delimits c := by
  rw [← isBare_eq_false_iff, Bool.not_eq_false]

theorem head_dropWhile {p : Char → Bool} (cs : List Char) :
    ∀ c ∈ (cs.dropWhile p).head?, p c = false := by
  intro c hc
  have h := List.head?_dropWhile_not p cs
  rw [hc] at h
  simpa using h

-- The quote that closes a text is the first one that is not escaped.
theorem enclosed_of_closing {cs tail : List Char} (h : closing cs = some tail) :
    ∃ body, tail = body ++ ['"'] ∧ Enclosed body := by
  fun_induction closing cs generalizing tail with
  | case1 => simp at h
  | case2 cs =>
      obtain rfl : ['"'] = tail := by simpa using h
      exact ⟨[], rfl, .nil⟩
  | case3 => simp at h
  | case4 c cs hc ih =>
      obtain ⟨inner, hi, rfl⟩ := Option.map_eq_some_iff.mp h
      obtain ⟨body, rfl, hb⟩ := ih hi
      exact ⟨'\\' :: c :: body, rfl, .pair hc hb⟩
  | case5 c cs hq hb ih =>
      obtain ⟨inner, hi, rfl⟩ := Option.map_eq_some_iff.mp h
      obtain ⟨body, rfl, he⟩ := ih hi
      refine ⟨c :: body, rfl, .plain hq ?_ he⟩
      -- A backslash with nothing behind it would leave the text open.
      rintro rfl
      cases cs with
      | nil => simp [closing] at hi
      | cons d ds => exact hb d ds rfl rfl

theorem connective?_shape {word after : List Char} {kind : Kind}
    (h : connective? word after = some kind) : kind.Shape word ∧ kind.EndsBefore after := by
  unfold connective? at h
  split at h
  · cases h
  split at h
  · cases h
    exact ⟨‹_›, trivial⟩
  split at h
  · cases h
    exact ⟨‹_›, trivial⟩
  split at h
  · cases h
    exact ⟨‹_›, trivial⟩
  · cases h

theorem family?_shape {word after : List Char} {family : Family}
    (h : family? word after = some family) :
    after.head? = some ':' ∧ (Kind.family family).Shape (word ++ [':']) := by
  unfold family? at h
  split at h
  · rename_i hcolon
    refine ⟨hcolon, ?_⟩
    split at h
    · cases h
      subst word
      rfl
    split at h
    · cases h
      subst word
      rfl
    split at h
    · cases h
      subst word
      rfl
    · cases h
  · cases h

-- A token of a kind that has been cut off the front of a text.
structure Cut (kind : Kind) (text rest : List Char) : Prop where
  nonempty : text ≠ []
  shape : kind.Shape text
  ends : kind.EndsBefore rest

theorem cut_literal {run after : List Char} (hne : run ≠ []) (hrun : ∀ c ∈ run, isBare c = true)
    (ha : ∀ c ∈ after.head?, isBare c = false) : Cut .literal run after := by
  refine ⟨hne, ?_, ?_⟩
  · intro c hr
    exact (isBare_iff_not_delimits c).mp (hrun c hr)
  · intro c hr
    exact (isBare_eq_false_iff c).mp (ha c hr)

theorem cut_ofRun {run after : List Char} (hne : run ≠ []) (hrun : ∀ c ∈ run, isBare c = true)
    (ha : ∀ c ∈ after.head?, isBare c = false) :
    ∃ rest, run ++ after = (ofRun run after).2 ++ rest ∧
      Cut (ofRun run after).1 (ofRun run after).2 rest := by
  cases hf : family? run after with
  | some family =>
      obtain ⟨hcolon, hs⟩ := family?_shape hf
      obtain ⟨rest, rfl⟩ := List.head?_eq_some_iff.mp hcolon
      simp only [ofRun, hf]
      exact ⟨rest, by simp, by simp, hs, trivial⟩
  | none =>
      cases hc : connective? run after with
      | some kind =>
          obtain ⟨hs, he⟩ := connective?_shape hc
          simp only [ofRun, hf, hc]
          exact ⟨after, rfl, hne, hs, he⟩
      | none =>
          simp only [ofRun, hf, hc]
          exact ⟨after, rfl, cut_literal hne hrun ha⟩

theorem leading_bare {c : Char} (h : isBare c = true) (hq : c ≠ '"') (cs : List Char) :
    leading c cs = ofRun (c :: cs.takeWhile isBare) (cs.dropWhile isBare) := by
  obtain ⟨hb, ho, hc, hn⟩ := (isBare_iff c).mp h
  simp only [leading, hb, ho, hc, hn, hq, Bool.false_eq_true, if_false]

theorem forall_mem_run {p : Char → Bool} {c : Char} (h : p c = true) (cs : List Char) :
    ∀ d ∈ c :: cs.takeWhile p, p d = true := by
  intro d hd
  rcases List.mem_cons.mp hd with rfl | hd
  · exact h
  · exact List.mem_takeWhile_imp hd

-- The first token of a text is cut off its front.
theorem cut_leading (c : Char) (cs : List Char) :
    ∃ rest, c :: cs = (leading c cs).2 ++ rest ∧ Cut (leading c cs).1 (leading c cs).2 rest := by
  by_cases hblank : Text.isBlank c = true
  · rw [leading, if_pos hblank]
    exact ⟨cs.dropWhile Text.isBlank, by simp, by simp, forall_mem_run hblank cs,
      head_dropWhile cs⟩
  by_cases ho : c = '('
  · subst ho
    exact ⟨cs, rfl, by simp [leading, hblank], rfl, trivial⟩
  by_cases hcl : c = ')'
  · subst hcl
    exact ⟨cs, rfl, by simp [leading, hblank], rfl, trivial⟩
  by_cases hn : c = ':'
  · subst hn
    exact ⟨cs, rfl, by simp [leading, hblank], rfl, trivial⟩
  -- All else starts with the longest bare run.
  have hbare : isBare c = true := (isBare_iff c).mpr ⟨by simpa using hblank, ho, hcl, hn⟩
  have hrun := forall_mem_run hbare cs
  have hsplit : c :: cs = (c :: cs.takeWhile isBare) ++ cs.dropWhile isBare := by simp
  have hword := cut_literal (List.cons_ne_nil c _) hrun (head_dropWhile cs)
  by_cases hq : c = '"'
  · subst hq
    cases hclose : closing cs with
    | none =>
        rw [leading_unclosed hclose]
        exact ⟨cs.dropWhile isBare, hsplit, hword⟩
    | some tail =>
        rw [leading_closed hclose]
        split
        · obtain ⟨body, rfl, hb⟩ := enclosed_of_closing hclose
          have hcs := closing_append hclose
          exact ⟨cs.drop (body ++ ['"']).length, by rw [List.cons_append, hcs], by simp,
            ⟨body, rfl, hb⟩, trivial⟩
        · exact ⟨cs.dropWhile isBare, hsplit, hword⟩
  · rw [leading_bare hbare hq, hsplit]
    exact cut_ofRun (List.cons_ne_nil c _) hrun (head_dropWhile cs)

end VaultQuery.Query.Token
