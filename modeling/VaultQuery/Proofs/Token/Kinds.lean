import VaultQuery.Proofs.Token.Cutting

namespace VaultQuery.Query

namespace Token

-- The words of the connectives.
def connectives : List (String × Kind) :=
  [("AND", .and), ("OR", .or), ("NOT", .not)]

-- No blank outside ASCII stands right behind the token in its text.
def EndsPlainlyIn (token : Token) (text : String) : Prop :=
  EndsPlainly (Text.dropBytes token.stop text.toList)

instance (token : Token) (text : String) : Decidable (token.EndsPlainlyIn text) :=
  inferInstanceAs (Decidable (EndsPlainly _))

-- A token is the first one of the text from its start on.
theorem exists_leading {text : String} {token : Token} (hm : token ∈ tokenize text) :
    ∃ c cs, token.kind = (leading c cs).1 ∧ token.text.toList = (leading c cs).2 ∧
      c :: cs = token.text.toList ++ Text.dropBytes token.stop text.toList := by
  obtain ⟨first, second, hsplit⟩ := List.append_of_mem hm
  obtain ⟨before, after, htext, _, hscan⟩ := exists_parts_of_scan hsplit
  cases after with
  | nil => cases hscan
  | cons c cs =>
      obtain ⟨rest, hparts, hcut⟩ := cut_leading c cs
      rw [scan_eq_cons _ hparts hcut.nonempty, List.cons.injEq] at hscan
      obtain ⟨rfl, _⟩ := hscan
      have hstop : Text.dropBytes (Text.byteLength (before ++ (leading c cs).2))
          (before ++ (leading c cs).2 ++ rest) = rest := Text.dropBytes_append _ _
      refine ⟨c, cs, rfl, String.toList_ofList, ?_⟩
      rw [stop_ofList, Nat.zero_add, ← Text.byteLength_append, String.toList_ofList, htext, hparts,
        ← List.append_assoc, hstop]

-- The kind of the token that a text begins with when nothing else is around it.
def kindAlone : List Char → Kind
  | [] => .literal
  | c :: cs => (leading c cs).1

theorem kind_eq_kindAlone {text : String} {token : Token} (hm : token ∈ tokenize text)
    (ha : token.EndsPlainlyIn text ∨ connective? token.text.toList [] = none) :
    token.kind = kindAlone token.text.toList := by
  obtain ⟨c, cs, hkind, hown, hsplit⟩ := exists_leading hm
  cases ht : token.text.toList with
  | nil =>
      obtain ⟨_, _, hcut⟩ := cut_leading c cs
      exact absurd (hown.symm.trans ht) hcut.nonempty
  | cons d own =>
      rw [ht, List.cons_append, List.cons.injEq] at hsplit
      obtain ⟨rfl, rfl⟩ := hsplit
      rw [ht] at hown ha
      have hlength := congrArg List.length hown
      rw [List.length_cons] at hlength
      rw [hkind, leading_of_append ha (by omega)]
      rfl

theorem connective?_nil_iff (word : String) (kind : Kind) :
    connective? word.toList [] = some kind ↔ (word, kind) ∈ connectives := by
  constructor
  · intro h
    have hword (own : String) (ht : word.toList = own.toList) : word = own :=
      String.toList_inj.mp ht
    simp only [connective?, List.head?_nil, Option.any_none, Bool.false_eq_true, if_false] at h
    split at h
    · cases h
      rw [hword "AND" ‹_›]
      decide
    split at h
    · cases h
      rw [hword "OR" ‹_›]
      decide
    split at h
    · cases h
      rw [hword "NOT" ‹_›]
      decide
    · cases h
  · simp only [connectives, List.mem_cons, List.not_mem_nil, or_false, Prod.mk.injEq]
    rintro (⟨rfl, rfl⟩ | ⟨rfl, rfl⟩ | ⟨rfl, rfl⟩) <;> rfl

-- A token that is a bare word is not cut off inside a run.
theorem not_isBare_of_leading {c : Char} {word rest : List Char}
    (hw : (c :: word).all isBare = true) (hq : c ≠ '"')
    (hl : (leading c (word ++ rest)).2 = c :: word) : ∀ d ∈ rest.head?, isBare d = false := by
  obtain ⟨hc, hword⟩ := List.forall_mem_cons.mp (List.all_eq_true.mp hw)
  have hlength := length_le_ofRun (c :: (word ++ rest).takeWhile isBare)
    ((word ++ rest).dropWhile isBare)
  rw [← leading_bare hc hq, hl, List.takeWhile_append_of_pos hword] at hlength
  simp only [List.length_cons, List.length_append] at hlength
  have hnone : rest.takeWhile isBare = [] := List.length_eq_zero_iff.mp (by omega)
  intro d hd
  obtain ⟨tail, rfl⟩ := List.head?_eq_some_iff.mp hd
  simpa [List.takeWhile_cons] using hnone

theorem leading_eq_connective? {c : Char} {word rest : List Char}
    (hw : (c :: word).all isBare = true) (hq : c ≠ '"')
    (hl : (leading c (word ++ rest)).2 = c :: word) :
    (leading c (word ++ rest)).1 = (connective? (c :: word) rest).getD .literal := by
  have hrun := leading_word hw hq (not_isBare_of_leading hw hq hl)
  rw [hrun] at hl ⊢
  -- A family name would have taken the colon behind it.
  cases hf : family? (c :: word) rest with
  | some family => simp [ofRun, hf] at hl
  | none => simp only [ofRun, hf]

theorem kind_of_connective {text : String} {token : Token} (hm : token ∈ tokenize text)
    {kind : Kind} (hc : (token.text, kind) ∈ connectives) :
    token.kind = if token.EndsPlainlyIn text then kind else .literal := by
  obtain ⟨c, cs, hkind, hown, hsplit⟩ := exists_leading hm
  have hword : ∀ entry ∈ connectives, entry.1.toList.all isBare = true ∧
      entry.1.toList ≠ [] ∧ entry.1.toList.head? ≠ some '"' := by decide
  obtain ⟨hbare, hne, hquote⟩ := hword _ hc
  obtain ⟨d, word, ht⟩ := List.exists_cons_of_ne_nil hne
  rw [ht] at hbare hquote
  rw [ht, List.cons_append, List.cons.injEq] at hsplit
  obtain ⟨rfl, rfl⟩ := hsplit
  rw [hkind, leading_eq_connective? hbare (by simpa using hquote) (hown.symm.trans ht), ← ht,
    connective?_eq, (connective?_nil_iff _ _).mpr hc]
  exact apply_ite (fun found : Option Kind => found.getD .literal) _ _ _

-- A bare word cannot be as long as a closed quote, and no closed quote is shorter.
theorem kind_of_quoted {text : String} {token : Token} (hm : token ∈ tokenize text)
    (hs : Kind.quoted.Shape token.text.toList) : token.kind = .quoted := by
  obtain ⟨c, cs, hkind, hown, hsplit⟩ := exists_leading hm
  obtain ⟨body, ht, hbody⟩ := hs
  rw [ht, List.cons_append, List.cons.injEq, List.append_assoc] at hsplit
  obtain ⟨rfl, rfl⟩ := hsplit
  rw [ht] at hown
  rw [hkind]
  have hclosing := hbody.closing_eq (Text.dropBytes token.stop text.toList)
  rw [List.singleton_append, leading_closed hclosing] at hown ⊢
  split at hown
  · rename_i hl
    rw [if_pos hl]
  · rename_i hl
    rw [List.cons.injEq] at hown
    exact absurd (Nat.le_of_eq (congrArg List.length hown.2.symm)) hl

end Token

open Token

-- Tokens with the same text are of the same kind, in whatever texts they stand, unless they spell
-- a connective and a blank outside ASCII stands behind just one of them. A word of a connective is
-- the connective but in front of such a blank, and a closed quote is always a quoted text.
theorem tokenize_kind (first second : String) :
    (∀ token ∈ tokenize first, ∀ other ∈ tokenize second, token.text = other.text →
      (token.kind = other.kind ↔
        (token.text ∈ connectives.map Prod.fst →
          (token.EndsPlainlyIn first ↔ other.EndsPlainlyIn second)))) ∧
    ∀ token ∈ tokenize first,
      (∀ kind, (token.text, kind) ∈ connectives →
        token.kind = if token.EndsPlainlyIn first then kind else .literal) ∧
      (Kind.quoted.Shape token.text.toList → token.kind = .quoted) := by
  refine ⟨?_, fun token hm => ⟨fun _ => kind_of_connective hm, kind_of_quoted hm⟩⟩
  intro token hm other ho htext
  by_cases hword : token.text ∈ connectives.map Prod.fst
  · obtain ⟨⟨word, kind⟩, hc, hfst⟩ := List.mem_map.mp hword
    obtain rfl : word = token.text := hfst
    have hne : kind ≠ .literal := by
      have hall : ∀ entry ∈ connectives, entry.2 ≠ .literal := by decide
      exact hall _ hc
    rw [kind_of_connective hm hc, kind_of_connective ho (htext ▸ hc)]
    by_cases hf : token.EndsPlainlyIn first <;> by_cases hs : other.EndsPlainlyIn second <;>
      simp [hf, hs, hword, hne, hne.symm]
  · have hnone : connective? token.text.toList [] = none := by
      rw [Option.eq_none_iff_forall_ne_some]
      intro kind hk
      exact hword (List.mem_map.mpr ⟨_, (connective?_nil_iff _ _).mp hk, rfl⟩)
    rw [kind_eq_kindAlone hm (.inr hnone), kind_eq_kindAlone ho (.inr (htext ▸ hnone)), htext]
    simp [← htext, hword]

-- In front of a space the word is a connective, and in front of a no-break space it is not.
theorem kind_depends_on_blank :
    ⟨.and, "AND", 2⟩ ∈ tokenize "a AND b" ∧ ⟨.literal, "AND", 2⟩ ∈ tokenize "a AND\u00a0b" := by
  decide

end VaultQuery.Query
