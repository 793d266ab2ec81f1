import VaultQuery.Proofs.Token.Seams

namespace VaultQuery.Query.Token

-- A run that ends within the first part of a text does not depend on the second.
theorem takeWhile_of_length_le {p : Char → Bool} {cs after : List Char}
    (h : ((cs ++ after).takeWhile p).length ≤ cs.length) :
    (cs ++ after).takeWhile p = cs.takeWhile p := by
  rw [List.takeWhile_append] at h ⊢
  split at h
  · rename_i hall
    have hcs : cs.takeWhile p = cs := (List.takeWhile_prefix p).eq_of_length hall
    have hnone : after.takeWhile p = [] := by
      rw [List.length_append] at h
      exact List.eq_nil_of_length_eq_zero (by omega)
    rw [if_pos hall, hnone, List.append_nil, hcs]
  · rename_i hpart
    rw [if_neg hpart]

theorem dropWhile_of_length_le {p : Char → Bool} {cs after : List Char}
    (h : ((cs ++ after).takeWhile p).length ≤ cs.length) :
    (cs ++ after).dropWhile p = cs.dropWhile p ++ after := by
  have hwhole := List.takeWhile_append_dropWhile (p := p) (l := cs ++ after)
  have hpart := List.takeWhile_append_dropWhile (p := p) (l := cs)
  rw [takeWhile_of_length_le h] at hwhole
  have hboth : cs.takeWhile p ++ (cs ++ after).dropWhile p =
      cs.takeWhile p ++ (cs.dropWhile p ++ after) := by
    rw [hwhole, ← List.append_assoc, hpart]
  exact List.append_cancel_left hboth

theorem Enclosed.closing_eq {body : List Char} (h : Enclosed body) (after : List Char) :
    closing (body ++ '"' :: after) = some (body ++ ['"']) := by
  induction h with
  | nil => simp [closing]
  | @plain c cs hq hb _ ih =>
      rw [List.cons_append, closing.eq_4 _ _ hq (fun _ _ hc _ => hb hc), ih]
      rfl
  | pair hn _ ih => simp [closing, hn, ih]

-- A quote that is closed within the first part of a text is closed there without the second.
theorem closing_of_append {cs after tail : List Char} (h : closing (cs ++ after) = some tail)
    (hl : tail.length ≤ cs.length) : closing cs = some tail := by
  obtain ⟨body, rfl, hbody⟩ := enclosed_of_closing h
  have hprefix : body ++ ['"'] <+: cs ++ after := ⟨_, closing_append h⟩
  obtain ⟨more, rfl⟩ := List.prefix_of_prefix_length_le hprefix (List.prefix_append _ _) hl
  rw [List.append_assoc]
  exact hbody.closing_eq more

theorem closing_append_eq_none {cs after : List Char} (h : closing (cs ++ after) = none) :
    closing cs = none := by
  cases hc : closing cs with
  | none => rfl
  | some tail =>
      rw [closing_append_of_some hc after] at h
      cases h

-- In front of such a text a connective is a connective.
def EndsPlainly (after : List Char) : Prop :=
  ∀ c ∈ after.head?, Text.isBlank c = true → Text.isAscii c = true

instance (after : List Char) : Decidable (EndsPlainly after) :=
  inferInstanceAs (Decidable (∀ c ∈ after.head?, Text.isBlank c = true → Text.isAscii c = true))

theorem length_le_ofRun (run after : List Char) : run.length ≤ (ofRun run after).2.length := by
  unfold ofRun
  split
  · simp
  · exact Nat.le_refl _

theorem connective?_eq (word after : List Char) :
    connective? word after = if EndsPlainly after then connective? word [] else none := by
  cases after with
  | nil =>
      rw [if_pos]
      simp [EndsPlainly]
  | cons c after =>
      have hplain : EndsPlainly (c :: after) ↔ (Text.isBlank c && !Text.isAscii c) = false := by
        simp [EndsPlainly]
      split
      · rename_i ha
        simp [connective?, hplain.mp ha]
      · rename_i ha
        simp [connective?, mt hplain.mpr ha]

theorem ofRun_of_append {run rest after : List Char}
    (ha : EndsPlainly after ∨ connective? (run ++ rest) [] = none)
    (hl : (ofRun run (rest ++ after)).2.length ≤ run.length + rest.length) :
    ofRun run (rest ++ after) = ofRun run rest := by
  cases rest with
  | cons c rest => rfl
  | nil =>
      -- The run ends where the text is cut, so it was no family name in front of a colon.
      have hfamily : family? run after = none := by
        cases hf : family? run after with
        | none => rfl
        | some family =>
            simp only [List.nil_append, ofRun, hf, List.length_append, List.length_singleton,
              List.length_nil] at hl
            omega
      have hconnective : connective? run after = connective? run [] := by
        rw [connective?_eq]
        rcases ha with ha | hnone
        · rw [if_pos ha]
        · rw [List.append_nil] at hnone
          rw [hnone, ite_self]
      have hnone : family? run [] = none := rfl
      simp only [ofRun, List.nil_append, hfamily, hnone, hconnective]

-- The first token depends on nothing behind it but a character that ends it, and a connective on
-- which blank that is.
theorem leading_of_append {c : Char} {cs after : List Char}
    (ha : EndsPlainly after ∨ connective? (c :: cs) [] = none)
    (hl : (leading c (cs ++ after)).2.length ≤ cs.length + 1) :
    leading c (cs ++ after) = leading c cs := by
  by_cases hblank : Text.isBlank c = true
  · simp only [leading, hblank, if_true] at hl ⊢
    rw [takeWhile_of_length_le (by simpa using hl)]
  by_cases ho : c = '('
  · subst ho
    rfl
  by_cases hcl : c = ')'
  · subst hcl
    rfl
  by_cases hn : c = ':'
  · subst hn
    rfl
  have hbare : isBare c = true := (isBare_iff c).mpr ⟨by simpa using hblank, ho, hcl, hn⟩
  by_cases hq : c = '"'
  · subst hq
    cases hc : closing (cs ++ after) with
    | none =>
        rw [leading_unclosed hc] at hl ⊢
        rw [leading_unclosed (closing_append_eq_none hc),
          takeWhile_of_length_le (by simpa using hl)]
    | some tail =>
        rw [leading_closed hc] at hl ⊢
        split at hl
        · rename_i hquoted
          have htail : tail.length ≤ cs.length := by simpa using hl
          have hrun := takeWhile_of_length_le (Nat.le_trans hquoted htail)
          rw [leading_closed (closing_of_append hc htail), hrun]
        · rename_i hliteral
          have hlength : ((cs ++ after).takeWhile isBare).length ≤ cs.length := by simpa using hl
          have htail : tail.length ≤ cs.length := by omega
          rw [leading_closed (closing_of_append hc htail), takeWhile_of_length_le hlength]
  · rw [leading_bare hbare hq] at hl ⊢
    have hlength : ((cs ++ after).takeWhile isBare).length ≤ cs.length := by
      have hrun := length_le_ofRun (c :: (cs ++ after).takeWhile isBare)
        ((cs ++ after).dropWhile isBare)
      rw [List.length_cons] at hrun
      omega
    have hsplit := congrArg List.length (List.takeWhile_append_dropWhile (p := isBare) (l := cs))
    rw [List.length_append] at hsplit
    rw [takeWhile_of_length_le hlength, dropWhile_of_length_le hlength] at hl ⊢
    rw [leading_bare hbare hq]
    apply ofRun_of_append
    · rwa [List.cons_append, List.takeWhile_append_dropWhile]
    · rw [List.length_cons]
      omega

-- Tokens split where the text does.
theorem exists_parts_of_scan {offset : Nat} {cs : List Char} {first second : List Token}
    (h : scan offset 0 cs = first ++ second) :
    ∃ before after, cs = before ++ after ∧ first.flatMap (fun token => token.text.toList) = before ∧
      scan (offset + Text.byteLength before) 0 after = second := by
  induction first generalizing offset cs with
  | nil => exact ⟨[], cs, rfl, rfl, h⟩
  | cons token first ih =>
      cases cs with
      | nil => cases h
      | cons c cs =>
          obtain ⟨rest, hsplit, hcut⟩ := cut_leading c cs
          rw [scan_eq_cons offset hsplit hcut.nonempty, List.cons_append, List.cons.injEq] at h
          obtain ⟨rfl, hrest⟩ := h
          obtain ⟨before, after, rfl, hbefore, hafter⟩ := ih hrest
          refine ⟨(leading c cs).2 ++ before, after, ?_, ?_, ?_⟩
          · rw [hsplit, List.append_assoc]
          · rw [List.flatMap_cons, hbefore, String.toList_ofList]
          · rw [Text.byteLength_append, ← Nat.add_assoc]
            exact hafter

-- The tokens that cover the first part of a text are the tokens of that part.
theorem scan_of_append {offset : Nat} {cs after : List Char} {first second : List Token}
    (ha : EndsPlainly after) (h : scan offset 0 (cs ++ after) = first ++ second)
    (hf : first.flatMap (fun token => token.text.toList) = cs) : scan offset 0 cs = first := by
  induction first generalizing offset cs with
  | nil =>
      subst hf
      rfl
  | cons token first ih =>
      rw [List.flatMap_cons] at hf
      cases cs with
      | nil =>
          exfalso
          have hempty := (List.append_eq_nil_iff.mp hf).1
          cases after with
          | nil => cases h
          | cons d ds =>
              obtain ⟨rest, hsplit, hcut⟩ := cut_leading d ds
              rw [List.nil_append, scan_eq_cons offset hsplit hcut.nonempty, List.cons_append,
                List.cons.injEq] at h
              obtain ⟨rfl, _⟩ := h
              exact hcut.nonempty (by simpa using hempty)
      | cons c cs =>
          obtain ⟨rest, hsplit, hcut⟩ := cut_leading c (cs ++ after)
          rw [List.cons_append, scan_eq_cons offset hsplit hcut.nonempty, List.cons_append,
            List.cons.injEq] at h
          obtain ⟨rfl, hrest⟩ := h
          rw [String.toList_ofList] at hf
          have hlength := congrArg List.length hf
          rw [List.length_append, List.length_cons] at hlength
          have hsame : leading c (cs ++ after) = leading c cs :=
            leading_of_append (.inl ha) (by omega)
          have hbehind : rest =
              first.flatMap (fun token => token.text.toList) ++ after := by
            have hboth : (leading c (cs ++ after)).2 ++ rest = (leading c (cs ++ after)).2 ++
                (first.flatMap (fun token => token.text.toList) ++ after) := by
              rw [← hsplit, ← List.append_assoc, hf]
              rfl
            exact List.append_cancel_left hboth
          rw [hbehind] at hrest
          have hfirst := ih hrest rfl
          rw [hsame] at hf hcut hfirst
          rw [scan_eq_cons offset hf.symm hcut.nonempty, hfirst, hsame]

theorem endsPlainly_of_scan {offset : Nat} {after : List Char}
    (h : ∀ token ∈ scan offset 0 after, token.kind = .blank →
      ∀ c ∈ token.text.toList, Text.isAscii c = true) : EndsPlainly after := by
  intro c hc hb
  obtain ⟨cs, rfl⟩ := List.head?_eq_some_iff.mp hc
  obtain ⟨rest, hsplit, hcut⟩ := cut_leading c cs
  rw [scan_eq_cons offset hsplit hcut.nonempty] at h
  have hfirst := (List.forall_mem_cons.mp h).1
  simp only [leading, hb, if_true, String.toList_ofList] at hfirst
  exact hfirst trivial c List.mem_cons_self

-- A token that is not blank has a blank at neither end.
theorem Kind.Shape.not_blank {kind : Kind} {text : List Char} (h : kind.Shape text)
    (hk : kind ≠ .blank) :
    (∀ c ∈ text.head?, Text.isBlank c = false) ∧
      ∀ c ∈ text.getLast?, Text.isBlank c = false := by
  have hquote : Text.isBlank '"' = false := by decide
  have hends : (text.all fun c => !Text.isBlank c) = true →
      (∀ c ∈ text.head?, Text.isBlank c = false) ∧
        ∀ c ∈ text.getLast?, Text.isBlank c = false := by
    intro hall
    simp only [List.all_eq_true, Bool.not_eq_true'] at hall
    exact ⟨fun c hc => hall c (List.mem_of_mem_head? hc),
      fun c hc => hall c (List.mem_of_getLast? hc)⟩
  cases kind with
  | blank => exact absurd rfl hk
  | literal =>
      apply hends
      rw [List.all_eq_true]
      intro c hc
      have hd := h c hc
      rw [Delimits, not_or] at hd
      simpa using hd.1
  | quoted =>
      obtain ⟨body, rfl, _⟩ := h
      rw [← List.cons_append, List.getLast?_concat]
      simp [hquote]
  | and | or | not | openParen | closeParen | colon =>
      cases h
      exact hends rfl
  | family family =>
      cases family <;>
      · cases h
        exact hends rfl

end VaultQuery.Query.Token
