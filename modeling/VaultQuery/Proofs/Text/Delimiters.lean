import VaultQuery.Proofs.Lists
import VaultQuery.Proofs.Text.Lowercase

namespace VaultQuery.Text

section Marks

-- A character that is in lowercase and is not the lowercase form of any other character.
structure IsMark (c : Char) : Prop where
  lowered : IsLowered c
  pos : 0 < c.toNat
  below : c.toNat < 'a'.toNat

instance (c : Char) : Decidable (IsMark c) :=
  decidable_of_iff (IsLowered c ∧ 0 < c.toNat ∧ c.toNat < 'a'.toNat)
    ⟨fun ⟨hl, hp, hb⟩ => ⟨hl, hp, hb⟩, fun ⟨hl, hp, hb⟩ => ⟨hl, hp, hb⟩⟩

-- Every letter with another lowercase form has a letter for it.
theorem le_image : ∀ shift ∈ lowerShifts, 'a'.toNat ≤ shift.image := by
  decide +kernel

theorem IsMark.eq_of_lowerChar {c d : Char} (hd : IsMark d) (h : lowerChar c = d) : d = c := by
  by_contra hne
  have hmoved : CodeShift.applyAll lowerShifts c ≠ c := by
    intro he
    exact hne (h.symm.trans he)
  obtain ⟨shift, hs, _, himage⟩ := CodeShift.exists_of_applyAll_ne hmoved
  have hd' : d = Char.ofNat (shift.image + (c.toNat - shift.first)) := h.symm.trans himage
  have hlow := le_image shift hs
  have hbelow := hd.below
  have hpos := hd.pos
  by_cases hvalid : (shift.image + (c.toNat - shift.first)).isValidChar
  · have hcode : d.toNat = shift.image + (c.toNat - shift.first) := by
      rw [hd', Char.ofNat, dif_pos hvalid]
      rfl
    omega
  · rw [hd', Char.ofNat, dif_neg hvalid] at hpos
    exact absurd hpos (by decide)

theorem IsMark.eq_of_mem_lowerAt {before after : List Char} {c d : Char} (hd : IsMark d)
    (h : d ∈ lowerAt before c after) : d = c := by
  unfold lowerAt at h
  split at h
  · have hbelow := hd.below
    rw [List.mem_singleton.mp h] at hbelow
    split at hbelow <;> exact absurd hbelow (by decide)
  · split at h
    · rw [List.mem_cons, List.mem_singleton] at h
      rcases h with rfl | rfl <;> exact absurd hd (by decide)
    · exact hd.eq_of_lowerChar (List.mem_singleton.mp h).symm

theorem IsMark.mem_lowerFrom {c : Char} (hc : IsMark c) {before cs : List Char}
    (h : c ∈ lowerFrom before cs) : c ∈ cs := by
  induction cs generalizing before with
  | nil => exact absurd h List.not_mem_nil
  | cons first cs ih =>
      rcases List.mem_append.mp h with hfirst | hrest
      · exact List.mem_cons.mpr (.inl (hc.eq_of_mem_lowerAt hfirst))
      · exact List.mem_cons_of_mem _ (ih hrest)

-- A text begins with the same marks as its lowercase form.
theorem prefix_lowerFrom_iff {marks : List Char} (h : ∀ c ∈ marks, IsMark c)
    (before cs : List Char) : marks <+: lowerFrom before cs ↔ marks <+: cs := by
  induction marks generalizing before cs with
  | nil => simp
  | cons mark marks ih =>
      obtain ⟨hmark, hmarks⟩ := List.forall_mem_cons.mp h
      cases cs with
      | nil => rfl
      | cons c cs =>
          rw [lowerFrom, List.cons_prefix_cons]
          by_cases hc : mark = c
          · subst hc
            rw [hmark.lowered.lowerAt_eq, List.singleton_append, List.cons_prefix_cons, ih hmarks]
          · obtain ⟨d, rest, hd⟩ := List.exists_cons_of_ne_nil (lowerAt_ne_nil before c cs)
            have hne : mark ≠ d := by
              rintro rfl
              exact hc (hmark.eq_of_mem_lowerAt (hd ▸ List.mem_cons_self))
            rw [hd, List.cons_append, List.cons_prefix_cons]
            simp [hc, hne]

end Marks

section Delimiters

-- A mark that ends a word. A letter on one side of it has nothing to do with the other side.
structure IsDelimiter (c : Char) : Prop extends IsMark c where
  uncased : isCased c = false
  breaks : isCaseIgnorable c = false

instance (c : Char) : Decidable (IsDelimiter c) :=
  decidable_of_iff (IsMark c ∧ isCased c = false ∧ isCaseIgnorable c = false)
    ⟨fun ⟨hm, hu, hb⟩ => ⟨hm, hu, hb⟩, fun h => ⟨h.toIsMark, h.uncased, h.breaks⟩⟩

theorem IsDelimiter.meetsLetter_append {c : Char} (h : IsDelimiter c) (cs rest : List Char) :
    meetsLetter (cs ++ c :: rest) = meetsLetter cs := by
  by_cases hall : ∀ d ∈ cs, isCaseIgnorable d = true
  · have halone := meetsLetter_append_of_ignorable hall []
    rw [List.append_nil] at halone
    rw [meetsLetter_append_of_ignorable hall, halone]
    simp [meetsLetter, h.breaks, h.uncased]
  · rw [meetsLetter_append_of_exists hall]

-- A part reads behind a delimiter as it does at the beginning of a text.
theorem IsDelimiter.lowerBetween_cons_before {c : Char} (h : IsDelimiter c)
    (before part after : List Char) :
    lowerBetween (c :: before) part after = lowerBetween [] part after := by
  rw [lowerBetween_eq_iff]
  intro left right _
  rw [isFinal, isFinal, h.meetsLetter_append, List.append_nil]

-- A part reads before a delimiter as it does at the end of a text.
theorem IsDelimiter.lowerBetween_cons_after {c : Char} (h : IsDelimiter c)
    (before part after : List Char) :
    lowerBetween before part (c :: after) = lowerBetween before part [] := by
  rw [lowerBetween_eq_iff]
  intro left right _
  rw [isFinal, isFinal, h.meetsLetter_append, List.append_nil]

theorem IsDelimiter.lowerFrom_cons {c : Char} (h : IsDelimiter c) (before cs : List Char) :
    lowerFrom (c :: before) cs = lowerList cs := by
  rw [lowerFrom_eq, lowerList_eq, h.lowerBetween_cons_before]

theorem IsDelimiter.lowerList_append {c : Char} (h : IsDelimiter c) (left right : List Char) :
    lowerList (left ++ c :: right) = lowerList left ++ c :: lowerList right := by
  rw [lowerList_eq, lowerBetween_append, List.append_nil, List.append_nil, lowerBetween,
    h.lowered.lowerAt_eq, h.lowerBetween_cons_before, h.lowerBetween_cons_after, lowerList_eq,
    lowerList_eq, List.singleton_append]

variable {test : Char → Bool}

theorem forall_mem_lowerList (h : ∀ c, test c = false → IsDelimiter c) {cs : List Char}
    (hall : ∀ c ∈ cs, test c = true) : ∀ c ∈ lowerList cs, test c = true := by
  intro c hc
  rw [← Bool.not_eq_false]
  intro hf
  have hm := hall c ((h c hf).mem_lowerFrom hc)
  rw [hf] at hm
  cases hm

-- The part of a text before its first delimiter.
theorem takeWhile_lowerList (h : ∀ c, test c = false → IsDelimiter c) (cs : List Char) :
    (lowerList cs).takeWhile test = lowerList (cs.takeWhile test) := by
  rcases forall_or_exists_first test cs with hall | ⟨left, c, right, rfl, hleft, hc⟩
  · rw [List.takeWhile_eq_self_iff.mpr hall,
      List.takeWhile_eq_self_iff.mpr (forall_mem_lowerList h hall)]
  · rw [(h c hc).lowerList_append, takeWhile_append_cons hc, takeWhile_append_cons hc,
      List.takeWhile_eq_self_iff.mpr hleft,
      List.takeWhile_eq_self_iff.mpr (forall_mem_lowerList h hleft)]

-- The part of a text behind its last delimiter.
theorem rtakeWhile_lowerList (h : ∀ c, test c = false → IsDelimiter c) (cs : List Char) :
    (lowerList cs).rtakeWhile test = lowerList (cs.rtakeWhile test) := by
  rcases forall_or_exists_last test cs with hall | ⟨left, c, right, rfl, hright, hc⟩
  · rw [List.rtakeWhile_eq_self_iff.mpr hall,
      List.rtakeWhile_eq_self_iff.mpr (forall_mem_lowerList h hall)]
  · rw [(h c hc).lowerList_append, rtakeWhile_append_cons hc, rtakeWhile_append_cons hc,
      List.rtakeWhile_eq_self_iff.mpr hright,
      List.rtakeWhile_eq_self_iff.mpr (forall_mem_lowerList h hright)]

end Delimiters

end VaultQuery.Text
