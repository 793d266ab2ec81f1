import Mathlib.Data.List.Basic
import VaultQuery.Text.Blank
import VaultQuery.Text.Case

namespace VaultQuery.Text

section Letters

theorem meetsLetter_append_of_ignorable {cs : List Char}
    (h : ∀ c ∈ cs, isCaseIgnorable c = true) (after : List Char) :
    meetsLetter (cs ++ after) = meetsLetter after := by
  have hnone : cs.find? (!isCaseIgnorable ·) = none := by
    rw [List.find?_eq_none]
    intro c hc
    simp [h c hc]
  rw [meetsLetter, List.find?_append, hnone, Option.none_or, meetsLetter]

theorem meetsLetter_append_of_exists {cs : List Char}
    (h : ¬∀ c ∈ cs, isCaseIgnorable c = true) (after : List Char) :
    meetsLetter (cs ++ after) = meetsLetter cs := by
  have hsome : (cs.find? (!isCaseIgnorable ·)).isSome = true := by
    rw [List.find?_isSome]
    simpa using h
  rw [meetsLetter, List.find?_append, Option.or_of_isSome hsome, meetsLetter]

end Letters

section Parts

-- Whether a capital sigma between the text before it, read backwards, and the text after it ends
-- a word.
def isFinal (before after : List Char) : Bool :=
  meetsLetter before && !meetsLetter after

-- The lowercase form of a part between the text before it, read backwards, and the text after it.
def lowerBetween : List Char → List Char → List Char → List Char
  | _, [], _ => []
  | before, c :: part, after =>
    lowerAt before c (part ++ after) ++ lowerBetween (c :: before) part after

theorem lowerAt_sigma (before after : List Char) :
    lowerAt before 'Σ' after = [if isFinal before after then 'ς' else 'σ'] := rfl

theorem lowerAt_congr {c : Char} (hc : c ≠ 'Σ') (before after before' after' : List Char) :
    lowerAt before c after = lowerAt before' c after' := by
  simp only [lowerAt, if_neg hc]

theorem length_lowerAt (c : Char) (before after before' after' : List Char) :
    (lowerAt before c after).length = (lowerAt before' c after').length := by
  by_cases hc : c = 'Σ'
  · subst hc
    rfl
  · rw [lowerAt_congr hc before after before' after']

theorem lowerAt_ne_nil (before : List Char) (c : Char) (after : List Char) :
    lowerAt before c after ≠ [] := by
  unfold lowerAt
  split
  · simp
  · split <;> simp

theorem length_lowerBetween (part before after before' after' : List Char) :
    (lowerBetween before part after).length = (lowerBetween before' part after').length := by
  induction part generalizing before before' with
  | nil => rfl
  | cons c part ih =>
      simp only [lowerBetween, List.length_append, ih (c :: before) (c :: before'),
        length_lowerAt c before (part ++ after) before' (part ++ after')]

theorem lowerBetween_append (before first second after : List Char) :
    lowerBetween before (first ++ second) after =
      lowerBetween before first (second ++ after) ++
        lowerBetween (first.reverse ++ before) second after := by
  induction first generalizing before with
  | nil => rfl
  | cons c first ih =>
      simp only [List.cons_append, lowerBetween, ih, List.append_assoc, List.reverse_cons,
        List.nil_append]

theorem lowerFrom_eq (before cs : List Char) : lowerFrom before cs = lowerBetween before cs [] := by
  induction cs generalizing before with
  | nil => rfl
  | cons c cs ih => rw [lowerFrom, lowerBetween, ih, List.append_nil]

theorem lowerList_eq (cs : List Char) : lowerList cs = lowerBetween [] cs [] :=
  lowerFrom_eq [] cs

theorem lowerList_ne_nil {cs : List Char} (h : cs ≠ []) : lowerList cs ≠ [] := by
  obtain ⟨c, rest, rfl⟩ := List.exists_cons_of_ne_nil h
  rw [lowerList, lowerFrom]
  exact List.append_ne_nil_of_left_ne_nil (lowerAt_ne_nil [] c rest) _

theorem lowerList_eq_nil_iff {cs : List Char} : lowerList cs = [] ↔ cs = [] := by
  constructor
  · contrapose!
    exact lowerList_ne_nil
  · rintro rfl
    rfl

-- The lowercase form of a text holds that of each part, as the part reads in the text.
theorem lowerList_append_append (left part right : List Char) :
    lowerList (left ++ (part ++ right)) =
      lowerBetween [] left (part ++ right) ++
        (lowerBetween left.reverse part right ++
          lowerBetween (part.reverse ++ left.reverse) right []) := by
  simp only [lowerList_eq, lowerBetween_append, List.append_nil]

-- A part reads alike in two places if its capital sigmas do.
theorem lowerBetween_eq_iff (part before after before' after' : List Char) :
    lowerBetween before part after = lowerBetween before' part after' ↔
      ∀ left right, part = left ++ 'Σ' :: right →
        isFinal (left.reverse ++ before) (right ++ after) =
          isFinal (left.reverse ++ before') (right ++ after') := by
  constructor
  · rintro h left right rfl
    rw [lowerBetween_append, lowerBetween_append] at h
    have hrest := (List.append_inj h (length_lowerBetween ..)).2
    simp only [lowerBetween, lowerAt_sigma, List.cons_append, List.nil_append] at hrest
    have hform := (List.cons.inj hrest).1
    cases hl : isFinal (left.reverse ++ before) (right ++ after) <;>
      cases hr : isFinal (left.reverse ++ before') (right ++ after') <;>
      simp [hl, hr] at hform ⊢
  · intro h
    induction part generalizing before before' with
    | nil => rfl
    | cons c part ih =>
        have hrest := ih (c :: before) (c :: before') (by
          rintro left right rfl
          simpa using h (c :: left) right rfl)
        by_cases hc : c = 'Σ'
        · subst hc
          have hfirst := h [] part rfl
          simp only [List.reverse_nil, List.nil_append] at hfirst
          simp only [lowerBetween, lowerAt_sigma, hfirst, hrest]
        · rw [lowerBetween, lowerBetween, hrest,
            lowerAt_congr hc before (part ++ after) before' (part ++ after')]

end Parts

section Lowered

-- A character that is in lowercase wherever it stands.
structure IsLowered (c : Char) : Prop where
  fixed : lowerChar c = c
  ne_sigma : c ≠ 'Σ'
  ne_dotted : c ≠ 'İ'

instance (c : Char) : Decidable (IsLowered c) :=
  decidable_of_iff (lowerChar c = c ∧ c ≠ 'Σ' ∧ c ≠ 'İ')
    ⟨fun ⟨h, hs, hd⟩ => ⟨h, hs, hd⟩, fun ⟨h, hs, hd⟩ => ⟨h, hs, hd⟩⟩

theorem IsLowered.lowerAt_eq {c : Char} (h : IsLowered c) (before after : List Char) :
    lowerAt before c after = [c] := by
  rw [lowerAt, if_neg h.ne_sigma, if_neg h.ne_dotted, h.fixed]

-- A letter that is in lowercase and differs from a given character.
theorem exists_letter (d : Option Char) :
    ∃ c, d ≠ some c ∧ IsLowered c ∧ meetsLetter [c] = true ∧ isBlank c = false := by
  by_cases ha : d = some 'a'
  · exact ⟨'b', by simp [ha], by decide, by decide, by decide⟩
  · exact ⟨'a', ha, by decide, by decide, by decide⟩

theorem lowerBetween_of_isLowered {part : List Char} (h : ∀ c ∈ part, IsLowered c)
    (before after : List Char) : lowerBetween before part after = part := by
  induction part generalizing before with
  | nil => rfl
  | cons c part ih =>
      obtain ⟨hc, hpart⟩ := List.forall_mem_cons.mp h
      rw [lowerBetween, hc.lowerAt_eq, ih hpart, List.singleton_append]

theorem lowerList_of_isLowered {cs : List Char} (h : ∀ c ∈ cs, IsLowered c) :
    lowerList cs = cs := by
  rw [lowerList_eq, lowerBetween_of_isLowered h]

theorem CodeShift.applyAll_of_unmoved {shifts : List CodeShift} {c : Char}
    (h : ∀ shift ∈ shifts, shift.moves c.toNat = false) : applyAll shifts c = c := by
  unfold applyAll
  split
  · rename_i shift hfind
    rw [if_neg (by simp [h shift (List.mem_of_find?_eq_some hfind)])]
  · rfl

theorem CodeShift.exists_of_applyAll_ne {shifts : List CodeShift} {c : Char}
    (h : applyAll shifts c ≠ c) : ∃ shift ∈ shifts, shift.moves c.toNat = true ∧
      applyAll shifts c = Char.ofNat (shift.image + (c.toNat - shift.first)) := by
  unfold applyAll at h ⊢
  split at h
  · rename_i shift hfind
    split at h
    · rename_i hm
      exact ⟨shift, List.mem_of_find?_eq_some hfind, hm, if_pos hm⟩
    · exact absurd rfl h
  · exact absurd rfl h

-- Whether an image of one run may lie in another run.
def CodeShift.reaches (shift other : CodeShift) : Bool :=
  shift.image.ble other.last && other.first.ble (shift.image + (shift.last - shift.first))

-- No run moves an image of a run, and no image is the capital letter whose form is longer.
theorem images_unmoved :
    (lowerShifts.all fun shift =>
      ((shift.image + (shift.last - shift.first)).blt 'İ'.toNat || 'İ'.toNat.blt shift.image) &&
        ((lowerShifts.filter shift.reaches).all fun other =>
          (List.range (shift.last - shift.first + 1)).all fun k =>
            k % shift.step != 0 || !other.moves (shift.image + k))) = true := by
  decide +kernel

theorem not_moves_image {shift other : CodeShift} (hs : shift ∈ lowerShifts)
    (ho : other ∈ lowerShifts) {k : Nat} (hk : k ≤ shift.last - shift.first)
    (hstep : k % shift.step = 0) : other.moves (shift.image + k) = false := by
  have htable := (Bool.and_eq_true_iff.mp (List.all_eq_true.mp images_unmoved shift hs)).2
  cases hr : shift.reaches other with
  | true =>
      have hother := List.all_eq_true.mp htable other (List.mem_filter.mpr ⟨ho, hr⟩)
      simpa [hstep] using List.all_eq_true.mp hother k (List.mem_range.mpr (by omega))
  | false =>
      rw [Bool.eq_false_iff] at hr ⊢
      intro hm
      apply hr
      simp only [CodeShift.moves, Bool.and_eq_true, decide_eq_true_eq] at hm
      simp only [CodeShift.reaches, Bool.and_eq_true, Nat.ble_eq]
      omega

theorem image_ne_dotted {shift : CodeShift} (hs : shift ∈ lowerShifts) {k : Nat}
    (hk : k ≤ shift.last - shift.first) : shift.image + k ≠ 'İ'.toNat := by
  have htable := (Bool.and_eq_true_iff.mp (List.all_eq_true.mp images_unmoved shift hs)).1
  simp only [Bool.or_eq_true, Nat.blt_eq] at htable
  omega

theorem isLowered_image {shift : CodeShift} (hs : shift ∈ lowerShifts) {k : Nat}
    (hk : k ≤ shift.last - shift.first) (hstep : k % shift.step = 0) :
    IsLowered (Char.ofNat (shift.image + k)) := by
  by_cases hvalid : (shift.image + k).isValidChar
  · have hcode : (Char.ofNat (shift.image + k)).toNat = shift.image + k := by
      rw [Char.ofNat, dif_pos hvalid]
      rfl
    have hfixed : lowerChar (Char.ofNat (shift.image + k)) = Char.ofNat (shift.image + k) := by
      apply CodeShift.applyAll_of_unmoved
      intro other ho
      rw [hcode]
      exact not_moves_image hs ho hk hstep
    refine ⟨hfixed, ?_, ?_⟩
    · intro hc
      rw [hc] at hfixed
      exact absurd hfixed (by decide)
    · intro hc
      rw [hc] at hcode
      exact image_ne_dotted hs hk hcode.symm
  · rw [Char.ofNat, dif_neg hvalid]
    decide

theorem isLowered_of_mem_lowerAt {before after : List Char} {c d : Char}
    (h : d ∈ lowerAt before c after) : IsLowered d := by
  unfold lowerAt at h
  split at h
  · obtain rfl := List.mem_singleton.mp h
    split <;> decide
  · rename_i hsigma
    split at h
    · rw [List.mem_cons, List.mem_singleton] at h
      rcases h with rfl | rfl <;> decide
    · rename_i hdotted
      obtain rfl := List.mem_singleton.mp h
      by_cases hfixed : lowerChar c = c
      · rw [hfixed]
        exact ⟨hfixed, hsigma, hdotted⟩
      · obtain ⟨shift, hs, hm, himage⟩ := CodeShift.exists_of_applyAll_ne hfixed
        simp only [CodeShift.moves, Bool.and_eq_true, decide_eq_true_eq, beq_iff_eq] at hm
        rw [lowerChar, himage]
        exact isLowered_image hs (by omega) hm.2

theorem isLowered_of_mem_lowerBetween {part before after : List Char} {d : Char}
    (h : d ∈ lowerBetween before part after) : IsLowered d := by
  induction part generalizing before with
  | nil => exact absurd h List.not_mem_nil
  | cons c part ih =>
      rcases List.mem_append.mp h with hc | hpart
      · exact isLowered_of_mem_lowerAt hc
      · exact ih hpart

theorem isLowered_of_mem_lowerList {cs : List Char} {d : Char} (h : d ∈ lowerList cs) :
    IsLowered d := by
  rw [lowerList_eq] at h
  exact isLowered_of_mem_lowerBetween h

end Lowered

end VaultQuery.Text
