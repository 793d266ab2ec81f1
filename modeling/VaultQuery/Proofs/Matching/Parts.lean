import VaultQuery.Proofs.Lists
import VaultQuery.Proofs.Text.Lowercase
import VaultQuery.Query.Matching

namespace VaultQuery

namespace Text

-- Every capital sigma of a part ends a word in the text exactly if it does in the part alone.
def KeepsSigmas (left part right : List Char) : Prop :=
  ∀ before after, part = before ++ 'Σ' :: after →
    isFinal (before.reverse ++ left.reverse) (after ++ right) = isFinal before.reverse after

-- A capital sigma that may take its other form next to a letter: it has no letter behind it and
-- nothing but case-ignorable characters before it, or it ends a word and has nothing but such
-- characters behind it.
def LeavesSigmaOpen (part : List Char) : Prop :=
  ∃ before after, part = before ++ 'Σ' :: after ∧
    ((∀ c ∈ before, isCaseIgnorable c = true) ∧ meetsLetter after = false ∨
      (∀ c ∈ after, isCaseIgnorable c = true) ∧ meetsLetter before.reverse = true)

theorem lowerBetween_eq_lowerList_iff (left part right : List Char) :
    lowerBetween left.reverse part right = lowerList part ↔ KeepsSigmas left part right := by
  rw [lowerList_eq, lowerBetween_eq_iff]
  simp only [List.append_nil, KeepsSigmas]

theorem lowerList_infix_of_keepsSigmas {left part right : List Char}
    (h : KeepsSigmas left part right) :
    lowerList part <:+: lowerList (left ++ (part ++ right)) := by
  rw [lowerList_append_append, (lowerBetween_eq_lowerList_iff left part right).mpr h,
    ← List.append_assoc]
  exact ⟨_, _, rfl⟩

theorem keepsSigmas_of_not_leavesSigmaOpen {part : List Char} (h : ¬LeavesSigmaOpen part)
    (left right : List Char) : KeepsSigmas left part right := by
  intro before after hpart
  simp only [isFinal]
  cases hafter : meetsLetter after with
  | true =>
      -- A letter behind the sigma settles its form.
      have hdecided : ¬∀ c ∈ after, isCaseIgnorable c = true := by
        intro hall
        have hnone := meetsLetter_append_of_ignorable hall []
        rw [List.append_nil, hafter] at hnone
        cases hnone
      rw [meetsLetter_append_of_exists hdecided, hafter, Bool.not_true, Bool.and_false,
        Bool.and_false]
  | false =>
      have hbefore : ¬∀ c ∈ before.reverse, isCaseIgnorable c = true := by
        intro hall
        exact h ⟨before, after, hpart, .inl ⟨by simpa using hall, hafter⟩⟩
      rw [meetsLetter_append_of_exists hbefore]
      cases hletter : meetsLetter before.reverse with
      | false => rw [Bool.false_and, Bool.false_and]
      | true =>
          have hdecided : ¬∀ c ∈ after, isCaseIgnorable c = true := by
            intro hall
            exact h ⟨before, after, hpart, .inr ⟨hall, hletter⟩⟩
          rw [meetsLetter_append_of_exists hdecided, hafter]

-- A letter before the part changes a sigma that has nothing before it to settle its form.
theorem exists_not_infix_behind {before after : List Char}
    (hignorable : ∀ c ∈ before, isCaseIgnorable c = true) (hafter : meetsLetter after = false) :
    ∃ left, ¬lowerList (before ++ 'Σ' :: after) <:+:
      lowerList (left ++ (before ++ 'Σ' :: after ++ [])) := by
  generalize hpart : before ++ 'Σ' :: after = part
  obtain ⟨c, hhead, hlowered, hletter, _⟩ := exists_letter (lowerList part).head?
  have hchanged : lowerBetween [c] part [] ≠ lowerList part := by
    rw [← List.reverse_singleton, Ne, lowerBetween_eq_lowerList_iff]
    intro hkeeps
    have hform := hkeeps before after hpart.symm
    have hreverse : ∀ d ∈ before.reverse, isCaseIgnorable d = true := by simpa using hignorable
    have halone := meetsLetter_append_of_ignorable hreverse []
    rw [List.append_nil] at halone
    rw [isFinal, isFinal, List.reverse_singleton, meetsLetter_append_of_ignorable hreverse,
      halone, List.append_nil, hletter, hafter] at hform
    cases hform
  have htext : lowerList ([c] ++ (part ++ [])) = c :: lowerBetween [c] part [] := by
    rw [lowerList_append_append]
    simp only [lowerBetween, hlowered.lowerAt_eq, List.reverse_singleton, List.append_nil,
      List.singleton_append]
  refine ⟨[c], ?_⟩
  rw [htext]
  refine not_infix_cons ?_ hchanged hhead
  rw [lowerList_eq, length_lowerBetween]

-- A letter behind the part changes a sigma that ends a word there.
theorem exists_not_infix_before {before after : List Char}
    (hignorable : ∀ c ∈ after, isCaseIgnorable c = true)
    (hbefore : meetsLetter before.reverse = true) :
    ∃ right, ¬lowerList (before ++ 'Σ' :: after) <:+:
      lowerList ([] ++ (before ++ 'Σ' :: after ++ right)) := by
  generalize hpart : before ++ 'Σ' :: after = part
  obtain ⟨c, hlast, hlowered, hletter, _⟩ := exists_letter (lowerList part).getLast?
  have hchanged : lowerBetween [] part [c] ≠ lowerList part := by
    rw [← List.reverse_nil, Ne, lowerBetween_eq_lowerList_iff]
    intro hkeeps
    have hform := hkeeps before after hpart.symm
    have halone := meetsLetter_append_of_ignorable hignorable []
    rw [List.append_nil] at halone
    rw [isFinal, isFinal, List.reverse_nil, List.append_nil,
      meetsLetter_append_of_ignorable hignorable, halone, hletter, hbefore] at hform
    cases hform
  have htext : lowerList ([] ++ (part ++ [c])) = lowerBetween [] part [c] ++ [c] := by
    rw [lowerList_append_append]
    simp only [lowerBetween, hlowered.lowerAt_eq, List.reverse_nil, List.append_nil,
      List.nil_append]
  refine ⟨[c], ?_⟩
  rw [htext]
  refine not_infix_concat ?_ hchanged hlast
  rw [lowerList_eq, length_lowerBetween]

theorem exists_not_infix {part : List Char} (h : LeavesSigmaOpen part) :
    ∃ left right, ¬lowerList part <:+: lowerList (left ++ (part ++ right)) := by
  obtain ⟨before, after, rfl, ⟨hignorable, hafter⟩ | ⟨hignorable, hbefore⟩⟩ := h
  · obtain ⟨left, hleft⟩ := exists_not_infix_behind hignorable hafter
    exact ⟨left, [], hleft⟩
  · obtain ⟨right, hright⟩ := exists_not_infix_before hignorable hbefore
    exact ⟨[], right, hright⟩

end Text

namespace Query.Value

open Text

theorem matchesText_plain_iff (part text : String) :
    matchesText ⟨part, false⟩ text = true ↔ lowerList part.toList <:+: lowerList text.toList := by
  simp only [matchesText, Bool.false_eq_true, if_false, Bool.or_eq_true, List.isEmpty_iff,
    occurs_iff]
  constructor
  · rintro (hempty | hi)
    · rw [hempty]
      exact List.nil_infix
    · exact hi
  · exact .inr

-- An unquoted value is found where it stands in a text if its capital sigmas take the same form
-- there as in the value alone. It is found in every text it is a part of unless it leaves a sigma
-- open.
theorem matchesText_part (part : String) :
    (∀ left right, KeepsSigmas left.toList part.toList right.toList →
      matchesText ⟨part, false⟩ (left ++ part ++ right) = true) ∧
    ((∀ text, part.toList <:+: text.toList → matchesText ⟨part, false⟩ text = true) ↔
      ¬LeavesSigmaOpen part.toList) := by
  simp only [matchesText_plain_iff, String.toList_append]
  refine ⟨?_, ?_, ?_⟩
  · intro left right hkeeps
    rw [List.append_assoc]
    exact lowerList_infix_of_keepsSigmas hkeeps
  · intro hall hopen
    obtain ⟨left, right, hmissed⟩ := exists_not_infix hopen
    apply hmissed
    have hfound := hall (String.ofList (left ++ (part.toList ++ right)))
    rw [String.toList_ofList, ← List.append_assoc] at hfound
    rw [← List.append_assoc]
    exact hfound ⟨left, right, rfl⟩
  · rintro hclosed text ⟨left, right, htext⟩
    rw [← htext, List.append_assoc]
    exact lowerList_infix_of_keepsSigmas (keepsSigmas_of_not_leavesSigmaOpen hclosed left right)

-- A whole word keeps its final sigma, and a part without a sigma is found inside a word.
theorem matchesText_part_word :
    KeepsSigmas "Η ".toList "ΟΔΟΣ".toList " 1".toList ∧
      matchesText ⟨"ΟΔΟΣ", false⟩ ("Η " ++ "ΟΔΟΣ" ++ " 1") = true ∧
      ¬LeavesSigmaOpen "ΟΔΟ".toList ∧ matchesText ⟨"ΟΔΟ", false⟩ "ΜΕΘΟΔΟΣ" = true := by
  have hkeeps : KeepsSigmas "Η ".toList "ΟΔΟΣ".toList " 1".toList := by
    rw [← lowerBetween_eq_lowerList_iff]
    decide
  have hclosed : ¬LeavesSigmaOpen "ΟΔΟ".toList := by
    rintro ⟨before, after, hpart, _⟩
    have hsigma : 'Σ' ∈ "ΟΔΟ".toList := by
      rw [hpart]
      simp
    exact absurd hsigma (by decide)
  exact ⟨hkeeps, (matchesText_part "ΟΔΟΣ").1 "Η " " 1" hkeeps, hclosed,
    (matchesText_part "ΟΔΟ").2.mpr hclosed "ΜΕΘΟΔΟΣ" ⟨"ΜΕΘ".toList, "Σ".toList, by decide⟩⟩

-- The sigma ends a word in the value and not in the text.
theorem matchesText_part_sigma :
    "ΑΣ".toList <:+: "ΑΣΑ".toList ∧ matchesText ⟨"ΑΣ", false⟩ "ΑΣΑ" = false :=
  ⟨⟨[], "Α".toList, by decide⟩, by decide⟩

end Query.Value

end VaultQuery
