import Mathlib.Data.List.DropRight
import VaultQuery.Proofs.Lists
import VaultQuery.Text.Blank

namespace VaultQuery.Text

theorem isBlank_of_isAlpha {c : Char} (h : c.isAlpha = true) : isBlank c = false := by
  have hcases : (c.isUpper || c.isLower) = true := h
  rcases Bool.or_eq_true_iff.mp hcases with hupper | hlower
  · have hrange : 65 ≤ c.toNat ∧ c.toNat ≤ 90 := of_decide_eq_true hupper
    exact isBlank_of_between 65 90 (by decide) hrange.1 hrange.2
  · obtain ⟨hlow, hhigh⟩ := Bool.and_eq_true_iff.mp hlower
    exact isBlank_of_between 97 122 (by decide) (of_decide_eq_true hlow) (of_decide_eq_true hhigh)

-- Behind a part that has no blanks at its ends, only the end of a text is trimmed.
theorem trimList_append {part rest : List Char} (hne : part ≠ [])
    (hfirst : ∀ c ∈ part.head?, isBlank c = false)
    (hlast : ∀ c ∈ part.getLast?, isBlank c = false) :
    trimList (part ++ rest) = part ++ rest.rdropWhile isBlank := by
  have hfront : (part ++ rest).dropWhile isBlank = part ++ rest := by
    apply dropWhile_eq_self
    rw [List.head?_append_of_ne_nil _ hne]
    exact hfirst
  have hback : part.reverse.dropWhile isBlank = part.reverse := by
    apply dropWhile_eq_self
    rw [List.head?_reverse]
    exact hlast
  rw [trimList, hfront, List.reverse_append, List.dropWhile_append]
  split
  · rename_i hall
    rw [List.isEmpty_iff] at hall
    rw [hback, List.reverse_reverse, List.rdropWhile, hall, List.reverse_nil, List.append_nil]
  · rw [List.reverse_append, List.reverse_reverse, List.rdropWhile]

-- A text is blank if all its characters are.
theorem isBlankText_iff (text : String) :
    isBlankText text = true ↔ ∀ c ∈ text.toList, isBlank c = true := by
  have hsplit := List.takeWhile_append_dropWhile (p := isBlank) (l := text.toList)
  have htrim : trimList text.toList = (text.toList.dropWhile isBlank).rdropWhile isBlank := rfl
  rw [isBlankText, trim, String.isEmpty_iff, String.ofList_eq_empty_iff, htrim,
    List.rdropWhile_eq_nil_iff]
  constructor
  · intro h
    rw [← hsplit]
    exact List.forall_mem_append.mpr ⟨fun _ hc => List.mem_takeWhile_imp hc, h⟩
  · intro h c hc
    exact h c ((List.dropWhile_suffix isBlank).subset hc)

end VaultQuery.Text
