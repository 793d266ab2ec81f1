import VaultQuery.Query.Highlight

namespace VaultQuery.Query

theorem mem_insertText_iff {text mark : String} {marks : List String} :
    mark ∈ insertText text marks ↔ mark = text ∨ mark ∈ marks := by
  induction marks with
  | nil => simp [insertText]
  | cons other marks ih =>
      unfold insertText
      split
      · exact List.mem_cons
      · split
        · rename_i heq
          subst heq
          simp
        · simp only [List.mem_cons, ih]
          exact or_left_comm

-- Ascending, so no text stands twice.
theorem pairwise_insertText {text : String} {marks : List String} (h : marks.Pairwise (· < ·)) :
    (insertText text marks).Pairwise (· < ·) := by
  induction marks with
  | nil => exact List.pairwise_singleton ..
  | cons other marks ih =>
      obtain ⟨hother, hmarks⟩ := List.pairwise_cons.mp h
      unfold insertText
      split
      · rename_i hlt
        refine List.pairwise_cons.mpr ⟨?_, h⟩
        rw [List.forall_mem_cons]
        exact ⟨hlt, fun mark hm => String.lt_trans hlt (hother mark hm)⟩
      · rename_i hnot
        split
        · exact h
        · rename_i hne
          refine List.pairwise_cons.mpr ⟨?_, ih hmarks⟩
          intro mark hm
          rcases mem_insertText_iff.mp hm with rfl | hm
          · exact Std.lt_of_le_of_ne (String.not_lt.mp hnot) (Ne.symm hne)
          · exact hother mark hm

theorem mem_foldl_insertText_iff {texts marks : List String} {mark : String} :
    mark ∈ texts.foldl (fun marks text => insertText text marks) marks ↔
      mark ∈ texts ∨ mark ∈ marks := by
  induction texts generalizing marks with
  | nil => simp
  | cons text texts ih =>
      rw [List.foldl_cons, ih, mem_insertText_iff, List.mem_cons, or_left_comm, or_assoc]

-- A highlight is the marked form of a text that the query looks for.
theorem mem_highlights_iff {query : Query} {mark : String} :
    mark ∈ highlights query ↔ ∃ text ∈ wanted query, marked? text = some mark := by
  rw [highlights, mem_foldl_insertText_iff, List.mem_filterMap]
  simp

theorem pairwise_highlights (query : Query) : (highlights query).Pairwise (· < ·) :=
  List.foldlRecOn _ _ List.Pairwise.nil fun _ h _ _ => pairwise_insertText h

section Nodes

variable {span : Span} {mark : String}

theorem mem_highlights_search {body : Query} :
    mark ∈ highlights (.search span body) ↔ mark ∈ highlights body := by
  simp only [mem_highlights_iff, wanted]

theorem mem_highlights_parens {body : Query} :
    mark ∈ highlights (.parens span body) ↔ mark ∈ highlights body := by
  simp only [mem_highlights_iff, wanted]

theorem mem_highlights_or {left right : Query} :
    mark ∈ highlights (.or span left right) ↔ mark ∈ highlights left ∨ mark ∈ highlights right := by
  simp only [mem_highlights_iff, wanted, List.mem_append, or_and_right, exists_or]

theorem mem_highlights_and {left right : Query} :
    mark ∈ highlights (.and span left right) ↔
      mark ∈ highlights left ∨ mark ∈ highlights right := by
  simp only [mem_highlights_iff, wanted, List.mem_append, or_and_right, exists_or]

theorem mem_highlights_leaf {clause : Clause} :
    mark ∈ highlights (.leaf span clause) ↔ ∃ text ∈ clause.wanted?, marked? text = some mark := by
  simp only [mem_highlights_iff, wanted, Option.mem_toList, Option.mem_def]

end Nodes

end VaultQuery.Query
