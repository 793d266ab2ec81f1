import Mathlib.Data.List.DropRight
import Mathlib.Data.List.Forall2

namespace VaultQuery

variable {α β : Type}

-- A list is read if each of its elements is.
theorem mapM_eq_some_iff {read : α → Option β} {sources : List α} {values : List β} :
    sources.mapM read = some values ↔
      List.Forall₂ (fun source value => read source = some value) sources values := by
  induction sources generalizing values with
  | nil =>
      rw [List.mapM_nil, List.forall₂_nil_left_iff]
      exact ⟨fun h => (Option.some.inj h).symm, fun h => congrArg some h.symm⟩
  | cons source sources ih =>
      rw [List.mapM_cons, List.forall₂_cons_left_iff]
      simp only [Option.bind_eq_bind, Option.bind_eq_some_iff, Option.pure_def, Option.some.injEq,
        ih]
      constructor
      · rintro ⟨value, hv, rest, hr, rfl⟩
        exact ⟨value, rest, hv, hr, rfl⟩
      · rintro ⟨value, rest, hv, hr, rfl⟩
        exact ⟨value, hv, rest, hr, rfl⟩

theorem exists_of_mem_mapM {read : α → Option β} {sources : List α} {values : List β}
    (h : sources.mapM read = some values) :
    ∀ value ∈ values, ∃ source, read source = some value := by
  rw [mapM_eq_some_iff] at h
  induction h with
  | nil => exact nofun
  | cons hv _ ih => exact List.forall_mem_cons.mpr ⟨⟨_, hv⟩, ih⟩

section Runs

variable {test : α → Bool} {elements : List α}

theorem takeWhile_eq_nil (h : ∀ a ∈ elements.head?, test a = false) :
    elements.takeWhile test = [] := by
  cases elements with
  | nil => rfl
  | cons a elements => simp [h a rfl]

theorem dropWhile_eq_self (h : ∀ a ∈ elements.head?, test a = false) :
    elements.dropWhile test = elements := by
  cases elements with
  | nil => rfl
  | cons a elements => simp [h a rfl]

-- An element that fails the test ends the run.
theorem takeWhile_append_cons {a : α} (ha : test a = false) (elements after : List α) :
    (elements ++ a :: after).takeWhile test = elements.takeWhile test := by
  induction elements with
  | nil => simp [ha]
  | cons b elements ih => simp only [List.cons_append, List.takeWhile_cons, ih]

theorem rtakeWhile_append_cons {a : α} (ha : test a = false) (before elements : List α) :
    (before ++ a :: elements).rtakeWhile test = elements.rtakeWhile test := by
  rw [List.rtakeWhile, List.reverse_append, List.reverse_cons, List.append_assoc,
    List.singleton_append, takeWhile_append_cons ha, List.rtakeWhile]

-- A run ends within the first part unless all of it passes the test and the second part starts with
-- an element that passes too.
theorem length_takeWhile_append_le_iff (elements after : List α) :
    ((elements ++ after).takeWhile test).length ≤ elements.length ↔
      (∀ a ∈ after.head?, test a = false) ∨ ∃ a ∈ elements, test a = false := by
  induction elements with
  | nil =>
      cases after with
      | nil => simp
      | cons a after => cases ha : test a <;> simp [ha]
  | cons b elements ih =>
      cases hb : test b with
      | true => simpa [hb] using ih
      | false => simp [hb]

-- All elements pass the test, or there is a first one that fails it.
theorem forall_or_exists_first (test : α → Bool) (elements : List α) :
    (∀ a ∈ elements, test a = true) ∨
      ∃ left a right, elements = left ++ a :: right ∧ (∀ b ∈ left, test b = true) ∧
        test a = false := by
  cases hd : elements.dropWhile test with
  | nil => exact .inl (List.dropWhile_eq_nil_iff.mp hd)
  | cons a right =>
      have hhead := List.head?_dropWhile_not test elements
      have hsplit := List.takeWhile_append_dropWhile (p := test) (l := elements)
      rw [hd] at hhead hsplit
      exact .inr ⟨_, a, right, hsplit.symm, fun _ hb => List.mem_takeWhile_imp hb,
        by simpa using hhead⟩

-- All elements pass the test, or there is a last one that fails it.
theorem forall_or_exists_last (test : α → Bool) (elements : List α) :
    (∀ a ∈ elements, test a = true) ∨
      ∃ left a right, elements = left ++ a :: right ∧ (∀ b ∈ right, test b = true) ∧
        test a = false := by
  rcases forall_or_exists_first test elements.reverse with hall | ⟨left, a, right, he, hl, ha⟩
  · exact .inl (by simpa using hall)
  · refine .inr ⟨right.reverse, a, left.reverse, ?_, by simpa using hl, ha⟩
    rw [← List.reverse_inj, he]
    simp

end Runs

section Infixes

variable {part rest : List α} {a : α}

-- Another list of the same length holds the part neither alone nor with one element more, unless
-- the part begins or ends with that element.
theorem not_infix_cons (hlength : part.length = rest.length) (hne : rest ≠ part)
    (hhead : part.head? ≠ some a) : ¬part <:+: a :: rest := by
  rw [List.infix_cons_iff]
  rintro (hp | hi)
  · cases part with
    | nil => exact hne (List.length_eq_zero_iff.mp hlength.symm)
    | cons b part =>
        rw [List.cons_prefix_cons] at hp
        exact hhead (congrArg some hp.1)
  · exact hne (hi.eq_of_length hlength).symm

theorem not_infix_concat (hlength : part.length = rest.length) (hne : rest ≠ part)
    (hlast : part.getLast? ≠ some a) : ¬part <:+: rest ++ [a] := by
  rw [← List.reverse_infix, List.reverse_concat]
  apply not_infix_cons
  · rwa [List.length_reverse, List.length_reverse]
  · rwa [Ne, List.reverse_inj]
  · rwa [List.head?_reverse]

end Infixes

end VaultQuery
