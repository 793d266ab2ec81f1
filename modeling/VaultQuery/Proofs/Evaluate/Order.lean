import Mathlib.Data.List.Basic
import VaultQuery.Proofs.Evaluate.Lemmas

namespace VaultQuery.Query

open Vault (Item)

@[simp] theorem keyLe_ascending (left right : String) :
    keyLe .ascending (some left) (some right) = true ↔ left ≤ right := by
  simp only [keyLe, Bool.not_eq_true', decide_eq_false_iff_not, String.not_lt]

@[simp] theorem keyLe_descending (left right : String) :
    keyLe .descending (some left) (some right) = true ↔ right ≤ left := by
  simp only [keyLe, Bool.not_eq_true', decide_eq_false_iff_not, String.not_lt]

@[simp] theorem keyLe_none (direction : Direction) (key : Option String) :
    keyLe direction key none = true := by
  cases key <;> rfl

@[simp] theorem keyLe_none_some (direction : Direction) (right : String) :
    keyLe direction none (some right) = false := rfl

theorem keyLe_total (direction : Direction) (first second : Option String) :
    keyLe direction first second = true ∨ keyLe direction second first = true := by
  cases first with
  | none => simp
  | some left =>
      cases second with
      | none => simp
      | some right =>
          cases direction with
          | ascending => simpa using String.le_total left right
          | descending => simpa using String.le_total right left

theorem keyLe_trans (direction : Direction) (first second third : Option String)
    (hfs : keyLe direction first second = true) (hst : keyLe direction second third = true) :
    keyLe direction first third = true := by
  cases third with
  | none => simp
  | some right =>
      cases second with
      | none => simp at hst
      | some middle =>
          cases first with
          | none => simp at hfs
          | some left =>
              cases direction with
              | ascending =>
                  simp only [keyLe_ascending] at hfs hst ⊢
                  exact String.le_trans hfs hst
              | descending =>
                  simp only [keyLe_descending] at hfs hst ⊢
                  exact String.le_trans hst hfs

-- Only equal keys may stand in either order.
theorem keyLe_antisymm (direction : Direction) (first second : Option String)
    (hfs : keyLe direction first second = true) (hsf : keyLe direction second first = true) :
    first = second := by
  cases first with
  | none =>
      cases second with
      | none => rfl
      | some right => simp at hfs
  | some left =>
      cases second with
      | none => simp at hsf
      | some right =>
          cases direction with
          | ascending =>
              simp only [keyLe_ascending] at hfs hsf
              rw [String.le_antisymm hfs hsf]
          | descending =>
              simp only [keyLe_descending] at hfs hsf
              rw [String.le_antisymm hsf hfs]

section Ties

variable {α : Type} {le : α → α → Bool}

-- Whether either of two entries may stand before the other.
def tied (le : α → α → Bool) (a b : α) : Bool :=
  le a b && le b a

theorem mem_iff_of_same_ties (hrefl : ∀ a, le a a = true) {first second : List α}
    (h : ∀ a, first.filter (tied le a) = second.filter (tied le a)) (a : α) :
    a ∈ first ↔ a ∈ second := by
  have ha := congrArg (a ∈ ·) (h a)
  simpa [tied, hrefl] using ha

-- Two ascending lists are equal if the entries that are tied with each other stand in the same
-- order.
theorem eq_of_same_ties (hrefl : ∀ a, le a a = true) {first second : List α}
    (hf : first.Pairwise fun a b => le a b = true) (hs : second.Pairwise fun a b => le a b = true)
    (h : ∀ a, first.filter (tied le a) = second.filter (tied le a)) : first = second := by
  have hmem := mem_iff_of_same_ties hrefl h
  induction first generalizing second with
  | nil =>
      symm
      rw [List.eq_nil_iff_forall_not_mem]
      intro a ha
      simpa using (hmem a).mpr ha
  | cons a first ih =>
      cases second with
      | nil => simpa using hmem a
      | cons b second =>
          obtain ⟨hfa, hfrest⟩ := List.pairwise_cons.mp hf
          obtain ⟨hsb, hsrest⟩ := List.pairwise_cons.mp hs
          -- Each head stands before the other one, so they are tied.
          have htied : tied le a b = true := by
            rcases List.mem_cons.mp ((hmem a).mp List.mem_cons_self) with hab | hab
            · simp [tied, ← hab, hrefl]
            rcases List.mem_cons.mp ((hmem b).mpr List.mem_cons_self) with hba | hba
            · simp [tied, hba, hrefl]
            simp [tied, hfa b hba, hsb a hab]
          have hself : tied le a a = true := by simp [tied, hrefl]
          have hhead : a = b := by
            have ha := h a
            simp only [List.filter_cons, hself, htied, if_true, List.cons.injEq] at ha
            exact ha.1
          subst hhead
          have hrest : ∀ c, first.filter (tied le c) = second.filter (tied le c) := by
            intro c
            have hc := h c
            simp only [List.filter_cons] at hc
            split at hc
            · exact (List.cons.inj hc).2
            · exact hc
          rw [ih hfrest hsrest hrest (mem_iff_of_same_ties hrefl hrest)]

end Ties

section Sorted

variable {α κ : Type} [DecidableEq κ] {key : α → κ} {le : κ → κ → Bool}

-- Entries are tied by their keys if the keys are equal.
theorem tied_key (htotal : ∀ a b, le a b = true ∨ le b a = true)
    (hanti : ∀ a b, le a b = true → le b a = true → a = b) (a : α) :
    tied (fun a b => le (key a) (key b)) a = fun b => decide (key b = key a) := by
  funext b
  rw [Bool.eq_iff_iff, tied, Bool.and_eq_true, decide_eq_true_eq]
  constructor
  · rintro ⟨hab, hba⟩
    exact hanti _ _ hba hab
  · intro he
    rw [he]
    simpa using htotal (key a) (key a)

-- Two ascending lists are equal if they have the same entries of each key in the same order.
theorem eq_of_same_classes (htotal : ∀ a b, le a b = true ∨ le b a = true)
    (hanti : ∀ a b, le a b = true → le b a = true → a = b)
    {first second : List α} (hf : first.Pairwise fun a b => le (key a) (key b) = true)
    (hs : second.Pairwise fun a b => le (key a) (key b) = true)
    (h : ∀ k, first.filter (key · = k) = second.filter (key · = k)) : first = second := by
  have hrefl : ∀ a, le (key a) (key a) = true := by
    intro a
    simpa using htotal (key a) (key a)
  apply eq_of_same_ties hrefl hf hs
  intro a
  rw [tied_key htotal hanti]
  exact h (key a)

-- Sorting leaves the entries of each key as they stood.
theorem filter_mergeSort_key (htrans : ∀ a b c, le a b = true → le b c = true → le a c = true)
    (htotal : ∀ a b, le a b = true ∨ le b a = true) (entries : List α) (k : κ) :
    (entries.mergeSort fun a b => le (key a) (key b)).filter (key · = k) =
      entries.filter (key · = k) := by
  have hsame : (entries.filter (key · = k)).Pairwise fun a b => le (key a) (key b) = true := by
    rw [List.pairwise_filter]
    refine List.pairwise_of_forall ?_
    intro a b ha hb
    have hrefl : le k k = true := by simpa using htotal k k
    simp only [decide_eq_true_eq] at ha hb
    rw [ha, hb]
    exact hrefl
  have hsub : (entries.filter (key · = k)).Sublist
      (entries.mergeSort fun a b => le (key a) (key b)) := by
    refine List.sublist_mergeSort ?_ ?_ hsame List.filter_sublist
    · intro a b c
      exact htrans (key a) (key b) (key c)
    · intro a b
      simpa using htotal (key a) (key b)
  have hperm := (List.mergeSort_perm entries fun a b => le (key a) (key b)).filter (key · = k)
  have hfilter := hsub.filter (key · = k)
  rw [List.filter_filter] at hfilter
  simp only [Bool.and_self] at hfilter
  exact (hfilter.eq_of_length hperm.length_eq.symm).symm

end Sorted

theorem pairwise_orderItems (field : String) (direction : Direction) (items : List Item) :
    (orderItems field direction items).Pairwise fun left right =>
      keyLe direction (sortKey field left) (sortKey field right) = true := by
  apply List.pairwise_mergeSort
  · intro first second third
    exact keyLe_trans direction _ _ _
  · intro first second
    simpa using keyLe_total direction (sortKey field first) (sortKey field second)

theorem filter_orderItems_key (field : String) (direction : Direction) (items : List Item)
    (key : Option String) :
    (orderItems field direction items).filter (sortKey field · = key) =
      items.filter (sortKey field · = key) :=
  filter_mergeSort_key (keyLe_trans direction) (keyLe_total direction) items key

-- An ascending list that has the items of each key in the order they were given is the ordered
-- list.
theorem eq_orderItems {field : String} {direction : Direction} {items result : List Item}
    (hs : result.Pairwise fun left right =>
      keyLe direction (sortKey field left) (sortKey field right) = true)
    (h : ∀ key, result.filter (sortKey field · = key) = items.filter (sortKey field · = key)) :
    result = orderItems field direction items := by
  refine eq_of_same_classes (keyLe_total direction) (keyLe_antisymm direction) hs
    (pairwise_orderItems field direction items) ?_
  intro key
  rw [h key]
  exact (filter_orderItems_key field direction items key).symm

-- The items that are kept can be ordered before or after the others are dropped.
theorem filter_orderItems (field : String) (direction : Direction) (items : List Item)
    (keep : Item → Bool) :
    (orderItems field direction items).filter keep =
      orderItems field direction (items.filter keep) := by
  apply eq_orderItems
  · exact (pairwise_orderItems field direction items).filter keep
  · intro key
    have hkey := filter_orderItems_key field direction items key
    calc ((orderItems field direction items).filter keep).filter (sortKey field · = key)
        = ((orderItems field direction items).filter (sortKey field · = key)).filter keep :=
          List.filter_comm ..
      _ = (items.filter (sortKey field · = key)).filter keep := by rw [hkey]
      _ = (items.filter keep).filter (sortKey field · = key) := List.filter_comm ..

end VaultQuery.Query
