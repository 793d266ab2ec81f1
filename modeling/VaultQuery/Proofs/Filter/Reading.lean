import VaultQuery.Proofs.Filter.Theorems

namespace VaultQuery.Filter

open Query

-- What a group that is read stands for.
structure ReadsAs (seen : List Category) (conjunct : Query) (category : Category)
    (members : List Member) : Prop where
  operands : (groupOf conjunct).2.mapM member? = some members
  joiner : (groupOf conjunct).1 = .single ∨ (groupOf conjunct).1 = category.joiner
  nonempty : members ≠ []
  uniform : ∀ member ∈ members, member.category = category
  fresh : category.isConjunctive = false → category ∉ seen

theorem of_check_eq_ok {seen : List Category} {joiner : Joiner} {first : Member}
    {rest : List Member} {category : Category} (h : check seen joiner first rest = .ok category) :
    (∀ member ∈ first :: rest, member.category = category) ∧
      (joiner = .single ∨ joiner = category.joiner) ∧
      (category.isConjunctive = false → category ∉ seen) := by
  simp only [check] at h
  split at h
  · cases h
  · rename_i hmixed
    have hrest : ∀ member ∈ rest, member.category = first.category := by simpa using hmixed
    split at h
    · rename_i hconj
      split at h
      · cases h
      · rename_i hor
        cases h
        refine ⟨List.forall_mem_cons.mpr ⟨rfl, hrest⟩, ?_, ?_⟩
        · cases joiner <;> simp_all [Category.joiner]
        · intro hdisj
          rw [hconj] at hdisj
          cases hdisj
    · rename_i hdisj
      split at h
      · cases h
      · rename_i hand
        split at h
        · cases h
        · rename_i hseen
          cases h
          refine ⟨List.forall_mem_cons.mpr ⟨rfl, hrest⟩, ?_, ?_⟩
          · cases joiner <;> simp_all [Category.joiner]
          · intro _
            simpa using hseen

theorem readsAs_of_readGroup {seen : List Category} {conjunct : Query} {category : Category}
    {members : List Member} (h : readGroup seen conjunct = .ok (category, members)) :
    ReadsAs seen conjunct category members := by
  simp only [readGroup] at h
  split at h
  · cases h
  · cases h
  · rename_i first rest hm
    cases hc : check seen (groupOf conjunct).1 first rest with
    | error reason =>
        rw [hc] at h
        cases h
    | ok found =>
        rw [hc] at h
        cases h
        obtain ⟨huniform, hjoiner, hfresh⟩ := of_check_eq_ok hc
        exact ⟨hm, hjoiner, List.cons_ne_nil first rest, huniform, hfresh⟩

end VaultQuery.Filter
