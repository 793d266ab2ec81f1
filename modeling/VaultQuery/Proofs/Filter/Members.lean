import VaultQuery.Filter.Reader

namespace VaultQuery.Filter

def Category.all : List Category :=
  [.vaults, .folders, .collections, .types, .fields]

theorem Category.mem_all (category : Category) : category ∈ all := by
  cases category <;> decide

theorem Category.nodup_all : all.Nodup := by decide

-- The members of one category in the order of their list.
def members (filter : Filter) : Category → List Member
  | .vaults => filter.vaults.map .vault
  | .folders => filter.folders.map .folder
  | .collections => filter.collections.map .collection
  | .types => filter.types.map .type
  | .fields => filter.fields.map .field

theorem category_of_mem {filter : Filter} {category : Category} {member : Member}
    (h : member ∈ filter.members category) : member.category = category := by
  cases category <;>
    · obtain ⟨_, _, rfl⟩ := List.mem_map.mp h
      rfl

theorem ext_members {first second : Filter}
    (h : ∀ category, first.members category = second.members category) : first = second := by
  have hv := h .vaults
  have hf := h .folders
  have hc := h .collections
  have ht := h .types
  have hn := h .fields
  simp only [members, List.map_inj_right, Member.vault.injEq, Member.folder.injEq,
    Member.collection.injEq, Member.type.injEq, Member.field.injEq, imp_self, implies_true]
    at hv hf hc ht hn
  cases first
  cases second
  simp_all

theorem members_empty (category : Category) : empty.members category = [] := by
  cases category <;> rfl

theorem members_add (filter : Filter) (member : Member) (category : Category) :
    (filter.add member).members category =
      filter.members category ++ [member].filter (·.category = category) := by
  cases member <;> cases category <;> simp [members, add, Member.category]

theorem members_foldl_add (filter : Filter) (added : List Member) (category : Category) :
    (added.foldl add filter).members category =
      filter.members category ++ added.filter (·.category = category) := by
  induction added generalizing filter with
  | nil => simp
  | cons member added ih =>
      rw [List.foldl_cons, ih, members_add, List.append_assoc, ← List.filter_append]
      rfl

-- Members of one category are added to its list and to no other.
theorem members_foldl_add_self (filter : Filter) {category : Category} {added : List Member}
    (h : ∀ member ∈ added, member.category = category) :
    (added.foldl add filter).members category = filter.members category ++ added := by
  have hall : added.filter (·.category = category) = added := by
    rw [List.filter_eq_self]
    intro member hm
    simpa using h member hm
  rw [members_foldl_add, hall]

theorem members_foldl_add_of_ne (filter : Filter) {category other : Category}
    (hne : other ≠ category) {added : List Member}
    (h : ∀ member ∈ added, member.category = category) :
    (added.foldl add filter).members other = filter.members other := by
  have hnone : added.filter (·.category = other) = [] := by
    rw [List.filter_eq_nil_iff]
    intro member hm
    simpa [h member hm] using hne.symm
  rw [members_foldl_add, hnone, List.append_nil]

theorem filter_members (filter : Filter) (category other : Category) :
    (filter.members category).filter (·.category = other) =
      if category = other then filter.members category else [] := by
  split
  · rename_i h
    rw [List.filter_eq_self]
    intro member hm
    simpa [← h] using category_of_mem hm
  · rename_i h
    rw [List.filter_eq_nil_iff]
    intro member hm
    simpa [category_of_mem hm] using h

-- The categories a filter says something about.
def present (filter : Filter) : List Category :=
  Category.all.filter fun category => !(filter.members category).isEmpty

theorem mem_present_iff (filter : Filter) (category : Category) :
    category ∈ filter.present ↔ filter.members category ≠ [] := by
  simp [present, Category.mem_all]

theorem nodup_present (filter : Filter) : filter.present.Nodup :=
  Category.nodup_all.filter _

theorem filter_flatMap_members (filter : Filter) (categories : List Category) (hn : categories.Nodup)
    (category : Category) :
    (categories.flatMap filter.members).filter (·.category = category) =
      if category ∈ categories then filter.members category else [] := by
  induction categories with
  | nil => rfl
  | cons first rest ih =>
      obtain ⟨hfirst, hrest⟩ := List.nodup_cons.mp hn
      rw [List.flatMap_cons, List.filter_append, filter_members, ih hrest]
      by_cases h : first = category
      · subst h
        simp [hfirst]
      · simp [h, Ne.symm h]

-- Adding all members of a filter to the empty one gives the filter.
theorem foldl_add_present (filter : Filter) :
    (filter.present.flatMap filter.members).foldl add .empty = filter := by
  apply ext_members
  intro category
  rw [members_foldl_add, members_empty, List.nil_append,
    filter_flatMap_members _ _ filter.nodup_present]
  by_cases h : category ∈ filter.present
  · rw [if_pos h]
  · rw [mem_present_iff, Decidable.not_not] at h
    rw [h, ite_self]

end VaultQuery.Filter
