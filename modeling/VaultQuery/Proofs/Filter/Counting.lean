import Mathlib.Algebra.BigOperators.Group.List.Basic
import Mathlib.Algebra.GroupWithZero.Nat
import VaultQuery.Proofs.Evaluate.Multiplicity
import VaultQuery.Proofs.Filter.Reading

namespace VaultQuery.Filter

open Query Query.Grammar
open Vault (Item)

-- The test a member asks for.
def Member.predicate : Member → Predicate
  | .vault none => .inMyVault
  | .vault (some name) => .inOrganization name
  | .folder name => .inFolder name
  | .collection name => .inCollection name
  | .type name => .type name
  | .field name => .field name

theorem Member.eq_of_ofClause? {clause : Clause} {member : Member}
    (h : ofClause? clause = some member) : clause = .test member.predicate := by
  cases clause with
  | order field direction => cases h
  | test predicate => cases predicate <;> cases h <;> rfl

-- How often a group gives an item, from how often each of its operands does.
def Category.combine (category : Category) (counts : List Nat) : Nat :=
  if category.isConjunctive then counts.prod else counts.sum

theorem Category.combine_singleton (category : Category) (count : Nat) :
    category.combine [count] = count := by
  cases category <;> simp [combine, isConjunctive]

variable [Website.Services] (options : Options) (vault : Vault) (item : Item)

def Member.multiplicity (member : Member) : Nat :=
  if member.predicate.holds options vault item then 1 else 0

-- How often the members of one category give an item. A category without members gives every item.
def share (filter : Filter) (category : Category) : Nat :=
  if filter.members category = [] then 1
  else category.combine ((filter.members category).map (Member.multiplicity options vault item))

def multiplicity (filter : Filter) : Nat :=
  (Category.all.map (filter.share options vault item)).prod

theorem multiplicity_empty : empty.multiplicity options vault item = 1 := by
  have hshare : ∀ category, empty.share options vault item category = 1 := by
    intro category
    rw [share, if_pos (members_empty category)]
  simp [multiplicity, Category.all, hshare]

-- The categories without members may be left out.
theorem prod_present (filter : Filter) :
    (filter.present.map (filter.share options vault item)).prod =
      filter.multiplicity options vault item := by
  rw [multiplicity, present]
  induction Category.all with
  | nil => rfl
  | cons category rest ih =>
      rw [List.map_cons, List.prod_cons, ← ih]
      cases hm : filter.members category with
      | nil => simp [share, hm]
      | cons first others => simp [hm]

section Operands

variable {options vault item}

theorem multiplicity_dropParens (query : Query) :
    (dropParens query).multiplicity options vault item = query.multiplicity options vault item := by
  induction query with
  | parens span body ih => exact ih
  | _ => rfl

theorem multiplicity_of_member? {query : Query} {member : Member}
    (h : member? query = some member) :
    query.multiplicity options vault item = member.multiplicity options vault item := by
  rw [← multiplicity_dropParens]
  unfold member? at h
  split at h
  · rename_i span clause hleaf
    rw [hleaf, Member.eq_of_ofClause? h]
    rfl
  · cases h

theorem map_multiplicity_of_mapM {operands : List Query} {members : List Member}
    (h : operands.mapM member? = some members) :
    operands.map (Query.multiplicity options vault item) =
      members.map (Member.multiplicity options vault item) := by
  rw [mapM_eq_some_iff] at h
  induction h with
  | nil => rfl
  | cons hm _ ih => rw [List.map_cons, List.map_cons, multiplicity_of_member? hm, ih]

theorem prod_conjuncts (query : Query) :
    ((conjuncts query).map (Query.multiplicity options vault item)).prod =
      query.multiplicity options vault item := by
  induction query with
  | and span left right ihl ihr =>
      rw [conjuncts, List.map_append, List.prod_append, ihl, ihr, Query.multiplicity]
  | _ => exact List.prod_singleton

theorem prod_andOperands (query : Query) :
    ((andOperands query).map (Query.multiplicity options vault item)).prod =
      query.multiplicity options vault item := by
  induction query with
  | and span left right ihl ihr =>
      rw [andOperands, List.map_append, List.prod_append, ihl, ihr, Query.multiplicity]
  | parens span body ih =>
      rw [andOperands]
      split
      · exact ih
      · exact List.prod_singleton
  | _ => exact List.prod_singleton

theorem sum_orOperands (query : Query) :
    ((orOperands query).map (Query.multiplicity options vault item)).sum =
      query.multiplicity options vault item := by
  induction query with
  | or span left right ihl ihr =>
      rw [orOperands, List.map_append, List.sum_append, ihl, ihr, Query.multiplicity]
  | parens span body ih =>
      rw [orOperands]
      split
      · exact ih
      · exact List.sum_singleton
  | _ => exact List.sum_singleton

-- A group counts as its category does when it has the joiner of the category or only one operand.
theorem multiplicity_groupOf {category : Category} (query : Query)
    (hj : (groupOf query).1 = .single ∨ (groupOf query).1 = category.joiner) :
    query.multiplicity options vault item =
      category.combine ((groupOf query).2.map (Query.multiplicity options vault item)) := by
  rw [← multiplicity_dropParens]
  unfold groupOf at hj ⊢
  split
  · rename_i span left right hor
    have hc : category.isConjunctive = false := by
      cases category <;> simp_all [Category.joiner, Category.isConjunctive]
    rw [hor, Category.combine, hc, if_neg Bool.false_ne_true, sum_orOperands]
  · rename_i span left right hand
    have hc : category.isConjunctive = true := by
      cases category <;> simp_all [Category.joiner, Category.isConjunctive]
    rw [hand, Category.combine, if_pos hc, prod_andOperands]
  · rw [List.map_singleton, category.combine_singleton]

end Operands

variable {options vault item}

theorem ReadsAs.multiplicity_eq {seen : List Category} {conjunct : Query} {category : Category}
    {members : List Member} (h : ReadsAs seen conjunct category members) :
    conjunct.multiplicity options vault item =
      category.combine (members.map (Member.multiplicity options vault item)) := by
  rw [multiplicity_groupOf conjunct h.joiner, map_multiplicity_of_mapM h.operands]

-- More members of a conjunctive category are more conditions. Any other category has no members
-- yet.
theorem share_foldl_add (filter : Filter) {category : Category} {members : List Member}
    (hm : ∀ member ∈ members, member.category = category) (hne : members ≠ [])
    (hempty : category.isConjunctive = false → filter.members category = []) :
    (members.foldl add filter).share options vault item category =
      filter.share options vault item category *
        category.combine (members.map (Member.multiplicity options vault item)) := by
  rw [share, members_foldl_add_self filter hm, if_neg (by simp [hne])]
  cases hc : category.isConjunctive with
  | false =>
      rw [share, hempty hc, if_pos rfl, List.nil_append, Nat.one_mul]
  | true =>
      rw [List.map_append, share]
      split
      · rename_i hnil
        rw [hnil, List.map_nil, List.nil_append, Nat.one_mul]
      · simp only [Category.combine, hc, if_true, List.prod_append]

-- A group that is read multiplies the count of the filter by its own.
theorem ReadsAs.multiplicity_foldl_add {seen : List Category} {conjunct : Query}
    {category : Category} {members : List Member} (h : ReadsAs seen conjunct category members)
    {filter : Filter} (hs : ∀ other, filter.members other ≠ [] → other ∈ seen) :
    (members.foldl add filter).multiplicity options vault item =
      filter.multiplicity options vault item * conjunct.multiplicity options vault item := by
  have hempty : category.isConjunctive = false → filter.members category = [] := by
    intro hc
    by_contra hne
    exact h.fresh hc (hs category hne)
  have hothers : ((Category.all.erase category).map
      ((members.foldl add filter).share options vault item)) =
      (Category.all.erase category).map (filter.share options vault item) := by
    apply List.map_congr_left
    intro other ho
    have hne := (Category.nodup_all.mem_erase_iff.mp ho).1
    rw [share, share, members_foldl_add_of_ne filter hne h.uniform]
  have hmem := category.mem_all
  rw [multiplicity, multiplicity, ← List.prod_map_erase _ hmem, ← List.prod_map_erase _ hmem,
    hothers, share_foldl_add filter h.uniform h.nonempty hempty, h.multiplicity_eq]
  ac_rfl

-- Every category that has members so far has been seen, so a disjunctive one is read only once.
theorem multiplicity_readGroups {text : String} {seen : List Category} {start filter : Filter}
    {groups : List Query} (h : readGroups text seen start groups = .ok filter)
    (hs : ∀ category, start.members category ≠ [] → category ∈ seen) :
    filter.multiplicity options vault item =
      start.multiplicity options vault item *
        (groups.map (Query.multiplicity options vault item)).prod := by
  induction groups generalizing seen start with
  | nil =>
      cases h
      rw [List.map_nil, List.prod_nil, Nat.mul_one]
  | cons conjunct rest ih =>
      rw [readGroups] at h
      split at h
      · cases h
      · rename_i category members hread
        have hgroup := readsAs_of_readGroup hread
        have hseen : ∀ other, (members.foldl add start).members other ≠ [] →
            other ∈ category :: seen := by
          intro other hne
          by_cases ho : other = category
          · exact List.mem_cons.mpr (Or.inl ho)
          · rw [members_foldl_add_of_ne start ho hgroup.uniform] at hne
            exact List.mem_cons_of_mem category (hs other hne)
        rw [ih h hseen, hgroup.multiplicity_foldl_add hs, List.map_cons, List.prod_cons,
          Nat.mul_assoc]

theorem MeansGroup.multiplicity_eq {filter : Filter} {category : Category} {query : Query}
    (h : filter.MeansGroup category query) (hne : filter.members category ≠ []) :
    query.multiplicity options vault item = filter.share options vault item category := by
  have hread := readGroup_eq_ok h hne List.not_mem_nil
  rw [(readsAs_of_readGroup hread).multiplicity_eq, share, if_neg hne]

theorem map_multiplicity_of_meansGroup {filter : Filter} {categories : List Category}
    {queries : List Query} (h : List.Forall₂ filter.MeansGroup categories queries)
    (hne : ∀ category ∈ categories, filter.members category ≠ []) :
    queries.map (Query.multiplicity options vault item) =
      categories.map (filter.share options vault item) := by
  induction h with
  | nil => rfl
  | cons hgroup _ ih =>
      obtain ⟨hfirst, hrest⟩ := List.forall_mem_cons.mp hne
      rw [List.map_cons, List.map_cons, hgroup.multiplicity_eq hfirst, ih hrest]

theorem multiplicity_unrooted (query : Query) :
    (unrooted query).multiplicity options vault item = query.multiplicity options vault item := by
  cases query <;> rfl

end VaultQuery.Filter

namespace VaultQuery

theorem Search.compile_of_parse {text : String} {query : Query}
    (hb : Text.isBlankText text = false) (h : Query.parse text = .ok query) :
    Search.compile text = .ok ⟨text, some query⟩ := by
  rw [compile, hb, h]
  rfl

namespace Filter

open Query

-- A text that is read as a filter gives every item as often as the filter does.
theorem exists_search_of_ofText [Website.Services] {text : String} {filter : Filter}
    (h : ofText text = .ok filter) :
    ∃ search, Search.compile text = .ok search ∧
      ∀ options vault item,
        search.multiplicity options vault item = filter.multiplicity options vault item := by
  unfold ofText at h
  split at h
  · rename_i hb
    cases h
    refine ⟨⟨text, none⟩, by rw [Search.compile, if_pos hb], ?_⟩
    intro options vault item
    exact (multiplicity_empty options vault item).symm
  · rename_i hb
    split at h
    · cases h
    · rename_i query hparse
      refine ⟨⟨text, some query⟩, Search.compile_of_parse (by simpa using hb) hparse, ?_⟩
      intro options vault item
      have hnone : ∀ category, empty.members category ≠ [] → category ∈ ([] : List Category) :=
        fun category hne => absurd (members_empty category) hne
      rw [multiplicity_readGroups h hnone, multiplicity_empty, Nat.one_mul, prod_conjuncts,
        multiplicity_unrooted]
      rfl

-- So does the text a filter is written as.
theorem exists_search_toText [Website.Services] (filter : Filter) :
    ∃ search, Search.compile filter.toText = .ok search ∧
      ∀ options vault item,
        search.multiplicity options vault item = filter.multiplicity options vault item := by
  by_cases hp : filter.present = []
  · have hfilter := filter.foldl_add_present
    rw [hp, List.flatMap_nil, List.foldl_nil] at hfilter
    subst hfilter
    refine ⟨⟨empty.toText, none⟩, rfl, ?_⟩
    intro options vault item
    exact (multiplicity_empty options vault item).symm
  · obtain ⟨cs, hcs⟩ := toText_head hp
    obtain ⟨span, body, hparse, hgroups⟩ := parse_toText hp
    have hb := isBlankText_eq_false hcs (by decide)
    refine ⟨_, Search.compile_of_parse hb hparse, ?_⟩
    intro options vault item
    have hne : ∀ category ∈ filter.present, filter.members category ≠ [] := by
      intro category hc
      exact (mem_present_iff filter category).mp hc
    calc Query.multiplicity options vault item (.search span body)
        = ((conjuncts body).map (Query.multiplicity options vault item)).prod :=
          (prod_conjuncts body).symm
      _ = (filter.present.map (filter.share options vault item)).prod := by
          rw [map_multiplicity_of_meansGroup hgroups hne]
      _ = filter.multiplicity options vault item := prod_present options vault item filter

end Filter

end VaultQuery
