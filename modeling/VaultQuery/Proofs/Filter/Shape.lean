import VaultQuery.Proofs.Filter.Reading
import VaultQuery.Proofs.Grammar.Theorems

namespace VaultQuery.Filter

open Query

-- The members among the leaves of a query, from left to right.
def leafMembers (query : Query) : List Member :=
  query.leaves.filterMap fun leaf => Member.ofClause? leaf.2

-- A group of members of one category under the connective of the category. Parentheses may stand
-- anywhere.
inductive IsGroup (category : Category) : Query → Prop where
  | member (span : Span) {clause : Clause} {member : Member}
      (hm : Member.ofClause? clause = some member) (hc : member.category = category) :
      IsGroup category (.leaf span clause)
  | parens (span : Span) {body : Query} (hb : IsGroup category body) :
      IsGroup category (.parens span body)
  | or (span : Span) {left right : Query} (hc : category.isConjunctive = false)
      (hl : IsGroup category left) (hr : IsGroup category right) :
      IsGroup category (.or span left right)
  | and (span : Span) {left right : Query} (hc : category.isConjunctive = true)
      (hl : IsGroup category left) (hr : IsGroup category right) :
      IsGroup category (.and span left right)

-- Each conjunct is a group, and only a category all of whose members must apply may have several.
def AreGroups (conjuncts : List Query) : Prop :=
  ∃ categories : List Category, List.Forall₂ IsGroup categories conjuncts ∧
    categories.Pairwise fun first second => first = second → first.isConjunctive = true

theorem isGroup_dropParens (category : Category) (query : Query) :
    IsGroup category (dropParens query) ↔ IsGroup category query := by
  induction query with
  | parens span body ih =>
      rw [dropParens, ih]
      constructor
      · exact .parens span
      · rintro ⟨⟩
        assumption
  | _ => rfl

theorem leafMembers_dropParens (query : Query) :
    leafMembers (dropParens query) = leafMembers query := by
  induction query with
  | parens span body ih => exact ih
  | _ => rfl

theorem dropParens_ne_parens (query : Query) (span : Span) (body : Query) :
    dropParens query ≠ .parens span body := by
  induction query with
  | parens _ _ ih => exact ih
  | _ => exact nofun

theorem of_member?_eq_some {query : Query} {member : Member} (h : member? query = some member) :
    IsGroup member.category query ∧ leafMembers query = [member] := by
  rw [← isGroup_dropParens, ← leafMembers_dropParens]
  unfold member? at h
  split at h
  · rename_i span clause hleaf
    rw [hleaf]
    exact ⟨.member span h rfl, by simp [leafMembers, Tree.leaves, h]⟩
  · cases h

theorem IsGroup.of_mapM_singleton {category : Category} {query : Query} {members : List Member}
    (h : [query].mapM member? = some members)
    (hu : ∀ member ∈ members, member.category = category) :
    IsGroup category query ∧ leafMembers query = members := by
  rw [mapM_eq_some_iff, List.forall₂_cons_left_iff] at h
  obtain ⟨member, rest, hm, hrest, rfl⟩ := h
  cases hrest
  rw [← hu member (List.mem_singleton_self member)]
  exact of_member?_eq_some hm

theorem IsGroup.category_of_mem {category : Category} {query : Query} (h : IsGroup category query) :
    ∀ member ∈ leafMembers query, member.category = category := by
  induction h with
  | @member span clause member hm hc => simpa [leafMembers, Tree.leaves, hm] using hc
  | parens span hb ih => exact ih
  | or span hc hl hr ihl ihr | and span hc hl hr ihl ihr =>
      rw [leafMembers, Tree.leaves, List.filterMap_append]
      exact List.forall_mem_append.mpr ⟨ihl, ihr⟩

theorem IsGroup.leafMembers_ne_nil {category : Category} {query : Query}
    (h : IsGroup category query) : leafMembers query ≠ [] := by
  induction h with
  | @member span clause member hm hc => simp [leafMembers, Tree.leaves, hm]
  | parens span hb ih => exact ih
  | or span hc hl hr ihl ihr | and span hc hl hr ihl ihr =>
      rw [leafMembers, Tree.leaves, List.filterMap_append]
      exact List.append_ne_nil_of_left_ne_nil ihl _

-- Below its parentheses a group is one member or a chain.
theorem IsGroup.member?_or_joiner {category : Category} {query : Query}
    (h : IsGroup category query) :
    ((∃ member, member? query = some member) ∧ (groupOf query).1 = .single) ∨
      (groupOf query).1 = category.joiner := by
  have hne := dropParens_ne_parens query
  rw [← isGroup_dropParens] at h
  unfold member? groupOf
  generalize dropParens query = body at h hne
  cases h with
  | member span hm hc => exact .inl ⟨⟨_, hm⟩, rfl⟩
  | parens span hb => exact absurd rfl (hne span _)
  | or span hc hl hr => simp [Category.joiner, hc]
  | and span hc hl hr => simp [Category.joiner, hc]

theorem IsGroup.joiner {category : Category} {query : Query} (h : IsGroup category query) :
    (groupOf query).1 = .single ∨ (groupOf query).1 = category.joiner :=
  h.member?_or_joiner.imp_left And.right

namespace Category

-- The operands of a group of this category.
def operands (category : Category) : Query → List Query :=
  if category.isConjunctive then andOperands else orOperands

theorem operands_leaf (category : Category) (span : Span) (clause : Clause) :
    category.operands (.leaf span clause) = [.leaf span clause] := by
  unfold operands
  split <;> rfl

theorem operands_or {category : Category} (hc : category.isConjunctive = false) (span : Span)
    (left right : Query) :
    category.operands (.or span left right) = category.operands left ++ category.operands right := by
  simp only [operands, hc, Bool.false_eq_true, if_false, orOperands]

theorem operands_and {category : Category} (hc : category.isConjunctive = true) (span : Span)
    (left right : Query) :
    category.operands (.and span left right) =
      category.operands left ++ category.operands right := by
  simp only [operands, hc, if_true, andOperands]

-- Parentheses around a chain of the category are dropped, and any others belong to one operand.
theorem operands_parens (category : Category) (span : Span) (body : Query) :
    category.operands (.parens span body) =
      if (groupOf body).1 = category.joiner then category.operands body
      else [.parens span body] := by
  unfold operands joiner groupOf
  cases hc : category.isConjunctive
  · simp only [Bool.false_eq_true, if_false, orOperands]
    cases dropParens body <;> rfl
  · simp only [if_true, andOperands]
    cases dropParens body <;> rfl

theorem operands_ne_nil (category : Category) (query : Query) : category.operands query ≠ [] := by
  induction query with
  | or span left right ihl | and span left right ihl =>
      cases hc : category.isConjunctive <;>
        simp_all [operands, orOperands, andOperands]
  | parens span body ih =>
      rw [operands_parens]
      split
      · exact ih
      · exact List.cons_ne_nil _ _
  | _ => cases hc : category.isConjunctive <;> simp [operands, hc, orOperands, andOperands]

end Category

theorem mapM_member?_append {first second : List Query} {members : List Member} :
    (first ++ second).mapM member? = some members ↔
      ∃ before after, first.mapM member? = some before ∧ second.mapM member? = some after ∧
        members = before ++ after := by
  rw [List.mapM_append]
  simp only [Option.bind_eq_bind, Option.bind_eq_some_iff, Option.pure_def, Option.some.injEq]
  constructor
  · rintro ⟨before, hb, after, ha, rfl⟩
    exact ⟨before, after, hb, ha, rfl⟩
  · rintro ⟨before, after, hb, ha, rfl⟩
    exact ⟨before, hb, after, ha, rfl⟩

-- The operands of a group are its members.
theorem IsGroup.mapM_operands {category : Category} {query : Query} (h : IsGroup category query) :
    (category.operands query).mapM member? = some (leafMembers query) := by
  have hone : ∀ (operand : Query) {member : Member}, member? operand = some member →
      [operand].mapM member? = some (leafMembers operand) := by
    intro operand member hm
    simp [hm, (of_member?_eq_some hm).2]
  induction h with
  | @member span clause member hm hc =>
      rw [category.operands_leaf]
      exact hone (.leaf span clause) hm
  | @parens span body hb ih =>
      rw [category.operands_parens]
      split
      · exact ih
      · rename_i hj
        obtain ⟨⟨member, hm⟩, _⟩ := hb.member?_or_joiner.resolve_right hj
        exact hone (.parens span body) hm
  | or span hc hl hr ihl ihr =>
      rw [Category.operands_or hc, mapM_member?_append]
      exact ⟨_, _, ihl, ihr, List.filterMap_append⟩
  | and span hc hl hr ihl ihr =>
      rw [Category.operands_and hc, mapM_member?_append]
      exact ⟨_, _, ihl, ihr, List.filterMap_append⟩

theorem IsGroup.of_mapM_operands {category : Category} {query : Query} {members : List Member}
    (h : (category.operands query).mapM member? = some members)
    (hu : ∀ member ∈ members, member.category = category) :
    IsGroup category query ∧ leafMembers query = members := by
  induction query generalizing members with
  | or span left right ihl ihr =>
      cases hc : category.isConjunctive with
      | true =>
          rw [Category.operands, hc] at h
          exact IsGroup.of_mapM_singleton h hu
      | false =>
          rw [Category.operands_or hc, mapM_member?_append] at h
          obtain ⟨before, after, hb, ha, rfl⟩ := h
          obtain ⟨hleft, hright⟩ := List.forall_mem_append.mp hu
          obtain ⟨hl, rfl⟩ := ihl hb hleft
          obtain ⟨hr, rfl⟩ := ihr ha hright
          exact ⟨.or span hc hl hr, List.filterMap_append⟩
  | and span left right ihl ihr =>
      cases hc : category.isConjunctive with
      | true =>
          rw [Category.operands_and hc, mapM_member?_append] at h
          obtain ⟨before, after, hb, ha, rfl⟩ := h
          obtain ⟨hleft, hright⟩ := List.forall_mem_append.mp hu
          obtain ⟨hl, rfl⟩ := ihl hb hleft
          obtain ⟨hr, rfl⟩ := ihr ha hright
          exact ⟨.and span hc hl hr, List.filterMap_append⟩
      | false =>
          rw [Category.operands, hc] at h
          exact IsGroup.of_mapM_singleton h hu
  | parens span body ih =>
      rw [category.operands_parens] at h
      split at h
      · obtain ⟨hb, rfl⟩ := ih h hu
        exact ⟨.parens span hb, rfl⟩
      · exact IsGroup.of_mapM_singleton h hu
  | search span body | not span body | leaf span clause =>
      cases hc : category.isConjunctive <;>
        · rw [Category.operands, hc] at h
          exact IsGroup.of_mapM_singleton h hu

-- Once parentheses are dropped, a group is taken apart as its category asks for.
theorem groupOf_operands {category : Category} {query : Query}
    (hj : (groupOf query).1 = .single ∨ (groupOf query).1 = category.joiner) :
    (groupOf query).2 = category.operands (dropParens query) := by
  have hne := dropParens_ne_parens query
  unfold groupOf at hj ⊢
  unfold Category.joiner at hj
  unfold Category.operands
  generalize dropParens query = body at hj hne ⊢
  cases body with
  | parens span inner => exact absurd rfl (hne span inner)
  | or span left right | and span left right =>
      cases hc : category.isConjunctive <;> simp_all
  | search span inner | not span inner | leaf span clause => cases category.isConjunctive <;> rfl

-- A group is read if it is one of its category, and one that may be read only once is new.
theorem readGroup_eq_ok_iff {seen : List Category} {conjunct : Query} {category : Category}
    {members : List Member} :
    readGroup seen conjunct = .ok (category, members) ↔
      IsGroup category conjunct ∧ leafMembers conjunct = members ∧
        (category.isConjunctive = false → category ∉ seen) := by
  constructor
  · intro h
    have hread := readsAs_of_readGroup h
    have hoperands := hread.operands
    rw [groupOf_operands hread.joiner] at hoperands
    obtain ⟨hgroup, hmembers⟩ := IsGroup.of_mapM_operands hoperands hread.uniform
    rw [isGroup_dropParens] at hgroup
    rw [leafMembers_dropParens] at hmembers
    exact ⟨hgroup, hmembers, hread.fresh⟩
  · rintro ⟨hgroup, rfl, hfresh⟩
    have hjoiner := hgroup.joiner
    have hoperands := ((isGroup_dropParens category conjunct).mpr hgroup).mapM_operands
    rw [← groupOf_operands hjoiner, leafMembers_dropParens] at hoperands
    obtain ⟨first, rest, hmembers⟩ := List.exists_cons_of_ne_nil hgroup.leafMembers_ne_nil
    have hcheck : check seen (groupOf conjunct).1 first rest = .ok category := by
      apply check_eq_ok _ hjoiner hfresh
      rw [← hmembers]
      exact hgroup.category_of_mem
    simp only [readGroup, hoperands, hmembers, hcheck]
    rfl

theorem groupOf_ne_nil (query : Query) : (groupOf query).2 ≠ [] := by
  unfold groupOf
  split
  · exact Category.operands_ne_nil .vaults _
  · exact Category.operands_ne_nil .collections _
  · exact List.cons_ne_nil _ _

theorem check_ne_emptyGroup (seen : List Category) (joiner : Joiner) (first : Member)
    (rest : List Member) : check seen joiner first rest ≠ .error .emptyGroup := by
  intro h
  simp only [check] at h
  repeat' split at h
  all_goals cases h

-- A group has at least one operand, so it has a member or something that is no member.
theorem readGroup_ne_emptyGroup (seen : List Category) (conjunct : Query) :
    readGroup seen conjunct ≠ .error .emptyGroup := by
  intro h
  simp only [readGroup] at h
  split at h
  · cases h
  · rename_i hm
    rw [mapM_eq_some_iff, List.forall₂_nil_right_iff] at hm
    exact groupOf_ne_nil conjunct hm
  · rename_i first rest hm
    cases hc : check seen (groupOf conjunct).1 first rest with
    | error reason =>
        rw [hc] at h
        cases h
        exact check_ne_emptyGroup seen _ first rest hc
    | ok category =>
        rw [hc] at h
        cases h

-- What can be read once groups of the seen categories have been.
def Fit (seen : List Category) (conjuncts : List Query) : Prop :=
  ∃ categories : List Category, List.Forall₂ IsGroup categories conjuncts ∧
    (categories.Pairwise fun first second => first = second → first.isConjunctive = true) ∧
    ∀ category ∈ categories, category.isConjunctive = false → category ∉ seen

theorem fit_nil_iff (conjuncts : List Query) : Fit [] conjuncts ↔ AreGroups conjuncts := by
  simp only [Fit, AreGroups, List.not_mem_nil, not_false_eq_true, implies_true, and_true]

theorem fit_nil (seen : List Category) : Fit seen [] :=
  ⟨[], .nil, .nil, nofun⟩

theorem fit_cons_iff {seen : List Category} {conjunct : Query} {rest : List Query} :
    Fit seen (conjunct :: rest) ↔
      ∃ category, IsGroup category conjunct ∧
        (category.isConjunctive = false → category ∉ seen) ∧ Fit (category :: seen) rest := by
  constructor
  · rintro ⟨_, hgroups, hdistinct, hfresh⟩
    obtain ⟨category, categories, hgroup, hrest, rfl⟩ := List.forall₂_cons_right_iff.mp hgroups
    obtain ⟨hfirst, hothers⟩ := List.pairwise_cons.mp hdistinct
    obtain ⟨hnew, hfresh⟩ := List.forall_mem_cons.mp hfresh
    refine ⟨category, hgroup, hnew, categories, hrest, hothers, ?_⟩
    intro other ho hc
    rw [List.mem_cons, not_or]
    refine ⟨?_, hfresh other ho hc⟩
    rintro rfl
    simp [hfirst other ho rfl] at hc
  · rintro ⟨category, hgroup, hnew, categories, hrest, hothers, hfresh⟩
    refine ⟨category :: categories, .cons hgroup hrest, List.pairwise_cons.mpr ⟨?_, hothers⟩,
      List.forall_mem_cons.mpr ⟨hnew, ?_⟩⟩
    · rintro _ ho rfl
      by_contra hc
      exact hfresh category ho (by simpa using hc) List.mem_cons_self
    · intro other ho hc
      exact fun hs => hfresh other ho hc (List.mem_cons_of_mem category hs)

theorem fit_cons_of_readGroup {seen : List Category} {conjunct : Query} {category : Category}
    {members : List Member} (h : readGroup seen conjunct = .ok (category, members))
    (rest : List Query) : Fit seen (conjunct :: rest) ↔ Fit (category :: seen) rest := by
  rw [fit_cons_iff]
  constructor
  · rintro ⟨other, hgroup, hnew, hrest⟩
    rw [readGroup_eq_ok_iff.mpr ⟨hgroup, rfl, hnew⟩] at h
    cases h
    exact hrest
  · intro hrest
    obtain ⟨hgroup, _, hnew⟩ := readGroup_eq_ok_iff.mp h
    exact ⟨category, hgroup, hnew, hrest⟩

theorem not_fit_of_readGroup {seen : List Category} {conjunct : Query} {reason : Reason}
    (h : readGroup seen conjunct = .error reason) (rest : List Query) :
    ¬ Fit seen (conjunct :: rest) := by
  rw [fit_cons_iff]
  rintro ⟨category, hgroup, hnew, _⟩
  rw [readGroup_eq_ok_iff.mpr ⟨hgroup, rfl, hnew⟩] at h
  cases h

theorem readGroups_eq_ok_iff {text : String} {seen : List Category} {start filter : Filter}
    {groups : List Query} :
    readGroups text seen start groups = .ok filter ↔
      Fit seen groups ∧ (groups.flatMap leafMembers).foldl add start = filter := by
  induction groups generalizing seen start with
  | nil => simp [readGroups, fit_nil]
  | cons conjunct rest ih =>
      rw [readGroups]
      split
      · rename_i reason hread
        simp [not_fit_of_readGroup hread rest]
      · rename_i category members hread
        rw [ih, fit_cons_of_readGroup hread rest, List.flatMap_cons, List.foldl_append,
          (readGroup_eq_ok_iff.mp hread).2.1]

-- The groups before the one that is reported are read, and it is the first that does not fit.
theorem of_readGroups_eq_error {text : String} {seen : List Category} {start : Filter}
    {groups : List Query} {error : TextError}
    (h : readGroups text seen start groups = .error error) :
    ∃ reason before conjunct after, groups = before ++ conjunct :: after ∧
      Fit seen before ∧ ¬ Fit seen (before ++ [conjunct]) ∧ reason ≠ Reason.emptyGroup ∧
      error = .notFilter reason (conjunct.span.slice text) := by
  induction groups generalizing seen start with
  | nil => cases h
  | cons first rest ih =>
      rw [readGroups] at h
      split at h
      · rename_i reason hread
        cases h
        refine ⟨reason, [], first, rest, rfl, fit_nil seen, not_fit_of_readGroup hread [], ?_, rfl⟩
        rintro rfl
        exact readGroup_ne_emptyGroup seen first hread
      · rename_i category members hread
        obtain ⟨reason, before, conjunct, after, rfl, hbefore, hnot, hreason, herror⟩ := ih h
        refine ⟨reason, first :: before, conjunct, after, rfl, ?_, ?_, hreason, herror⟩
        · rwa [fit_cons_of_readGroup hread]
        · rwa [List.cons_append, fit_cons_of_readGroup hread]

theorem leafMembers_conjuncts (query : Query) :
    (conjuncts query).flatMap leafMembers = leafMembers query := by
  induction query with
  | and span left right ihl ihr =>
      rw [conjuncts, List.flatMap_append, ihl, ihr]
      exact List.filterMap_append.symm
  | _ => exact List.flatMap_singleton leafMembers _

theorem leafMembers_unrooted (query : Query) :
    leafMembers (unrooted query) = leafMembers query := by
  cases query <;> rfl

-- Blank text is the empty filter and a text that is no query keeps its error. A query is a filter if
-- and only if its conjuncts are groups, and then each list of the filter has the members of its
-- category in the order of the text. Otherwise the first conjunct that does not fit is quoted, and
-- it is never for want of members.
theorem ofText_conjuncts (text : String) :
    (Text.isBlankText text = true → ofText text = .ok .empty) ∧
    (∀ error, Text.isBlankText text = false → Query.parse text = .error error →
      ofText text = .error (.syntaxError error)) ∧
    (∀ query, Text.isBlankText text = false → Query.parse text = .ok query →
      ((∃ filter, ofText text = .ok filter) ↔ AreGroups (conjuncts (unrooted query))) ∧
      (∀ filter, ofText text = .ok filter → ∀ category,
        filter.members category = (leafMembers query).filter (·.category = category)) ∧
      (∀ error, ofText text = .error error →
        ∃ reason before conjunct after,
          conjuncts (unrooted query) = before ++ conjunct :: after ∧
          AreGroups before ∧ ¬ AreGroups (before ++ [conjunct]) ∧ reason ≠ Reason.emptyGroup ∧
          error = .notFilter reason (conjunct.span.slice text))) := by
  refine ⟨?_, ?_, ?_⟩
  · intro hb
    rw [ofText, if_pos hb]
  · intro error hb hparse
    rw [ofText, hb, hparse]
    rfl
  · intro query hb hparse
    have htext : ofText text = readGroups text [] .empty (conjuncts (unrooted query)) := by
      rw [ofText, hb, hparse]
      rfl
    simp only [htext, ← fit_nil_iff]
    refine ⟨?_, ?_, fun error => of_readGroups_eq_error⟩
    · simp only [readGroups_eq_ok_iff, exists_and_left, exists_eq', and_true]
    · intro filter hfilter category
      obtain ⟨_, rfl⟩ := readGroups_eq_ok_iff.mp hfilter
      rw [members_foldl_add, members_empty, List.nil_append, leafMembers_conjuncts,
        leafMembers_unrooted]

end VaultQuery.Filter
