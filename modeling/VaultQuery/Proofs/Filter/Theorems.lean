import Mathlib.Data.List.TakeWhile
import VaultQuery.Proofs.Filter.Chains
import VaultQuery.Proofs.Filter.Members
import VaultQuery.Proofs.Lists

namespace VaultQuery.Filter

open Query Query.Grammar

namespace Category

def separator (category : Category) : String :=
  if category.isConjunctive then " AND " else " OR "

def node (category : Category) : Span → Query → Query → Query :=
  if category.isConjunctive then .and else .or

def joiner (category : Category) : Joiner :=
  if category.isConjunctive then .and else .or

theorem readsBack (category : Category) : ReadsBack category.separator category.node := by
  cases category with
  | vaults | folders | types => exact readsBack_or
  | collections | fields => exact readsBack_and

end Category

def groupText (filter : Filter) (category : Category) : String :=
  "(" ++ category.separator.intercalate ((filter.members category).map Member.text) ++ ")"

theorem flatMap_group (filter : Filter) (categories : List Category) :
    categories.flatMap (fun category =>
        group category.separator ((filter.members category).map Member.text)) =
      (categories.filter fun category => !(filter.members category).isEmpty).map
        filter.groupText := by
  induction categories with
  | nil => rfl
  | cons category categories ih =>
      rw [List.flatMap_cons, ih]
      cases h : (filter.members category).isEmpty <;> simp [group, groupText, h]

-- The five lists are written alike.
theorem toText_eq (filter : Filter) :
    filter.toText = " AND ".intercalate (filter.present.map filter.groupText) := by
  rw [present, ← flatMap_group]
  simp only [toText, Category.all, members, named, List.flatMap_cons, List.flatMap_nil,
    List.append_nil, List.append_assoc, List.map_map]
  rfl

example : toText ⟨[none, some "A"], [], ["\")"], [], []⟩ =
    "(in:my_vault OR in:org:\"A\") AND (in:collection:\"\\\")\")" := by rfl

theorem mapM_member? {members : List Member} {queries : List Query}
    (h : List.Forall₂ Member.IsMeantBy members queries) :
    queries.mapM member? = some members := by
  rw [mapM_eq_some_iff]
  exact (h.imp fun _ _ hm => hm.member?_eq).flip

-- One member alone is a group without a joiner, whatever the category.
theorem groupOf_parens {category : Category} (span : Span) {body : Query} {members : List Member}
    (h : Chain category.node Member.IsMeantBy body members) :
    ((groupOf (.parens span body)).1 = .single ∨
      (groupOf (.parens span body)).1 = category.joiner) ∧
      (groupOf (.parens span body)).2.mapM member? = some members := by
  cases hc : category.isConjunctive with
  | true =>
      simp only [Category.node, Category.joiner, hc, if_true] at h ⊢
      have hleaf : ∀ member query, Member.IsMeantBy member query →
          andOperands query = [query] := by
        rintro member query ⟨_, _, rfl, _⟩
        rfl
      have hm := mapM_member? (h.forall₂_operands andOperands (fun _ _ _ => rfl) hleaf)
      cases h with
      | one hone =>
          obtain ⟨_, _, rfl, _⟩ := hone
          exact ⟨.inl rfl, hm⟩
      | more span hl hr => exact ⟨.inr rfl, hm⟩
  | false =>
      simp only [Category.node, Category.joiner, hc, Bool.false_eq_true, if_false] at h ⊢
      have hleaf : ∀ member query, Member.IsMeantBy member query →
          orOperands query = [query] := by
        rintro member query ⟨_, _, rfl, _⟩
        rfl
      have hm := mapM_member? (h.forall₂_operands orOperands (fun _ _ _ => rfl) hleaf)
      cases h with
      | one hone =>
          obtain ⟨_, _, rfl, _⟩ := hone
          exact ⟨.inl rfl, hm⟩
      | more span hl hr => exact ⟨.inr rfl, hm⟩

theorem check_eq_ok {seen : List Category} {category : Category} {joiner : Joiner} {first : Member}
    {rest : List Member} (hm : ∀ member ∈ first :: rest, member.category = category)
    (hj : joiner = .single ∨ joiner = category.joiner)
    (hs : category.isConjunctive = false → category ∉ seen) :
    check seen joiner first rest = .ok category := by
  have hfirst := hm first (by simp)
  have hrest : rest.any (·.category ≠ category) = false := by
    simpa using fun member h => hm member (List.mem_cons_of_mem first h)
  simp only [check, hfirst, hrest]
  cases hc : category.isConjunctive with
  | true => rcases hj with rfl | rfl <;> simp [Category.joiner, hc]
  | false =>
      have hseen := hs hc
      rcases hj with rfl | rfl <;> simp [Category.joiner, hc, hseen]

-- A category in parentheses.
def MeansGroup (filter : Filter) (category : Category) (query : Query) : Prop :=
  ∃ span body, query = .parens span body ∧
    Chain category.node Member.IsMeantBy body (filter.members category)

theorem readGroup_eq_ok {filter : Filter} {seen : List Category} {category : Category}
    {query : Query} (h : filter.MeansGroup category query)
    (hne : filter.members category ≠ []) (hs : category ∉ seen) :
    readGroup seen query = .ok (category, filter.members category) := by
  obtain ⟨span, body, rfl, hchain⟩ := h
  obtain ⟨hj, hm⟩ := groupOf_parens span hchain
  obtain ⟨first, rest, hmembers⟩ := List.exists_cons_of_ne_nil hne
  have hcategory : ∀ member ∈ first :: rest, member.category = category := by
    intro member hm
    rw [← hmembers] at hm
    exact category_of_mem hm
  have hcheck := check_eq_ok hcategory hj (fun _ => hs)
  simp only [readGroup, hm, hmembers, hcheck]
  rfl

theorem readGroups_eq_ok {filter : Filter} (text : String) {categories : List Category}
    {queries : List Query} (h : List.Forall₂ filter.MeansGroup categories queries)
    (hne : ∀ category ∈ categories, filter.members category ≠ []) (hn : categories.Nodup)
    (seen : List Category) (hs : ∀ category ∈ categories, category ∉ seen) (start : Filter) :
    readGroups text seen start queries =
      .ok ((categories.flatMap filter.members).foldl add start) := by
  induction h generalizing seen start with
  | nil => rfl
  | @cons category query categories queries hgroup _ ih =>
      obtain ⟨hfirst, hrest⟩ := List.nodup_cons.mp hn
      have hread := readGroup_eq_ok hgroup (hne category (by simp)) (hs category (by simp))
      have hneRest : ∀ other ∈ categories, filter.members other ≠ [] := by
        intro other ho
        exact hne other (List.mem_cons_of_mem category ho)
      -- A category has only one group, so none of those to come has been seen.
      have hseen : ∀ other ∈ categories, other ∉ category :: seen := by
        intro other ho
        rw [List.mem_cons, not_or]
        refine ⟨?_, hs other (List.mem_cons_of_mem category ho)⟩
        rintro rfl
        exact hfirst ho
      simp only [readGroups, hread]
      rw [ih hneRest hrest _ hseen, List.flatMap_cons, List.foldl_append]

theorem spells_groupText {filter : Filter} {category : Category}
    (hne : filter.members category ≠ []) :
    Spells (filter.groupText category) (filter.MeansGroup category) := by
  apply category.readsBack.spells_parens hne
  intro member _
  exact member.spells_text

theorem parse_toText {filter : Filter} (hne : filter.present ≠ []) :
    ∃ span body, parse filter.toText = .ok (.search span body) ∧
      List.Forall₂ filter.MeansGroup filter.present (conjuncts body) := by
  have hspells : ∀ category ∈ filter.present,
      Spells (filter.groupText category) (filter.MeansGroup category) := by
    intro category hc
    exact spells_groupText ((mem_present_iff filter category).mp hc)
  have hends : Token.EndsWord [] := by
    intro c hc
    cases hc
  obtain ⟨body, _, query, hscan, hq, hchain⟩ :=
    readsBack_and _ _ _ filter.present hne hspells 0 [] hends
  refine ⟨query.span, query, ?_, ?_⟩
  · rw [parse_eq_ok_iff]
    refine ⟨⟨body, []⟩, query, ?_, hq, rfl⟩
    rw [tokenize, toText_eq, ← List.append_nil (String.toList _), hscan]
    rfl
  · refine hchain.forall₂_operands conjuncts (fun _ _ _ => rfl) ?_
    rintro category query ⟨_, _, rfl, _⟩
    rfl

theorem isBlankText_eq_false {text : String} {c : Char} {cs : List Char}
    (ht : text.toList = c :: cs) (hc : Text.isBlank c = false) : Text.isBlankText text = false := by
  simp [Text.isBlankText, Text.trim, Text.trimList, ht, hc]

theorem toText_head {filter : Filter} (hne : filter.present ≠ []) :
    ∃ cs, filter.toText.toList = '(' :: cs := by
  obtain ⟨first, rest, hp⟩ := List.exists_cons_of_ne_nil hne
  rw [toText_eq, hp, toList_intercalate_map, groupText]
  simp

-- Reading what a filter is written as gives the filter back, whatever its names contain.
theorem ofText_toText (filter : Filter) : ofText filter.toText = .ok filter := by
  have hfilter := filter.foldl_add_present
  by_cases hp : filter.present = []
  · -- Nothing is written, and a blank text is the empty filter.
    rw [hp, List.flatMap_nil, List.foldl_nil] at hfilter
    rw [← hfilter]
    rfl
  · obtain ⟨cs, hcs⟩ := toText_head hp
    obtain ⟨span, body, hparse, hgroups⟩ := parse_toText hp
    have hne : ∀ category ∈ filter.present, filter.members category ≠ [] := by
      intro category hc
      exact (mem_present_iff filter category).mp hc
    have hread := readGroups_eq_ok filter.toText hgroups hne filter.nodup_present []
      (fun _ _ => List.not_mem_nil) .empty
    rw [ofText, isBlankText_eq_false hcs (by decide), hparse]
    simp only [Bool.false_eq_true, if_false, unrooted]
    rw [hread, hfilter]

end VaultQuery.Filter
