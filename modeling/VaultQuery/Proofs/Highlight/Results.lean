import VaultQuery.Proofs.Evaluate.Lemmas
import VaultQuery.Proofs.Highlight.Marks
import VaultQuery.Proofs.Matching.WholeTokens
import VaultQuery.Website.Builtin

namespace VaultQuery

open Vault (Item)

namespace Text

theorem infix_of_occursAligned {needle text : List Char} (h : occursAligned needle text = true) :
    needle <:+: text := by
  obtain ⟨before, after, rfl, _, _⟩ := standsApart_of_occursAligned h
  exact ⟨before, after, List.append_assoc ..⟩

end Text

-- One of the texts of the item holds the mark, once in lowercase.
def Vault.Item.Shows (mark : String) (item : Item) : Prop :=
  ∃ text ∈ item.fieldTexts, mark.toList <:+: (Text.lowercase text.value).toList

namespace Query

-- Whether some node joins alternatives.
def Tree.hasOr {α : Type} : Tree α → Bool
  | .search _ body => body.hasOr
  | .or _ _ _ => true
  | .and _ left right => left.hasOr || right.hasOr
  | .not _ body => body.hasOr
  | .parens _ body => body.hasOr
  | .leaf _ _ => false

namespace Value

-- A value with a text and no blanks at the ends of it.
structure Trimmed (value : Value) : Prop where
  nonempty : value.text ≠ ""
  trim_eq : Text.trim value.text = value.text

-- Quoted or not, a value stands in the texts it is found in.
theorem infix_of_matchesText {value : Value} {text : String} (h : value.matchesText text = true) :
    (Text.lowercase value.text).toList <:+: (Text.lowercase text).toList := by
  simp only [Text.lowercase, String.toList_ofList]
  rcases Bool.or_eq_true_iff.mp h with hempty | hfound
  · rw [List.isEmpty_iff.mp hempty]
    exact List.nil_infix
  · split at hfound
    · exact Text.infix_of_occursAligned hfound
    · exact (Text.occurs_iff _ _).mp hfound

theorem Trimmed.marked?_eq {value : Value} (h : value.Trimmed) :
    Query.marked? value.text = some (Text.lowercase value.text) := by
  have hblank : Text.isBlankText value.text = false := by
    rw [Text.isBlankText, h.trim_eq, Bool.eq_false_iff, Ne, String.isEmpty_iff]
    exact h.nonempty
  rw [Query.marked?, hblank, h.trim_eq]
  rfl

-- An item that passes the test of a term shows the term.
theorem Trimmed.shows_of_matchesItem {value : Value} (h : value.Trimmed) {item : Item}
    (hitem : value.matchesItem item = true) : item.Shows (Text.lowercase value.text) := by
  rcases Bool.or_eq_true_iff.mp hitem with hempty | hany
  · exact absurd (String.isEmpty_iff.mp hempty) h.nonempty
  · obtain ⟨text, ht, hmatch⟩ := List.any_eq_true.mp hany
    exact ⟨text, ht, infix_of_matchesText hmatch⟩

theorem shows_of_any_textsNamed {name : String} {value : Value} {item : Item}
    (hitem : ((textsNamed name item).any fun text => value.matchesText text.value) = true) :
    item.Shows (Text.lowercase value.text) := by
  obtain ⟨text, ht, hmatch⟩ := List.any_eq_true.mp hitem
  exact ⟨text, List.mem_of_mem_filter ht, infix_of_matchesText hmatch⟩

end Value

-- The query is built from terms, on any texts or under a name, by conjunctions and alternatives.
inductive TermsOnly : Query → Prop where
  | search {span : Span} {body : Query} : TermsOnly body → TermsOnly (.search span body)
  | parens {span : Span} {body : Query} : TermsOnly body → TermsOnly (.parens span body)
  | or {span : Span} {left right : Query} :
      TermsOnly left → TermsOnly right → TermsOnly (.or span left right)
  | and {span : Span} {left right : Query} :
      TermsOnly left → TermsOnly right → TermsOnly (.and span left right)
  | term {span : Span} {value : Value} :
      value.Trimmed → TermsOnly (.leaf span (.test (.term value)))
  | fieldTerm {span : Span} {field value : Value} :
      value.Trimmed → TermsOnly (.leaf span (.test (.fieldTerm field value)))

section Terms

variable {span : Span} {mark : String} {value : Value}

-- A leaf that looks for such a value has one highlight.
theorem mem_highlights_of_wanted {clause : Clause} (hwanted : clause.wanted? = some value.text)
    (h : value.Trimmed) :
    mark ∈ highlights (.leaf span clause) ↔ mark = Text.lowercase value.text := by
  simp only [mem_highlights_leaf, hwanted, Option.mem_some, exists_eq_left', h.marked?_eq,
    Option.some.injEq]
  exact eq_comm

theorem mem_highlights_term (h : value.Trimmed) :
    mark ∈ highlights (.leaf span (.test (.term value))) ↔ mark = Text.lowercase value.text :=
  mem_highlights_of_wanted rfl h

theorem mem_highlights_fieldTerm {field : Value} (h : value.Trimmed) :
    mark ∈ highlights (.leaf span (.test (.fieldTerm field value))) ↔
      mark = Text.lowercase value.text :=
  mem_highlights_of_wanted rfl h

end Terms

namespace TermsOnly

variable {options : Options} {query : Query} {vault : Vault} {item : Item}

-- The side of a disjunction that selected the item has a highlight that it shows. Of a conjunction
-- either side would do.
theorem exists_shown [Website.Services] (h : TermsOnly query)
    (hi : item ∈ (evaluate options query vault).items) :
    ∃ mark ∈ highlights query, item.Shows mark := by
  induction h generalizing vault with
  | search _ ih => simpa only [mem_highlights_search] using ih hi
  | parens _ ih => simpa only [mem_highlights_parens] using ih hi
  | or _ _ ihl ihr =>
      simp only [mem_highlights_or]
      rcases mem_of_mem_unite hi with hleft | hright
      · obtain ⟨mark, hm, hshows⟩ := ihl hleft
        exact ⟨mark, .inl hm, hshows⟩
      · obtain ⟨mark, hm, hshows⟩ := ihr hright
        exact ⟨mark, .inr hm, hshows⟩
  | and _ _ _ ihr =>
      simp only [mem_highlights_and]
      obtain ⟨mark, hm, hshows⟩ := ihr hi
      exact ⟨mark, .inr hm, hshows⟩
  | term hvalue =>
      simp only [mem_highlights_term hvalue, exists_eq_left]
      exact hvalue.shows_of_matchesItem (List.mem_filter.mp hi).2
  | fieldTerm hvalue =>
      simp only [mem_highlights_fieldTerm hvalue, exists_eq_left]
      exact Value.shows_of_any_textsNamed (List.mem_filter.mp hi).2

-- The right side of a conjunction is given what the left side has left, so its items show the
-- highlights of both.
theorem forall_shown [Website.Services] (h : TermsOnly query) (hor : query.hasOr = false)
    (hi : item ∈ (evaluate options query vault).items) :
    ∀ mark ∈ highlights query, item.Shows mark := by
  induction h generalizing vault with
  | search _ ih => simpa only [mem_highlights_search] using ih hor hi
  | parens _ ih => simpa only [mem_highlights_parens] using ih hor hi
  | or _ _ _ _ => cases hor
  | and _ _ ihl ihr =>
      obtain ⟨hleft, hright⟩ := Bool.or_eq_false_iff.mp hor
      intro mark hm
      rcases mem_highlights_and.mp hm with hm | hm
      · exact ihl hleft (mem_of_mem_evaluate hi) mark hm
      · exact ihr hright hi mark hm
  | term hvalue =>
      simp only [mem_highlights_term hvalue, forall_eq]
      exact hvalue.shows_of_matchesItem (List.mem_filter.mp hi).2
  | fieldTerm hvalue =>
      simp only [mem_highlights_fieldTerm hvalue, forall_eq]
      exact Value.shows_of_any_textsNamed (List.mem_filter.mp hi).2

end TermsOnly

-- Every item that is selected shows a highlight in one of its texts. Without alternatives it shows
-- every highlight, each in some text.
theorem evaluate_shows_highlights [Website.Services] {query : Query} (h : TermsOnly query)
    (options : Options) (vault : Vault) :
    ∀ item ∈ (evaluate options query vault).items,
      (∃ mark ∈ highlights query, item.Shows mark) ∧
      (query.hasOr = false → ∀ mark ∈ highlights query, item.Shows mark) :=
  fun _ hi => ⟨h.exists_shown hi, fun hor => h.forall_shown hor hi⟩

-- The mark of the quoted term stands in the name of the first item only. The second item was found
-- by the other alternative and shows the mark of that one.
theorem evaluate_shows_highlights_router :
    let home : Item := { Item.blank "a" with name := "Home Router", notes := some "ΟΔΟΣ 7" }
    let office : Item := { Item.blank "b" with name := "Office", notes := some "οδος" }
    let vault : Vault := ⟨[home, office], [], [], []⟩
    let router : Query := .leaf default (.test (.term ⟨"HOME router", true⟩))
    let street : Query := .leaf default (.test (.fieldTerm ⟨"Notes", false⟩ ⟨"ΟΔΟΣ", false⟩))
    let both : Query := .search default (.and default (.parens default router) street)
    let either : Query := .search default (.or default router street)
    TermsOnly both ∧ both.hasOr = false ∧
      highlights both = ["home router", "οδος"] ∧
      (evaluate .default both vault).items = [home] ∧
      (∀ mark ∈ highlights both, home.Shows mark) ∧
      TermsOnly either ∧
      (evaluate .default either vault).items = [home, office] ∧
      ∃ mark ∈ highlights either, office.Shows mark := by
  intro home office vault router street both either
  have hrouter : TermsOnly router := .term ⟨by decide, by decide⟩
  have hstreet : TermsOnly street := .fieldTerm ⟨by decide, by decide⟩
  have hboth : TermsOnly both := .search (.and (.parens hrouter) hstreet)
  have heither : TermsOnly either := .search (.or hrouter hstreet)
  have hhome : (evaluate .default both vault).items = [home] := by decide
  have hoffice : (evaluate .default either vault).items = [home, office] := by decide
  have hall := (evaluate_shows_highlights hboth .default vault home (by rw [hhome]; decide)).2
  have hsome :=
    (evaluate_shows_highlights heither .default vault office (by rw [hoffice]; decide)).1
  exact ⟨hboth, rfl, by decide, hhome, hall rfl, heither, hoffice, hsome⟩

end Query

end VaultQuery
