import VaultQuery.Filter.Reader
import VaultQuery.Proofs.Filter.Spelling
import VaultQuery.Proofs.Grammar.Theorems

namespace VaultQuery

namespace Query.Grammar

open Token

-- The text is an operand up to the next end of a word, and its meaning satisfies a condition. The
-- offsets are left open, since no filter depends on them.
structure Spells (text : String) (meets : Query → Prop) : Prop where
  head : ∃ c cs, text.toList = c :: cs ∧ Text.isBlank c = false
  operand : ∀ (gap : Gap) (offset : Nat) (after : List Char), EndsWord after →
    ∃ (group : Group) (next : Nat) (query : Query),
      gap.tokens ++ scan offset 0 (text.toList ++ after) = group.tokens ++ scan next 0 after ∧
        group.tree.traverse Atom.resolve = .ok query ∧ meets query

theorem Spells.imp {text : String} {meets meets' : Query → Prop} (h : Spells text meets)
    (himp : ∀ query, meets query → meets' query) : Spells text meets' := by
  refine ⟨h.head, ?_⟩
  intro gap offset after ha
  obtain ⟨group, next, query, ht, hq, hm⟩ := h.operand gap offset after ha
  exact ⟨group, next, query, ht, hq, himp query hm⟩

theorem Spells.of_form {text : String} {atom : Atom} {clause : Clause}
    (hhead : ∃ c cs, text.toList = c :: cs ∧ Text.isBlank c = false)
    (hform : ∀ (offset : Nat) (after : List Char), EndsWord after →
      ∃ (form : AtomForm) (next : Nat),
        scan offset 0 (text.toList ++ after) = form.tokens ++ scan next 0 after ∧
          form.atom = atom)
    (hresolve : ∀ span, atom.resolve span = .ok clause) :
    Spells text (fun query => ∃ span, query = .leaf span clause) := by
  refine ⟨hhead, ?_⟩
  intro gap offset after ha
  obtain ⟨form, next, ht, rfl⟩ := hform offset after ha
  refine ⟨.atom gap form, next, .leaf form.span clause, ?_, ?_, form.span, rfl⟩
  · rw [ht, Group.tokens, List.append_assoc]
  · simp only [Group.tree, Tree.traverse, hresolve]
    rfl

-- A predicate that is called without a value.
theorem spells_flag (word : String) {clause : Clause} (hword : Plain word)
    (hresolve : ∀ span, Atom.resolve span (.call .inside ⟨word, false⟩ []) = .ok clause) :
    Spells ("in:" ++ word) (fun query => ∃ span, query = .leaf span clause) := by
  refine .of_form ⟨'i', 'n' :: ':' :: word.toList, by simp, by decide⟩ ?_ hresolve
  intro offset after ha
  rw [String.toList_append, List.append_assoc, scan_append (leads_inside _),
    scan_append (leads_plain hword ha.not_bare)]
  exact ⟨.call .inside ⟨_, rfl⟩ ⟨_, rfl⟩ [], _, rfl, rfl⟩

-- A predicate that is called with a name.
theorem spells_container (word : String) {name : String} {clause : Clause} (hword : Plain word)
    (hresolve : ∀ span, Atom.resolve span (.call .inside ⟨word, false⟩ [⟨name, true⟩]) =
      .ok clause) :
    Spells ("in:" ++ word ++ ":" ++ Value.quote name)
      (fun query => ∃ span, query = .leaf span clause) := by
  refine .of_form ⟨'i', 'n' :: ':' :: (word ++ ":" ++ Value.quote name).toList, by simp,
    by decide⟩ ?_ hresolve
  intro offset after ha
  simp only [String.toList_append, List.append_assoc]
  rw [scan_append (leads_inside _), scan_append (leads_plain hword (by simp [isBare])),
    scan_append (leads_colon _), scan_append (leads_quote name ha.not_bare)]
  refine ⟨.call .inside ⟨_, rfl⟩ ⟨_, rfl⟩ [(⟨_, rfl⟩, ⟨_, rfl⟩)], _, rfl, ?_⟩
  simp [AtomForm.atom, Qualifier.values, Token.value, unquote_quote]

-- A value that is qualified by a name.
theorem spells_pair (word : String) {name : String} {clause : Clause} (hword : Plain word)
    (hresolve : ∀ span, Atom.resolve span (.values ⟨word, false⟩ [⟨name, true⟩]) = .ok clause) :
    Spells (word ++ ":" ++ Value.quote name) (fun query => ∃ span, query = .leaf span clause) := by
  obtain ⟨c, cs, hc⟩ := List.exists_cons_of_ne_nil hword.nonempty
  have hb := (isBare_iff c).mp (List.all_eq_true.mp hword.bare c (by simp [hc]))
  refine .of_form ⟨c, cs ++ (":" ++ Value.quote name).toList, by simp [hc], hb.1⟩ ?_ hresolve
  intro offset after ha
  simp only [String.toList_append, List.append_assoc]
  rw [scan_append (leads_plain hword (by simp [isBare])), scan_append (leads_colon _),
    scan_append (leads_quote name ha.not_bare)]
  refine ⟨.values ⟨_, rfl⟩ [(⟨_, rfl⟩, ⟨_, rfl⟩)], _, rfl, ?_⟩
  simp [AtomForm.atom, Qualifier.values, Token.value, unquote_quote]

end Query.Grammar

namespace Filter

open Query Query.Grammar

namespace Member

-- How a member is written in a query.
def text : Member → String
  | .vault name => vaultText name
  | .folder name => "in:folder:" ++ Value.quote name
  | .collection name => "in:collection:" ++ Value.quote name
  | .type name => "type:" ++ Value.quote name
  | .field name => "field:" ++ Value.quote name

def IsMeantBy (member : Member) (query : Query) : Prop :=
  ∃ span clause, query = .leaf span clause ∧ ofClause? clause = some member

theorem IsMeantBy.member?_eq {member : Member} {query : Query} (h : member.IsMeantBy query) :
    member? query = some member := by
  obtain ⟨span, clause, rfl, hc⟩ := h
  exact hc

theorem spells_text (member : Member) : Spells member.text member.IsMeantBy := by
  have hleaf : ∀ clause, ofClause? clause = some member →
      ∀ query, (∃ span, query = .leaf span clause) → member.IsMeantBy query := by
    rintro clause hc query ⟨span, hq⟩
    exact ⟨span, clause, hq, hc⟩
  cases member with
  | vault name =>
      cases name with
      | none =>
          exact (spells_flag "my_vault" (by decide) fun _ => rfl).imp (hleaf _ rfl)
      | some name =>
          exact (spells_container "org" (by decide) fun _ => rfl).imp (hleaf _ rfl)
  | folder name =>
      exact (spells_container "folder" (by decide) fun _ => rfl).imp (hleaf _ rfl)
  | collection name =>
      exact (spells_container "collection" (by decide) fun _ => rfl).imp (hleaf _ rfl)
  | type name =>
      exact (spells_pair "type" (by decide) fun _ => rfl).imp (hleaf _ rfl)
  | field name =>
      exact (spells_pair "field" (by decide) fun _ => rfl).imp (hleaf _ rfl)

end Member

end Filter

end VaultQuery
