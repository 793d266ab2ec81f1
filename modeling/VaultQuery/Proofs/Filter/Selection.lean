import VaultQuery.Proofs.Filter.Counting
import VaultQuery.Website.Builtin

namespace VaultQuery

open Vault (Item)

theorem select_eq_ok [Website.Services] {text : String} {search : Search}
    (h : Search.compile text = .ok search) (vault : Vault) (options : Options) :
    select text vault options = .ok ⟨search.query, (search.run vault options).items⟩ := by
  rw [select, h]
  rfl

namespace Filter

open Query

-- The member of the filter applies to the item. Of several entries of a reference list with one
-- name the first counts.
def Member.AppliesTo (vault : Vault) (item : Item) : Member → Prop
  | .vault none => item.organizationId = none
  | .vault (some name) =>
    ∃ organization, vault.organizations.find? (·.name == name) = some organization ∧
      item.organizationId = some organization.id
  | .folder name =>
    ∃ folder, vault.folders.find? (·.name == name) = some folder ∧ item.folderId = some folder.id
  | .collection name =>
    ∃ collection, vault.collections.find? (·.name == name) = some collection ∧
      collection.id ∈ item.collectionIds
  | .type name => Vault.Kind.ofWord? name = some item.kind
  | .field name =>
    ∃ custom ∈ item.fields, ∃ title, custom.name = some title ∧
      Text.lowercase name = Text.lowercase title

-- The filter describes the item. A list of which any entry may apply counts only if it has entries.
structure Describes (filter : Filter) (vault : Vault) (item : Item) : Prop where
  vaults : filter.vaults = [] ∨ ∃ entry ∈ filter.vaults, (Member.vault entry).AppliesTo vault item
  folders : filter.folders = [] ∨ ∃ name ∈ filter.folders, (Member.folder name).AppliesTo vault item
  collections : ∀ name ∈ filter.collections, (Member.collection name).AppliesTo vault item
  types : filter.types = [] ∨ ∃ name ∈ filter.types, (Member.type name).AppliesTo vault item
  fields : ∀ name ∈ filter.fields, (Member.field name).AppliesTo vault item

section Counts

variable [Website.Services]

theorem Member.holds_predicate_iff (options : Options) (vault : Vault) (item : Item)
    (member : Member) :
    member.predicate.holds options vault item = true ↔ member.AppliesTo vault item := by
  cases member with
  | vault entry =>
      cases entry with
      | none => simp [predicate, Predicate.holds, AppliesTo]
      | some name =>
          simp [predicate, Predicate.holds, AppliesTo, Vault.organizationId?, Option.any_eq_true]
  | folder name => simp [predicate, Predicate.holds, AppliesTo, Vault.folderId?, Option.any_eq_true]
  | collection name =>
      simp [predicate, Predicate.holds, AppliesTo, Vault.collectionId?, Option.any_eq_true]
  | type name => simp [predicate, Predicate.holds, AppliesTo, Option.any_eq_true]
  | field name =>
      simp [predicate, Predicate.holds, AppliesTo, Text.sameName, Option.any_eq_true]

variable (options : Options) (vault : Vault) (item : Item)

theorem Member.multiplicity_pos_iff (member : Member) :
    0 < member.multiplicity options vault item ↔ member.AppliesTo vault item := by
  rw [← member.holds_predicate_iff options, multiplicity]
  split <;> simp_all

theorem share_pos_iff_forall (filter : Filter) (category : Category)
    (hc : category.isConjunctive = true) :
    0 < filter.share options vault item category ↔
      ∀ member ∈ filter.members category, member.AppliesTo vault item := by
  rw [share]
  split
  · rename_i hnil
    simp [hnil]
  · rw [Category.combine, if_pos hc, List.prod_pos_iff_forall_pos_nat, List.forall_mem_map]
    simp only [Member.multiplicity_pos_iff]

theorem share_pos_iff_exists (filter : Filter) (category : Category)
    (hc : category.isConjunctive = false) :
    0 < filter.share options vault item category ↔
      filter.members category = [] ∨
        ∃ member ∈ filter.members category, member.AppliesTo vault item := by
  rw [share]
  split
  · rename_i hnil
    simp [hnil]
  · rename_i hne
    rw [Category.combine, hc, if_neg Bool.false_ne_true, List.sum_pos_iff_exists_pos_nat]
    simp [Member.multiplicity_pos_iff, hne]

-- A filter describes the items it gives at least once.
theorem describes_iff_multiplicity_pos (filter : Filter) :
    filter.Describes vault item ↔ 0 < filter.multiplicity options vault item := by
  have hshares : 0 < filter.multiplicity options vault item ↔
      ∀ category, 0 < filter.share options vault item category := by
    rw [multiplicity, List.prod_pos_iff_forall_pos_nat, List.forall_mem_map]
    exact ⟨fun h category => h category category.mem_all, fun h category _ => h category⟩
  have hv := filter.share_pos_iff_exists options vault item .vaults rfl
  have hf := filter.share_pos_iff_exists options vault item .folders rfl
  have hc := filter.share_pos_iff_forall options vault item .collections rfl
  have ht := filter.share_pos_iff_exists options vault item .types rfl
  have hn := filter.share_pos_iff_forall options vault item .fields rfl
  simp only [members, List.map_eq_nil_iff, List.mem_map, exists_exists_and_eq_and,
    forall_exists_index, and_imp, forall_apply_eq_imp_iff₂] at hv hf hc ht hn
  rw [hshares]
  constructor
  · rintro ⟨vaults, folders, collections, types, fields⟩ category
    cases category with
    | vaults => exact hv.mpr vaults
    | folders => exact hf.mpr folders
    | collections => exact hc.mpr collections
    | types => exact ht.mpr types
    | fields => exact hn.mpr fields
  · intro h
    exact ⟨hv.mp (h .vaults), hf.mp (h .folders), hc.mp (h .collections), ht.mp (h .types),
      hn.mp (h .fields)⟩

end Counts

-- No member of a filter is about addresses, so any services will do to decide this.
instance (filter : Filter) (vault : Vault) (item : Item) :
    Decidable (filter.Describes vault item) :=
  decidable_of_iff _ (filter.describes_iff_multiplicity_pos .default vault item).symm

-- The text of a filter can be run on every vault. It selects the items of the vault that the filter
-- describes, and the empty filter keeps the vault as it is.
theorem select_toText [Website.Services] (filter : Filter) (options : Options) (vault : Vault)
    (hid : vault.Identified) :
    (∃ selection, select filter.toText vault options = .ok selection ∧
      ∀ item, item ∈ selection.items ↔ item ∈ vault.items ∧ filter.Describes vault item) ∧
    select empty.toText vault options = .ok ⟨none, vault.items⟩ := by
  obtain ⟨search, hsearch, hcount⟩ := exists_search_toText filter
  refine ⟨⟨_, select_eq_ok hsearch vault options, ?_⟩, rfl⟩
  intro item
  rw [search.mem_run_iff options hid, hcount,
    filter.describes_iff_multiplicity_pos options vault item]

-- A name with quotes, a kind in lowercase, and an item that is no card.
theorem select_toText_quoted :
    let filter : Filter := ⟨[none], ["W \"1\"", "unknown"], [], ["card"], []⟩
    let card : Item := { Item.blank "a" with kind := .card, folderId := some "f" }
    let login : Item := { Item.blank "b" with folderId := some "f" }
    let vault : Vault := ⟨[login, card, card], [⟨"f", "W \"1\""⟩], [], []⟩
    vault.Identified ∧ filter.Describes vault card ∧ ¬ filter.Describes vault login ∧
      ∃ selection, select filter.toText vault .default = .ok selection ∧
        card ∈ selection.items ∧ login ∉ selection.items := by
  intro filter card login vault
  have hid : vault.Identified := by decide
  have hcard : filter.Describes vault card := by decide
  have hlogin : ¬ filter.Describes vault login := by decide
  obtain ⟨⟨selection, hselect, hmem⟩, _⟩ := select_toText filter .default vault hid
  refine ⟨hid, hcard, hlogin, selection, hselect, (hmem card).mpr ⟨by decide, hcard⟩, ?_⟩
  intro h
  exact hlogin ((hmem login).mp h).2

-- A text that is read as a filter can be run on every vault as the text of the filter can. Both
-- give the same items equally often, with deduplication or without.
theorem select_perm_of_ofText [Website.Services] (text : String) (filter : Filter)
    (h : ofText text = .ok filter) (options : Options) (vault : Vault) (hn : vault.ids.Nodup) :
    ∃ read written, select text vault options = .ok read ∧
      select filter.toText vault options = .ok written ∧ read.items.Perm written.items := by
  obtain ⟨search, hsearch, hcount⟩ := exists_search_of_ofText h
  obtain ⟨canonical, hcanonical, hcanonicalCount⟩ := exists_search_toText filter
  refine ⟨_, _, select_eq_ok hsearch vault options, select_eq_ok hcanonical vault options, ?_⟩
  apply Search.run_perm options hn
  intro item
  rw [hcount, hcanonicalCount]

-- Conjuncts out of order, in needless parentheses and repeated, and a folder that is named twice,
-- so that the item in it is given twice.
theorem select_perm_of_ofText_rearranged :
    let text := "in:collection:A ((in:folder:W OR (in:folder:W))) AND type:card (in:collection:A)"
    let filter : Filter := ⟨[], ["W", "W"], ["A", "A"], ["card"], []⟩
    let card : Item :=
      { Item.blank "a" with kind := .card, folderId := some "f", collectionIds := ["c"] }
    let vault : Vault := ⟨[Item.blank "b", card], [⟨"f", "W"⟩], [⟨"c", none, "A"⟩], []⟩
    ofText text = .ok filter ∧ vault.ids.Nodup ∧
      ∃ read written, select text vault ⟨false, .domain⟩ = .ok read ∧
        select filter.toText vault ⟨false, .domain⟩ = .ok written ∧
        read.items.Perm written.items := by
  intro text filter card vault
  have hread : ofText text = .ok filter := by decide
  have hn : vault.ids.Nodup := by decide
  exact ⟨hread, hn, select_perm_of_ofText text filter hread ⟨false, .domain⟩ vault hn⟩

end Filter

end VaultQuery
