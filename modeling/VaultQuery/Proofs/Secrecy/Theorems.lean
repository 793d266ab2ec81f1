import VaultQuery.Proofs.Evaluate.Places
import VaultQuery.Proofs.Secrecy.Redaction
import VaultQuery.Website.Builtin

namespace VaultQuery

open Vault (Item)

namespace Vault

-- A vault without its secrets.
def redact (vault : Vault) : Vault :=
  vault.narrow (vault.items.map Item.redact)

theorem length_of_redact_eq {first second : Vault} (h : first.redact = second.redact) :
    first.items.length = second.items.length := by
  have hl := congrArg (fun vault => vault.items.length) h
  simpa only [redact, narrow_items, List.length_map] using hl

-- Both vaults look names up in the same lists.
theorem narrow_of_redact_eq {first second : Vault} (h : first.redact = second.redact)
    (items : List Item) : first.narrow items = second.narrow items := by
  have hn := congrArg (fun vault => vault.narrow items) h
  simpa only [redact, narrow_narrow] using hn

theorem get_of_redact_eq {first second : Vault} (h : first.redact = second.redact)
    (place : Fin first.items.length) :
    (first.items.get place).redact =
      (second.items.get (place.cast (length_of_redact_eq h))).redact := by
  have hi : first.items.map Item.redact = second.items.map Item.redact := congrArg Vault.items h
  have hp := congrArg (fun items => items[place.val]?) hi
  have hb : place.val < second.items.length := length_of_redact_eq h ▸ place.isLt
  simpa [List.getElem?_eq_getElem hb] using hp

end Vault

namespace Query

theorem textsNamed_redact (name : String) (item : Item) :
    textsNamed name item.redact = textsNamed name item := by
  rw [textsNamed, textsNamed, item.fieldTexts_redact]

theorem sortKey_redact (field : String) (item : Item) :
    sortKey field item.redact = sortKey field item := by
  rw [sortKey, sortKey, textsNamed_redact]

theorem Predicate.holds_redact [Website.Services] (options : Options) (vault : Vault) (item : Item)
    (predicate : Predicate) :
    predicate.holds options vault item.redact = predicate.holds options vault item := by
  cases predicate with
  | term value => simp only [holds, Value.matchesItem, item.fieldTexts_redact]
  | fieldTerm title value => simp only [holds, textsNamed_redact]
  | hasUri => simp only [holds, item.uris_redact]
  | website address strategy => simp only [holds, meansWebsite, item.uris_redact]
  | field name => simp [holds, Item.redact, List.any_map, Function.comp_def]
  | hasAttachment | hasFolder | hasCollection | inFolder _ | inCollection _ | inOrganization _
  | inMyVault | inTrash | isFavorite | type _ => rfl

variable {ι : Type}

theorem id_of_redact_eq {first second : Item} (h : first.redact = second.redact) :
    first.id = second.id := by
  have hi : first.redact.id = second.redact.id := congrArg Item.id h
  exact hi

theorem sortKey_of_redact_eq (field : String) {first second : Item}
    (h : first.redact = second.redact) : sortKey field first = sortKey field second := by
  rw [← sortKey_redact field first, h, sortKey_redact]

theorem unseenPlaces_congr {look other : ι → Item} (h : ∀ place, (look place).id = (other place).id)
    (seen : List String) (given : List ι) :
    unseenPlaces look seen given = unseenPlaces other seen given := by
  induction given generalizing seen with
  | nil => rfl
  | cons place rest ih => simp only [unseenPlaces, h, ih]

-- No node of a query tells two items apart that differ in secrets alone.
theorem places_of_redact_eq [Website.Services] (options : Options) {first second : Vault}
    (hv : first.redact = second.redact) {look other : ι → Item}
    (h : ∀ place, (look place).redact = (other place).redact) (query : Query) (given : List ι) :
    places options first look query given = places options second other query given := by
  have hid : ∀ place, (look place).id = (other place).id := fun place => id_of_redact_eq (h place)
  induction query generalizing given with
  | search _ body ih => exact ih given
  | parens _ body ih => exact ih given
  | or _ left right ihl ihr =>
      simp only [places, unitePlaces, ihl, ihr, hid, unseenPlaces_congr hid]
  | and _ left right ihl ihr => simp only [places, ihl, ihr]
  | not _ body ih => simp only [places, ih, hid]
  | leaf _ clause =>
      cases clause with
      | test predicate =>
          have hp : ∀ place, predicate.holds options first (look place) =
              predicate.holds options second (other place) := by
            intro place
            calc predicate.holds options first (look place)
                = predicate.holds options first (look place).redact :=
                  (predicate.holds_redact ..).symm
              _ = predicate.holds options first (other place).redact := by rw [h place]
              _ = predicate.holds options first (other place) := predicate.holds_redact ..
              _ = predicate.holds options (first.narrow []) (other place) :=
                  (predicate.holds_narrow ..).symm
              _ = predicate.holds options (second.narrow []) (other place) := by
                  rw [Vault.narrow_of_redact_eq hv]
              _ = predicate.holds options second (other place) := predicate.holds_narrow ..
          simp only [places, hp]
      | order field direction =>
          simp only [places, sortKey_of_redact_eq field (h _)]

end Query

theorem Search.places_of_redact_eq [Website.Services] (search : Search) (options : Options)
    {first second : Vault} (h : first.redact = second.redact) :
    (search.places options first).map Fin.val = (search.places options second).map Fin.val := by
  have hl := Vault.length_of_redact_eq h
  have hall : List.finRange second.items.length =
      (List.finRange first.items.length).map (Fin.cast hl) := by
    apply List.ext_getElem <;> simp [hl]
  unfold places
  cases search.query with
  | none => simp [hall, Function.comp_def]
  | some query =>
      simp only [hall, Query.places_map, List.map_map]
      rw [Query.places_of_redact_eq options h (Vault.get_of_redact_eq h)]
      rfl

-- Two vaults that differ in secrets alone cannot be told apart by any query text: it has the same
-- fault for both, or it selects the items at the same places of both in the same order.
theorem select_of_redact_eq [Website.Services] (text : String) (options : Options)
    (first second : Vault) (h : first.redact = second.redact) :
    (∃ error, select text first options = .error error ∧
      select text second options = .error error) ∨
    (∃ search, Search.compile text = .ok search ∧
      select text first options =
        .ok ⟨search.query, (search.places options first).map first.items.get⟩ ∧
      select text second options =
        .ok ⟨search.query, (search.places options second).map second.items.get⟩ ∧
      (search.places options first).map Fin.val =
        (search.places options second).map Fin.val) := by
  unfold select
  cases Search.compile text with
  | error error => exact Or.inl ⟨error, rfl, rfl⟩
  | ok search =>
      refine Or.inr ⟨search, rfl, ?_, ?_, search.places_of_redact_eq options h⟩
      · rw [← Search.run_items]
        rfl
      · rw [← Search.run_items]
        rfl

-- The query names a password, a hidden field and a field that is linked to the password.
theorem select_of_redact_eq_password :
    let item (password hidden : String) : Item :=
      { Item.blank "a" with
        login := some ⟨some "jane", some password, none, []⟩
        fields := [⟨some "pin", some hidden, .hidden, none⟩,
          ⟨some "secret", none, .linked, some .loginPassword⟩] }
    let first : Vault := ⟨[item "hunter2" "1234", Item.blank "b"], [], [], []⟩
    let second : Vault := ⟨[item "swordfish" "0000", Item.blank "b"], [], [], []⟩
    let text := "NOT hunter2 secret:hunter2 OR pin:1234 order:password:asc"
    first ≠ second ∧ first.redact = second.redact ∧
      ((∃ error, select text first .default = .error error ∧
        select text second .default = .error error) ∨
      (∃ search, Search.compile text = .ok search ∧
        select text first .default =
          .ok ⟨search.query, (search.places .default first).map first.items.get⟩ ∧
        select text second .default =
          .ok ⟨search.query, (search.places .default second).map second.items.get⟩ ∧
        (search.places .default first).map Fin.val =
          (search.places .default second).map Fin.val)) := by
  intro item first second text
  have hne : first ≠ second := by decide
  have hr : first.redact = second.redact := by decide
  exact ⟨hne, hr, select_of_redact_eq text .default first second hr⟩

end VaultQuery
