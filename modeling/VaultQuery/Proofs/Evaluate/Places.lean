import VaultQuery.Proofs.Evaluate.Lemmas
import VaultQuery.Search

namespace VaultQuery

namespace Query

open Vault (Item)

variable {ι κ : Type}

-- The places whose items have ids that are not among those seen, each id once.
def unseenPlaces (look : ι → Item) (seen : List String) : List ι → List ι
  | [] => []
  | place :: places =>
    if seen.contains (look place).id then unseenPlaces look seen places
    else place :: unseenPlaces look ((look place).id :: seen) places

def unitePlaces (options : Options) (look : ι → Item) (left right : List ι) : List ι :=
  if options.deduplicateUnions then
    left ++ unseenPlaces look (left.map fun place => (look place).id) right
  else left ++ right

-- The places a query selects of those given. `look` finds the item at a place, and the vault is
-- asked for its reference lists only.
def places [Website.Services] (options : Options) (vault : Vault) (look : ι → Item) :
    Query → List ι → List ι
  | .search _ body, given => places options vault look body given
  | .parens _ body, given => places options vault look body given
  | .or _ left right, given =>
    unitePlaces options look (places options vault look left given)
      (places options vault look right given)
  | .and _ left right, given =>
    places options vault look right (places options vault look left given)
  | .not _ body, given =>
    let excluded := (places options vault look body given).map fun place => (look place).id
    given.filter fun place => !excluded.contains (look place).id
  | .leaf _ (.test predicate), given =>
    given.filter fun place => predicate.holds options vault (look place)
  | .leaf _ (.order field direction), given =>
    given.mergeSort fun first second =>
      keyLe direction (sortKey field (look first)) (sortKey field (look second))

theorem map_unseenPlaces (look : ι → Item) (seen : List String) (given : List ι) :
    (unseenPlaces look seen given).map look = unseen seen (given.map look) := by
  induction given generalizing seen with
  | nil => rfl
  | cons place rest ih =>
      simp only [unseenPlaces, List.map_cons, unseen]
      split
      · exact ih seen
      · rw [List.map_cons, ih]

theorem map_unitePlaces (options : Options) (look : ι → Item) (left right : List ι) :
    (unitePlaces options look left right).map look =
      unite options (left.map look) (right.map look) := by
  unfold unitePlaces unite
  split
  · simp only [List.map_append, map_unseenPlaces, List.map_map, Function.comp_def]
  · rw [List.map_append]

-- The items at the selected places are the selected items.
theorem map_places [Website.Services] (options : Options) (vault : Vault) (look : ι → Item)
    (query : Query) (given : List ι) :
    (places options vault look query given).map look =
      (evaluate options query (vault.narrow (given.map look))).items := by
  induction query generalizing given with
  | search _ body ih => exact ih given
  | parens _ body ih => exact ih given
  | or _ left right ihl ihr =>
      simp only [places, map_unitePlaces, ihl, ihr]
      rfl
  | and _ left right ihl ihr =>
      rw [places, ihr, ihl, evaluate, evaluate_eq_narrow options left]
      rfl
  | not _ body ih =>
      have hids : (places options vault look body given).map (fun place => (look place).id) =
          (evaluate options body (vault.narrow (given.map look))).ids := by
        rw [Vault.ids, ← ih, List.map_map]
        rfl
      simp only [places, evaluate, hids, Vault.filter, Vault.narrow_items, List.filter_map,
        Function.comp_def]
  | leaf _ clause =>
      cases clause with
      | test predicate =>
          simp only [places, evaluate, Vault.filter, Vault.narrow_items, List.filter_map,
            Predicate.holds_narrow, Function.comp_def]
      | order field direction =>
          simp only [places, evaluate, orderItems, Vault.narrow_items]
          exact List.map_mergeSort fun _ _ _ _ => rfl

theorem unseenPlaces_map (look : ι → Item) (move : κ → ι) (seen : List String) (given : List κ) :
    unseenPlaces look seen (given.map move) =
      (unseenPlaces (look ∘ move) seen given).map move := by
  induction given generalizing seen with
  | nil => rfl
  | cons place rest ih =>
      simp only [unseenPlaces, List.map_cons, Function.comp_apply]
      split
      · exact ih seen
      · rw [List.map_cons, ← ih]

-- Places may be renamed, as long as each new one holds the item of the old one.
theorem places_map [Website.Services] (options : Options) (vault : Vault) (look : ι → Item)
    (move : κ → ι) (query : Query) (given : List κ) :
    places options vault look query (given.map move) =
      (places options vault (look ∘ move) query given).map move := by
  induction query generalizing given with
  | search _ body ih => exact ih given
  | parens _ body ih => exact ih given
  | or _ left right ihl ihr =>
      simp only [places, unitePlaces, ihl, ihr, List.map_map, Function.comp_def]
      split
      · rw [List.map_append, unseenPlaces_map]
        rfl
      · rw [List.map_append]
  | and _ left right ihl ihr => rw [places, ihl, ihr, places]
  | not _ body ih =>
      simp only [places, ih, List.map_map, List.filter_map, Function.comp_def]
  | leaf _ clause =>
      cases clause with
      | test predicate => simp only [places, List.filter_map, Function.comp_def]
      | order field direction =>
          simp only [places]
          symm
          apply List.map_mergeSort
          intro first _ second _
          rfl

end Query

namespace Search

-- The places of the vault that a search selects.
def places [Website.Services] (search : Search) (options : Options) (vault : Vault) :
    List (Fin vault.items.length) :=
  match search.query with
  | some query => query.places options vault vault.items.get (List.finRange _)
  | none => List.finRange _

theorem map_get_finRange (items : List Vault.Item) :
    (List.finRange items.length).map items.get = items := by
  apply List.ext_getElem <;> simp

theorem run_items [Website.Services] (search : Search) (options : Options) (vault : Vault) :
    (search.run vault options).items = (search.places options vault).map vault.items.get := by
  unfold run places
  cases search.query with
  | none => exact (map_get_finRange vault.items).symm
  | some query =>
      simp only [Query.map_places, map_get_finRange]
      rfl

end Search

end VaultQuery
