import VaultQuery.Query.Matching

namespace VaultQuery.Query

open Vault (Item)

-- What an item is ordered by: its first text under the name, in lowercase.
def sortKey (field : String) (item : Item) : Option String :=
  (textsNamed field item).head?.map fun text => Text.lowercase text.value

-- Whether a key may stand before another. Missing keys stand last in either direction.
def keyLe (direction : Direction) : Option String → Option String → Bool
  | some left, some right =>
    match direction with
    | .ascending => !decide (right < left)
    | .descending => !decide (left < right)
  | some _, none => true
  | none, some _ => false
  | none, none => true

-- Items with equal keys keep their order.
def orderItems (field : String) (direction : Direction) (items : List Item) : List Item :=
  items.mergeSort fun left right => keyLe direction (sortKey field left) (sortKey field right)

-- The items whose ids are not among those seen, each id once.
def unseen (seen : List String) : List Item → List Item
  | [] => []
  | item :: items =>
    if seen.contains item.id then unseen seen items else item :: unseen (item.id :: seen) items

-- Two selections one after the other. With deduplication the second adds only items that are new.
def unite (options : Options) (left right : List Item) : List Item :=
  if options.deduplicateUnions then left ++ unseen (left.map (·.id)) right else left ++ right

-- The items of a vault that a query selects, in the order it asks for.
def evaluate [Website.Services] (options : Options) : Query → Vault → Vault
  | .search _ body, vault => evaluate options body vault
  | .parens _ body, vault => evaluate options body vault
  | .or _ left right, vault =>
    vault.narrow
      (unite options (evaluate options left vault).items (evaluate options right vault).items)
  | .and _ left right, vault => evaluate options right (evaluate options left vault)
  | .not _ body, vault =>
    let excluded := (evaluate options body vault).ids
    vault.filter fun item => !excluded.contains item.id
  | .leaf _ (.test predicate), vault => vault.filter fun item => predicate.holds options vault item
  | .leaf _ (.order field direction), vault => vault.narrow (orderItems field direction vault.items)

end VaultQuery.Query
