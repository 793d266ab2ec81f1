import VaultQuery.Json.Record
import VaultQuery.Query.Value

namespace VaultQuery

-- Vaults, folders and kinds of items of which any may apply, and collections and custom fields that
-- must all apply.
structure Filter where
  -- The personal vault is written as none, an organization by its name.
  vaults : List (Option String)
  folders : List String
  collections : List String
  types : List String
  fields : List String
deriving Repr, DecidableEq

namespace Filter

open Json

def empty : Filter :=
  ⟨[], [], [], [], []⟩

def isEmpty (filter : Filter) : Bool :=
  filter.vaults.isEmpty && filter.folders.isEmpty && filter.collections.isEmpty &&
    filter.types.isEmpty && filter.fields.isEmpty

def toJson (filter : Filter) : Json :=
  .obj [("collections", Json.ofList .str filter.collections),
    ("fields", Json.ofList .str filter.fields),
    ("folders", Json.ofList .str filter.folders),
    ("types", Json.ofList .str filter.types),
    ("vaults", Json.ofList (Json.ofOption .str) filter.vaults)]

-- Reads a filter. Each of its lists may be absent.
def ofJson? (json : Json) : Option Filter := do
  let json ← json.record? ["vaults", "folders", "collections", "types", "fields"] 0
  return {
    vaults := ← json.withDefault? "vaults" [] (asList? (asOption? asString?))
    folders := ← json.withDefault? "folders" [] (asList? asString?)
    collections := ← json.withDefault? "collections" [] (asList? asString?)
    types := ← json.withDefault? "types" [] (asList? asString?)
    fields := ← json.withDefault? "fields" [] (asList? asString?) }

-- The predicates of one list in parentheses, none if the list is empty.
def group (connective : String) (predicates : List String) : List String :=
  if predicates.isEmpty then [] else ["(" ++ connective.intercalate predicates ++ ")"]

def vaultText : Option String → String
  | none => "in:my_vault"
  | some name => "in:org:" ++ Query.Value.quote name

def named (opening : String) (names : List String) : List String :=
  names.map fun name => opening ++ Query.Value.quote name

-- The query text that selects what the filter describes.
def toText (filter : Filter) : String :=
  " AND ".intercalate <|
    group " OR " (filter.vaults.map vaultText) ++
    group " OR " (named "in:folder:" filter.folders) ++
    group " AND " (named "in:collection:" filter.collections) ++
    group " OR " (named "type:" filter.types) ++
    group " AND " (named "field:" filter.fields)

end Filter

end VaultQuery
