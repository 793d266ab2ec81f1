import VaultQuery.Json.Syntax
import VaultQuery.Website.Strategy

namespace VaultQuery

-- What can be tuned about the evaluation of a query.
structure Options where
  -- Whether an alternative gives each item once. Otherwise both sides are put one after the other.
  deduplicateUnions : Bool
  -- How an address without a strategy of its own is compared.
  defaultUriMatch : Website.Strategy
deriving Repr, DecidableEq

namespace Options

open Json

def default : Options :=
  ⟨true, .domain⟩

-- A strategy by its name, or by an object whose only key is its name over null.
def strategy? : Document → Option Website.Strategy
  | .string raw => (Document.string? raw).bind Website.Strategy.ofName?
  | .obj [(raw, .null)] => (Document.string? raw).bind Website.Strategy.ofName?
  | _ => none

def flag? : Document → Option Bool
  | .bool value => some value
  | _ => none

-- Options of which some are still open.
structure Draft where
  deduplicateUnions : Option Bool
  defaultUriMatch : Option Website.Strategy

def Draft.settle (draft : Draft) : Options :=
  ⟨draft.deduplicateUnions.getD default.deduplicateUnions,
    draft.defaultUriMatch.getD default.defaultUriMatch⟩

-- One more key. An option must not be set twice, and the values of other keys do not count.
def Draft.set? (draft : Draft) (key : String) (value : Document) : Option Draft :=
  if key = "deduplicateUnions" then
    if draft.deduplicateUnions.isSome then none
    else (flag? value).map fun flag => { draft with deduplicateUnions := some flag }
  else if key = "defaultUriMatch" then
    if draft.defaultUriMatch.isSome then none
    else (strategy? value).map fun strategy => { draft with defaultUriMatch := some strategy }
  else some draft

-- Options as an object, or as an array of the leading ones.
def ofDocument? : Document → Option Options
  | .obj fields => do
    let set (draft : Draft) (field : List Char × Document) : Option Draft := do
      draft.set? (← Document.string? field.1) field.2
    return (← fields.foldlM set ⟨none, none⟩).settle
  | .arr [] => some default
  | .arr [flag] => (flag? flag).map fun flag => { default with deduplicateUnions := flag }
  | .arr [flag, strategy] => do return ⟨← flag? flag, ← strategy? strategy⟩
  | _ => none

-- Reads options from JSON text.
def parse? (text : String) : Option Options :=
  (Document.read? text).bind ofDocument?

def toJson (options : Options) : Json :=
  .obj [("deduplicateUnions", .bool options.deduplicateUnions),
    ("defaultUriMatch", .str options.defaultUriMatch.name)]

end Options

end VaultQuery
