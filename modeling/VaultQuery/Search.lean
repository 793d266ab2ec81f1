import VaultQuery.Query.Evaluate
import VaultQuery.Query.Highlight

namespace VaultQuery

-- A query text and what it means. A blank text means nothing and keeps every item.
structure Search where
  text : String
  query : Option Query
deriving Repr, DecidableEq

namespace Search

def compile (text : String) : Except Query.SyntaxError Search :=
  if Text.isBlankText text then .ok ⟨text, none⟩
  else (Query.parse text).map fun query => ⟨text, some query⟩

def isEmpty (search : Search) : Bool :=
  search.query.isNone

def highlights (search : Search) : List String :=
  match search.query with
  | some query => query.highlights
  | none => []

def run [Website.Services] (search : Search) (vault : Vault) (options : Options) : Vault :=
  match search.query with
  | some query => query.evaluate options vault
  | none => vault

end Search

-- The items a query text selects, with what the text means.
structure Selection where
  query : Option Query
  items : List Vault.Item
deriving Repr, DecidableEq

-- Reads a query text and runs it on a whole vault.
def select [Website.Services] (text : String) (vault : Vault) (options : Options) :
    Except Query.SyntaxError Selection :=
  (Search.compile text).map fun search => ⟨search.query, (search.run vault options).items⟩

end VaultQuery
