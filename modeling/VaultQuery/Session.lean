import VaultQuery.Search
import VaultQuery.Website.Builtin

namespace VaultQuery

-- The last text that was a query stays in charge until the next.
structure Session where
  active : Option Search
  lastError : Option Query.SyntaxError
deriving Repr, DecidableEq

namespace Session

-- What an edit has led to.
inductive Outcome where
  | valid
  | cleared
  | invalid (error : Query.SyntaxError)
deriving Repr, DecidableEq

def empty : Session :=
  ⟨none, none⟩

-- Takes the text after an edit.
def update (session : Session) (text : String) : Session × Outcome :=
  match Search.compile text with
  | .ok search =>
    if search.isEmpty then (⟨none, none⟩, .cleared) else (⟨some search, none⟩, .valid)
  | .error error => ({ session with lastError := some error }, .invalid error)

def highlights (session : Session) : List String :=
  match session.active with
  | some search => search.highlights
  | none => []

-- Runs the active query, or selects everything if there is none.
def select [Website.Services] (session : Session) (vault : Vault) (options : Options) : Selection :=
  match session.active with
  | some search => ⟨search.query, (search.run vault options).items⟩
  | none => ⟨none, vault.items⟩

end Session

end VaultQuery
