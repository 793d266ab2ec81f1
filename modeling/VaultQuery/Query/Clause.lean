import VaultQuery.Query.Value
import VaultQuery.Text.Case
import VaultQuery.Website.Strategy

namespace VaultQuery.Query

-- What a query asks of a single item.
inductive Predicate where
  | term (value : Value)
  | fieldTerm (field value : Value)
  | hasAttachment
  | hasUri
  | hasFolder
  | hasCollection
  | inFolder (name : String)
  | inCollection (name : String)
  | inOrganization (name : String)
  | inMyVault
  | inTrash
  | isFavorite
  | type (name : String)
  | field (name : String)
  | website (address : String) (strategy : Option Website.Strategy)
deriving Repr, DecidableEq

inductive Direction where
  | ascending
  | descending
deriving Repr, DecidableEq

namespace Direction

def name : Direction → String
  | .ascending => "asc"
  | .descending => "desc"

-- The direction a query means by a word, in any case.
def ofWord? (word : String) : Option Direction :=
  [("asc", .ascending), ("ascending", .ascending), ("desc", .descending),
    ("descending", .descending)].lookup (Text.asciiLowercase word)

end Direction

-- A leaf of a query: a test of each item, or an order on them.
inductive Clause where
  | test (predicate : Predicate)
  | order (field : String) (direction : Direction)
deriving Repr, DecidableEq

namespace Clause

-- The name of the kind of clause.
def label : Clause → String
  | .test (.term _) => "Term"
  | .test (.fieldTerm _ _) => "FieldTerm"
  | .test .hasAttachment => "HasAttachment"
  | .test .hasUri => "HasUri"
  | .test .hasFolder => "HasFolder"
  | .test .hasCollection => "HasCollection"
  | .test (.inFolder _) => "InFolder"
  | .test (.inCollection _) => "InCollection"
  | .test (.inOrganization _) => "InOrg"
  | .test .inMyVault => "InMyVault"
  | .test .inTrash => "InTrash"
  | .test .isFavorite => "IsFavorite"
  | .test (.type _) => "Type"
  | .test (.field _) => "Field"
  | .test (.website _ none) => "Website"
  | .test (.website _ (some _)) => "WebsiteMatch"
  | .order _ _ => "OrderBy"

-- The arguments of a clause as they are shown.
def arguments : Clause → List String
  | .test (.term value) => [value.render]
  | .test (.fieldTerm field value) => [field.render, value.render]
  | .test (.inFolder name) => [name]
  | .test (.inCollection name) => [name]
  | .test (.inOrganization name) => [name]
  | .test (.type name) => [name]
  | .test (.field name) => [name]
  | .test (.website address none) => [address]
  | .test (.website address (some strategy)) => [address, strategy.name]
  | .order field direction => [field, direction.name]
  | .test _ => []

def render (clause : Clause) : String :=
  match clause.arguments with
  | [] => clause.label
  | arguments => clause.label ++ "(" ++ ", ".intercalate arguments ++ ")"

end Clause

end VaultQuery.Query
