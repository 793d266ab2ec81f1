import VaultQuery.Query.Resolve

namespace VaultQuery

-- A query over the items of a vault.
abbrev Query := Query.Tree Query.Clause

namespace Query

-- Reads a query text. A fault of the grammar comes before a fault of any predicate.
def parse (text : String) : Except SyntaxError Query := do
  let shape ← Grammar.read (tokenize text) text.utf8ByteSize
  let body ← shape.traverse Atom.resolve
  return .search body.span body

-- A query without its root.
def unrooted : Query → Query
  | .search _ body => body
  | query => query

def render (query : Query) : String :=
  Tree.render Clause.render query

end Query

end VaultQuery
