import VaultQuery.Query.Basic

namespace VaultQuery.Query

-- Adds a text to an ascending list that holds each text once.
def insertText (text : String) : List String → List String
  | [] => [text]
  | other :: rest =>
    if text < other then text :: other :: rest
    else if text = other then other :: rest
    else other :: insertText text rest

-- The text a clause looks for.
def Clause.wanted? : Clause → Option String
  | .test (.term value) => some value.text
  | .test (.fieldTerm _ value) => some value.text
  | .test (.website address _) => some address
  | _ => none

-- The texts a query looks for, from left to right. Negated ones never show in a result.
def wanted : Query → List String
  | .search _ body => wanted body
  | .or _ left right => wanted left ++ wanted right
  | .and _ left right => wanted left ++ wanted right
  | .not _ _ => []
  | .parens _ body => wanted body
  | .leaf _ clause => clause.wanted?.toList

-- The form of a text that is marked, unless it is blank.
def marked? (text : String) : Option String :=
  if Text.isBlankText text then none else some (Text.lowercase (Text.trim text))

-- What a view of the results should mark: lowercase, ascending, each text once.
def highlights (query : Query) : List String :=
  ((wanted query).filterMap marked?).foldl (fun marks text => insertText text marks) []

end VaultQuery.Query
