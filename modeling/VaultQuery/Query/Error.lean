import VaultQuery.Query.Token

namespace VaultQuery.Query

namespace SyntaxError

-- Why a text is not a query.
inductive Cause where
  | emptyQuery
  | missingTerm
  | doubleNegation
  | unexpected (text : String)
  | emptyParens
  | unclosedBefore (text : String)
  | unclosed
  | missingName (family : Family) (atEnd : Bool)
  | missingValue
  | bareUrl
  | unknownStrategy (name : String)
  | unknownDirection (name : String)
  | tooManyQualifiers (head : String)
  | tooManyArguments (name : String)
  | nameNeeded (name : String)
  | valueRefused (name : String)
  | unknownPredicate (family : Family) (name : String)
deriving Repr, DecidableEq

def Cause.message : Cause → String
  | .emptyQuery => "query is empty"
  | .missingTerm => "expected a term but reached end of query"
  | .doubleNegation => "NOT must be followed by a term or a parenthesized group"
  | .unexpected text => "unexpected '" ++ text ++ "'"
  | .emptyParens => "empty parentheses"
  | .unclosedBefore text => "expected ')' but found '" ++ text ++ "'"
  | .unclosed => "missing closing ')' but reached end of query"
  | .missingName family atEnd =>
    "expected a name after '" ++ family.opening ++ "'" ++
      (if atEnd then " but reached end of query" else "")
  | .missingValue => "expected a value after ':'"
  | .bareUrl => "a URL must be quoted, as in website:\"https://example.com\""
  | .unknownStrategy name => "unknown website match type '" ++ name ++ "'"
  | .unknownDirection name => "unknown sort direction '" ++ name ++ "'"
  | .tooManyQualifiers head => "'" ++ head ++ "' does not take that many qualifiers"
  | .tooManyArguments name => "too many arguments for '" ++ name ++ "'"
  | .nameNeeded name => "in:" ++ name ++ " needs a name, as in in:" ++ name ++ ":\"Name\""
  | .valueRefused name => "'" ++ name ++ "' does not take a value"
  | .unknownPredicate family name => "unknown predicate '" ++ family.opening ++ name ++ "'"

end SyntaxError

-- A fault of a query text and the byte position it is reported at.
structure SyntaxError where
  cause : SyntaxError.Cause
  position : Nat
deriving Repr, DecidableEq

def SyntaxError.message (error : SyntaxError) : String :=
  "Query parse error: " ++ error.cause.message ++ " near byte " ++ toString error.position

end VaultQuery.Query
