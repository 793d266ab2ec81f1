import VaultQuery.Filter.Basic
import VaultQuery.Query.Basic

namespace VaultQuery.Filter

open Query

inductive Category where
  | vaults
  | folders
  | collections
  | types
  | fields
deriving Repr, DecidableEq

-- Whether all members of a category must apply. Its members may then stand in several groups.
def Category.isConjunctive : Category → Bool
  | .collections | .fields => true
  | .vaults | .folders | .types => false

-- One member of a filter.
inductive Member where
  | vault (name : Option String)
  | folder (name : String)
  | collection (name : String)
  | type (name : String)
  | field (name : String)
deriving Repr, DecidableEq

namespace Member

def category : Member → Category
  | .vault _ => .vaults
  | .folder _ => .folders
  | .collection _ => .collections
  | .type _ => .types
  | .field _ => .fields

def ofClause? : Clause → Option Member
  | .test .inMyVault => some (.vault none)
  | .test (.inOrganization name) => some (.vault (some name))
  | .test (.inFolder name) => some (.folder name)
  | .test (.inCollection name) => some (.collection name)
  | .test (.type name) => some (.type name)
  | .test (.field name) => some (.field name)
  | _ => none

end Member

-- Adds a member at the end of its list.
def add (filter : Filter) : Member → Filter
  | .vault name => { filter with vaults := filter.vaults ++ [name] }
  | .folder name => { filter with folders := filter.folders ++ [name] }
  | .collection name => { filter with collections := filter.collections ++ [name] }
  | .type name => { filter with types := filter.types ++ [name] }
  | .field name => { filter with fields := filter.fields ++ [name] }

-- Why a group stands for no part of a filter.
inductive Reason where
  | unsupported
  | emptyGroup
  | mixed
  | needsOr
  | needsAnd
  | repeated
deriving Repr, DecidableEq

def Reason.message : Reason → String
  | .unsupported => "unsupported predicate"
  | .emptyGroup => "empty group"
  | .mixed => "mixed predicates in one group"
  | .needsOr => "these predicates combine with OR"
  | .needsAnd => "these predicates combine with AND"
  | .repeated => "category appears more than once"

-- Why a text is no filter. A group that does not fit is quoted.
inductive TextError where
  | syntaxError (error : SyntaxError)
  | notFilter (reason : Reason) (source : String)
deriving Repr, DecidableEq

def TextError.message : TextError → String
  | .syntaxError error => error.message
  | .notFilter reason source =>
    "Query is not a basic filter: " ++ reason.message ++ ": " ++ source

def dropParens : Query → Query
  | .parens _ body => dropParens body
  | query => query

-- The conjuncts of a query that are not in parentheses.
def conjuncts : Query → List Query
  | .and _ left right => conjuncts left ++ conjuncts right
  | query => [query]

-- The operands of a conjunction, parentheses or not.
def andOperands : Query → List Query
  | .and _ left right => andOperands left ++ andOperands right
  | .parens span body =>
    match dropParens body with
    | .and _ _ _ => andOperands body
    | _ => [.parens span body]
  | query => [query]

-- The operands of a disjunction, parentheses or not.
def orOperands : Query → List Query
  | .or _ left right => orOperands left ++ orOperands right
  | .parens span body =>
    match dropParens body with
    | .or _ _ _ => orOperands body
    | _ => [.parens span body]
  | query => [query]

-- What holds a group together.
inductive Joiner where
  | single
  | or
  | and
deriving Repr, DecidableEq

def groupOf (query : Query) : Joiner × List Query :=
  match dropParens query with
  | .or span left right => (.or, orOperands (.or span left right))
  | .and span left right => (.and, andOperands (.and span left right))
  | body => (.single, [body])

def member? (query : Query) : Option Member :=
  match dropParens query with
  | .leaf _ clause => Member.ofClause? clause
  | _ => none

-- The category of a group, given those of the groups before it.
def check (seen : List Category) (joiner : Joiner) (first : Member) (rest : List Member) :
    Except Reason Category :=
  let category := first.category
  if rest.any (·.category ≠ category) then .error .mixed
  else if category.isConjunctive then
    if joiner = .or then .error .needsAnd else .ok category
  else if joiner = .and then .error .needsOr
  else if seen.contains category then .error .repeated
  else .ok category

-- The members of a group and their category.
def readGroup (seen : List Category) (conjunct : Query) :
    Except Reason (Category × List Member) :=
  let (joiner, operands) := groupOf conjunct
  match operands.mapM member? with
  | none => .error .unsupported
  | some [] => .error .emptyGroup
  | some (first :: rest) => (check seen joiner first rest).map (·, first :: rest)

def readGroups (text : String) (seen : List Category) (filter : Filter) :
    List Query → Except TextError Filter
  | [] => .ok filter
  | conjunct :: rest =>
    match readGroup seen conjunct with
    | .error reason => .error (.notFilter reason (conjunct.span.slice text))
    | .ok (category, members) =>
      readGroups text (category :: seen) (members.foldl add filter) rest

-- Reads query text as a filter. The text must be a conjunction of groups, each of which stands for
-- members of one category. Blank text is the empty filter.
def ofText (text : String) : Except TextError Filter :=
  if Text.isBlankText text then .ok .empty
  else
    match Query.parse text with
    | .error error => .error (.syntaxError error)
    | .ok query => readGroups text [] .empty (conjuncts (unrooted query))

end VaultQuery.Filter
