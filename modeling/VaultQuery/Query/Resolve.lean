import VaultQuery.Query.Clause
import VaultQuery.Query.Grammar

namespace VaultQuery.Query

namespace Atom

-- A bare value that starts like the rest of a URL behind its scheme.
def isUrlTail (value : Value) : Bool :=
  !value.quoted && ['/', '/'].isPrefixOf value.text.toList

-- One value and one qualifier.
def resolvePair (head value : Value) : Clause :=
  if head.isWord "type" then .test (.type value.text)
  else if head.isWord "website" then .test (.website value.text none)
  else if head.isWord "field" then .test (.field value.text)
  else .test (.fieldTerm head value)

-- One value and two qualifiers.
def resolveTriple (head value modifier : Value) : Except SyntaxError.Cause Clause :=
  if head.isWord "website" then
    match Website.Strategy.ofWord? modifier.text with
    | some strategy => .ok (.test (.website value.text (some strategy)))
    | none => .error (.unknownStrategy modifier.text)
  else if head.isWord "order" then
    match Direction.ofWord? modifier.text with
    | some direction => .ok (.order value.text direction)
    | none => .error (.unknownDirection modifier.text)
  else .error (.tooManyQualifiers head.text)

def resolveValues (head : Value) : List Value → Except SyntaxError.Cause Clause
  | [] => .ok (.test (.term head))
  | [value] => .ok (resolvePair head value)
  | qualifiers =>
    if qualifiers.any isUrlTail then .error .bareUrl
    else
      match qualifiers with
      | [value, modifier] => resolveTriple head value modifier
      | _ => .error (.tooManyQualifiers head.text)

-- The predicates that are called without a value.
def flags : Family → List (String × Predicate)
  | .has =>
    [("attachment", .hasAttachment), ("uri", .hasUri), ("folder", .hasFolder),
      ("collection", .hasCollection)]
  | .is => [("favorite", .isFavorite)]
  | .inside => [("my_vault", .inMyVault), ("trash", .inTrash)]

-- The predicates that are called with a name.
def containers : Family → List (String × (String → Predicate))
  | .inside =>
    [("folder", .inFolder), ("collection", .inCollection), ("org", .inOrganization)]
  | _ => []

def resolveFlag (family : Family) (name : String) : Except SyntaxError.Cause Clause :=
  let word := Text.asciiLowercase name
  match (flags family).lookup word with
  | some predicate => .ok (.test predicate)
  | none =>
    if ((containers family).lookup word).isSome then .error (.nameNeeded word)
    else .error (.unknownPredicate family name)

def resolveNamed (family : Family) (name value : String) : Except SyntaxError.Cause Clause :=
  let word := Text.asciiLowercase name
  match (containers family).lookup word with
  | some predicate => .ok (.test (predicate value))
  | none =>
    if ((flags family).lookup word).isSome then .error (.valueRefused name)
    else .error (.unknownPredicate family name)

def resolveCall (family : Family) (name : Value) : List Value → Except SyntaxError.Cause Clause
  | [] => resolveFlag family name.text
  | [value] => resolveNamed family name.text value.text
  | _ => .error (.tooManyArguments name.text)

-- A missing name is missed at the end of the atom. All else is wrong from its start.
def faultPosition (span : Span) : SyntaxError.Cause → Nat
  | .nameNeeded _ => span.stop
  | _ => span.start

-- What an atom means, if it is a known predicate.
def resolve (span : Span) (atom : Atom) : Except SyntaxError Clause :=
  let clause :=
    match atom with
    | .values head qualifiers => resolveValues head qualifiers
    | .call family name arguments => resolveCall family name arguments
  clause.mapError fun cause => ⟨cause, faultPosition span cause⟩

end Atom

end VaultQuery.Query
