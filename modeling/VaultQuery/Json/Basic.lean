namespace VaultQuery

-- A JSON value. Unsigned integers are numbers, all other number literals are kept as written.
inductive Json where
  | null
  | bool (value : Bool)
  | nat (value : Nat)
  | decimal (literal : String)
  | str (value : String)
  | arr (elements : List Json)
  | obj (fields : List (String × Json))
deriving Repr, Inhabited

namespace Json

-- The field of an object. Keys of an object are distinct.
def get? (key : String) : Json → Option Json
  | .obj fields => fields.lookup key
  | _ => none

-- The value behind a sequence of keys.
def at? : List String → Json → Option Json
  | [], json => some json
  | key :: path, json => (json.get? key).bind (at? path)

def asString? : Json → Option String
  | .str value => some value
  | _ => none

def asBool? : Json → Option Bool
  | .bool value => some value
  | _ => none

-- A missing value written as null.
def ofOption {α : Type} (encode : α → Json) : Option α → Json
  | none => .null
  | some value => encode value

def ofList {α : Type} (encode : α → Json) (values : List α) : Json :=
  .arr (values.map encode)

-- Null for a missing value.
def asOption? {α : Type} (decode : Json → Option α) : Json → Option (Option α)
  | .null => some none
  | json => (decode json).map some

def asList? {α : Type} (decode : Json → Option α) : Json → Option (List α)
  | .arr elements => elements.mapM decode
  | _ => none

-- A name from a fixed set, written as a string or as the only key of an object over null.
def asName? : Json → Option String
  | .str name => some name
  | .obj [(name, .null)] => some name
  | _ => none

end Json

end VaultQuery
