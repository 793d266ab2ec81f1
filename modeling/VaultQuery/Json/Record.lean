import VaultQuery.Json.Basic

namespace VaultQuery.Json

-- A record with fields in a fixed order is an object, or an array of its leading fields. `least` is
-- how many fields an array must have.
def record? (names : List String) (least : Nat) : Json → Option Json
  | .obj fields => some (.obj fields)
  | .arr values =>
    if least ≤ values.length && values.length ≤ names.length then some (.obj (names.zip values))
    else none
  | _ => none

-- A field that must be there.
def required? {α : Type} (json : Json) (key : String) (decode : Json → Option α) : Option α :=
  (json.get? key).bind decode

-- A field that may be absent or null.
def optional? {α : Type} (json : Json) (key : String) (decode : Json → Option α) :
    Option (Option α) :=
  match json.get? key with
  | none => some none
  | some value => asOption? decode value

-- A field with a value of its own when it is absent. Null does not count as absent.
def withDefault? {α : Type} (json : Json) (key : String) (absent : α) (decode : Json → Option α) :
    Option α :=
  match json.get? key with
  | none => some absent
  | some value => decode value

end VaultQuery.Json
