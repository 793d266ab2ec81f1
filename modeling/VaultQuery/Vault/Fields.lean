import VaultQuery.Vault.Codec

namespace VaultQuery.Vault

-- A text of an item, with the dotted path to it and the name a query calls it by.
structure FieldText where
  path : String
  name : String
  value : String
deriving Repr, DecidableEq

namespace FieldText

-- The properties no query may see.
def sensitivePaths : List String :=
  ["login.password", "login.totp", "card.code", "sshKey.privateKey"]

def isSensitive (path : String) : Bool :=
  sensitivePaths.contains path

-- Top-level properties that are bookkeeping rather than text of the user.
def bookkeeping : List String :=
  ["id", "organizationId", "folderId", "type", "creationDate", "revisionDate", "deletedDate"]

mutual

-- The strings of a value that is reached by a path whose last key is `name`.
def ofValue (path name : String) : Json → List FieldText
  | .str value => if isSensitive path then [] else [⟨path, name, value⟩]
  | .obj fields => ofMembers path fields
  | _ => []

def ofMembers (path : String) : List (String × Json) → List FieldText
  | [] => []
  | (key, value) :: rest => ofValue (path ++ "." ++ key) key value ++ ofMembers path rest

end

def ofTopLevel : Json → List FieldText
  | .obj fields =>
    (fields.filter fun (key, _) => !bookkeeping.contains key).flatMap fun (key, value) =>
      ofValue key key value
  | _ => []

end FieldText

-- The text a custom field shows. A linked field shows the property it points at.
def CustomField.shown? (item : Json) (field : CustomField) : Option String :=
  match field.kind with
  | .text => field.value
  | .linked => do
    let path := (← field.link).path
    if FieldText.isSensitive (".".intercalate path) then none
    else (← item.at? path).asString?
  | .hidden | .boolean => none

def CustomField.fieldText? (item : Json) (field : CustomField) : Option FieldText :=
  let name := field.name.getD ""
  (field.shown? item).map fun value => ⟨"fields." ++ name, name, value⟩

def Attachment.fieldText? (attachment : Attachment) : Option FieldText :=
  attachment.fileName.map fun name => ⟨"attachments.fileName", "fileName", name⟩

-- Every text of an item that a query can match: the strings of its JSON form in ascending order of
-- the keys, objects entered and arrays not, then the custom fields and the names of attachments.
def Item.fieldTexts (item : Item) : List FieldText :=
  let json := item.toJson
  FieldText.ofTopLevel json ++ item.fields.filterMap (·.fieldText? json) ++
    item.attachments.filterMap Attachment.fieldText?

end VaultQuery.Vault
