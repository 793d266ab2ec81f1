import VaultQuery.Json.Record
import VaultQuery.Vault.Basic

namespace VaultQuery.Vault

open Json

def textJson (value : Option String) : Json :=
  Json.ofOption .str value

def timeJson (value : Option Timestamp) : Json :=
  Json.ofOption (fun time => .str time.toText) value

def readTime? (json : Json) : Option Timestamp :=
  json.asString?.bind Timestamp.ofString?

-- Records are written with all their keys in ascending order, and null for a missing value. Reading
-- is more liberal: the key of a missing value may be absent, other keys do not count, and an array
-- of the fields in the order of the type will do as well.
namespace Uri

def toJson (uri : Uri) : Json :=
  .obj [("match", Json.ofOption (fun strategy => .str strategy.name) uri.strategy),
    ("uri", textJson uri.uri)]

def ofJson? (json : Json) : Option Uri := do
  let json ← json.record? ["uri", "match"] 2
  return {
    uri := ← json.optional? "uri" asString?
    strategy := ← json.optional? "match" fun j => j.asName?.bind Website.Strategy.ofName? }

end Uri

namespace Login

def toJson (login : Login) : Json :=
  .obj [("password", textJson login.password), ("totp", textJson login.totp),
    ("uris", Json.ofList Uri.toJson login.uris), ("username", textJson login.username)]

def ofJson? (json : Json) : Option Login := do
  let json ← json.record? ["username", "password", "totp", "uris"] 3
  return {
    username := ← json.optional? "username" asString?
    password := ← json.optional? "password" asString?
    totp := ← json.optional? "totp" asString?
    uris := ← json.withDefault? "uris" [] (asList? Uri.ofJson?) }

end Login

namespace Card

def toJson (card : Card) : Json :=
  .obj [("brand", textJson card.brand), ("cardholderName", textJson card.cardholderName),
    ("code", textJson card.code), ("expMonth", textJson card.expMonth),
    ("expYear", textJson card.expYear),
    ("number", textJson card.number)]

def ofJson? (json : Json) : Option Card := do
  let json ← json.record?
    ["cardholderName", "brand", "number", "expMonth", "expYear", "code"] 6
  return {
    cardholderName := ← json.optional? "cardholderName" asString?
    brand := ← json.optional? "brand" asString?
    number := ← json.optional? "number" asString?
    expMonth := ← json.optional? "expMonth" asString?
    expYear := ← json.optional? "expYear" asString?
    code := ← json.optional? "code" asString? }

end Card

namespace Identity

def toJson (identity : Identity) : Json :=
  .obj [("address1", textJson identity.address1), ("city", textJson identity.city),
    ("company", textJson identity.company), ("country", textJson identity.country),
    ("email", textJson identity.email), ("firstName", textJson identity.firstName),
    ("lastName", textJson identity.lastName), ("middleName", textJson identity.middleName),
    ("phone", textJson identity.phone), ("postalCode", textJson identity.postalCode),
    ("state", textJson identity.state), ("title", textJson identity.title),
    ("username", textJson identity.username)]

def ofJson? (json : Json) : Option Identity := do
  let json ← json.record?
    ["title", "firstName", "middleName", "lastName", "company", "email", "phone", "username",
      "address1", "city", "state", "postalCode", "country"] 13
  return {
    title := ← json.optional? "title" asString?
    firstName := ← json.optional? "firstName" asString?
    middleName := ← json.optional? "middleName" asString?
    lastName := ← json.optional? "lastName" asString?
    company := ← json.optional? "company" asString?
    email := ← json.optional? "email" asString?
    phone := ← json.optional? "phone" asString?
    username := ← json.optional? "username" asString?
    address1 := ← json.optional? "address1" asString?
    city := ← json.optional? "city" asString?
    state := ← json.optional? "state" asString?
    postalCode := ← json.optional? "postalCode" asString?
    country := ← json.optional? "country" asString? }

end Identity

namespace SshKey

def toJson (key : SshKey) : Json :=
  .obj [("keyFingerprint", textJson key.keyFingerprint), ("privateKey", textJson key.privateKey),
    ("publicKey", textJson key.publicKey)]

def ofJson? (json : Json) : Option SshKey := do
  let json ← json.record? ["privateKey", "publicKey", "keyFingerprint"] 3
  return {
    privateKey := ← json.optional? "privateKey" asString?
    publicKey := ← json.optional? "publicKey" asString?
    keyFingerprint := ← json.optional? "keyFingerprint" asString? }

end SshKey

namespace CustomField

def toJson (field : CustomField) : Json :=
  .obj [("linkedId", Json.ofOption (fun link => .str link.name) field.link),
    ("name", textJson field.name), ("type", .str field.kind.name), ("value", textJson field.value)]

def ofJson? (json : Json) : Option CustomField := do
  let json ← json.record? ["name", "value", "type", "linkedId"] 4
  return {
    name := ← json.optional? "name" asString?
    value := ← json.optional? "value" asString?
    kind := ← json.required? "type" fun j => j.asName?.bind FieldKind.ofName?
    link := ← json.optional? "linkedId" fun j => j.asName?.bind Link.ofName? }

end CustomField

namespace Attachment

def size? : Json → Option UInt64
  | .nat size => if size < UInt64.size then some (UInt64.ofNat size) else none
  | _ => none

def toJson (attachment : Attachment) : Json :=
  .obj [("fileName", textJson attachment.fileName), ("id", .str attachment.id),
    ("size", Json.ofOption (fun size => .nat size.toNat) attachment.size)]

def ofJson? (json : Json) : Option Attachment := do
  let json ← json.record? ["id", "fileName", "size"] 3
  return {
    id := ← json.required? "id" asString?
    fileName := ← json.optional? "fileName" asString?
    size := ← json.optional? "size" size? }

end Attachment

namespace Item

def toJson (item : Item) : Json :=
  .obj [("attachments", Json.ofList Attachment.toJson item.attachments),
    ("card", Json.ofOption Card.toJson item.card),
    ("collectionIds", Json.ofList .str item.collectionIds),
    ("creationDate", timeJson item.creationDate),
    ("deletedDate", timeJson item.deletedDate),
    ("favorite", .bool item.favorite),
    ("fields", Json.ofList CustomField.toJson item.fields),
    ("folderId", textJson item.folderId),
    ("id", .str item.id),
    ("identity", Json.ofOption Identity.toJson item.identity),
    ("login", Json.ofOption Login.toJson item.login),
    ("name", .str item.name),
    ("notes", textJson item.notes),
    ("organizationId", textJson item.organizationId),
    ("revisionDate", timeJson item.revisionDate),
    ("sshKey", Json.ofOption SshKey.toJson item.sshKey),
    ("type", .str item.kind.name)]

def ofJson? (json : Json) : Option Item := do
  let json ← json.record?
    ["id", "organizationId", "folderId", "collectionIds", "name", "notes", "type", "favorite",
      "login", "card", "identity", "sshKey", "fields", "attachments", "creationDate",
      "revisionDate", "deletedDate"] 17
  return {
    id := ← json.required? "id" asString?
    organizationId := ← json.optional? "organizationId" asString?
    folderId := ← json.optional? "folderId" asString?
    collectionIds := ← json.withDefault? "collectionIds" [] (asList? asString?)
    name := ← json.required? "name" asString?
    notes := ← json.optional? "notes" asString?
    kind := ← json.required? "type" fun j => j.asName?.bind Kind.ofName?
    favorite := ← json.withDefault? "favorite" false asBool?
    login := ← json.optional? "login" Login.ofJson?
    card := ← json.optional? "card" Card.ofJson?
    identity := ← json.optional? "identity" Identity.ofJson?
    sshKey := ← json.optional? "sshKey" SshKey.ofJson?
    fields := ← json.withDefault? "fields" [] (asList? CustomField.ofJson?)
    attachments := ← json.withDefault? "attachments" [] (asList? Attachment.ofJson?)
    creationDate := ← json.optional? "creationDate" readTime?
    revisionDate := ← json.optional? "revisionDate" readTime?
    deletedDate := ← json.optional? "deletedDate" readTime? }

end Item

namespace Folder

def toJson (folder : Folder) : Json :=
  .obj [("id", .str folder.id), ("name", .str folder.name)]

def ofJson? (json : Json) : Option Folder := do
  let json ← json.record? ["id", "name"] 2
  return { id := ← json.required? "id" asString?, name := ← json.required? "name" asString? }

end Folder

namespace Collection

def toJson (collection : Collection) : Json :=
  .obj [("id", .str collection.id), ("name", .str collection.name),
    ("organizationId", textJson collection.organizationId)]

def ofJson? (json : Json) : Option Collection := do
  let json ← json.record? ["id", "organizationId", "name"] 3
  return {
    id := ← json.required? "id" asString?
    organizationId := ← json.optional? "organizationId" asString?
    name := ← json.required? "name" asString? }

end Collection

namespace Organization

def toJson (organization : Organization) : Json :=
  .obj [("id", .str organization.id), ("name", .str organization.name)]

def ofJson? (json : Json) : Option Organization := do
  let json ← json.record? ["id", "name"] 2
  return { id := ← json.required? "id" asString?, name := ← json.required? "name" asString? }

end Organization

def toJson (vault : Vault) : Json :=
  .obj [("collections", Json.ofList Collection.toJson vault.collections),
    ("folders", Json.ofList Folder.toJson vault.folders),
    ("items", Json.ofList Item.toJson vault.items),
    ("organizations", Json.ofList Organization.toJson vault.organizations)]

-- Reads a vault. Each of its lists may be absent.
def ofJson? (json : Json) : Option Vault := do
  let json ← json.record? ["items", "folders", "collections", "organizations"] 0
  return {
    items := ← json.withDefault? "items" [] (asList? Item.ofJson?)
    folders := ← json.withDefault? "folders" [] (asList? Folder.ofJson?)
    collections := ← json.withDefault? "collections" [] (asList? Collection.ofJson?)
    organizations := ← json.withDefault? "organizations" [] (asList? Organization.ofJson?) }

end VaultQuery.Vault
