import Mathlib.Data.List.Basic
import VaultQuery.Proofs.Secrecy.Redaction

namespace VaultQuery.Vault

-- What a query can see of each part of an item, by the names in its JSON form.
def Card.visible : List (String × (Card → Option String)) :=
  [("brand", brand), ("cardholderName", cardholderName), ("expMonth", expMonth),
    ("expYear", expYear), ("number", number)]

def Identity.visible : List (String × (Identity → Option String)) :=
  [("address1", address1), ("city", city), ("company", company), ("country", country),
    ("email", email), ("firstName", firstName), ("lastName", lastName),
    ("middleName", middleName), ("phone", phone), ("postalCode", postalCode), ("state", state),
    ("title", title), ("username", username)]

def Login.visible : List (String × (Login → Option String)) :=
  [("username", username)]

def SshKey.visible : List (String × (SshKey → Option String)) :=
  [("keyFingerprint", keyFingerprint), ("publicKey", publicKey)]

-- A property of an item or of one of its parts.
structure Property where
  part : Option String
  name : String
  read : Item → Option String

namespace Property

open FieldText

def path (property : Property) : String :=
  match property.part with
  | some part => part ++ "." ++ property.name
  | none => property.name

-- The text of a property that the item has.
def text? (item : Item) (property : Property) : Option FieldText :=
  (property.read item).map fun value => ⟨property.path, property.name, value⟩

section Parts

variable {α : Type}

def ofPart (part : String) (get : Item → Option α)
    (properties : List (String × (α → Option String))) : List Property :=
  properties.map fun (name, read) => ⟨some part, name, fun item => (get item).bind read⟩

theorem ofValue_textJson {path : String} (h : isSensitive path = false) (name : String)
    (value : Option String) :
    ofValue path name (textJson value) =
      (value.map fun text => (⟨path, name, text⟩ : FieldText)).toList := by
  cases value with
  | none => rfl
  | some text => simp [textJson, Json.ofOption, ofValue, h]

-- A part gives the texts of its properties if its JSON form does and none of them is secret.
theorem ofValue_ofOption {part : String} {encode : α → Json}
    {properties : List (String × (α → Option String))}
    (hplain : ∀ property ∈ properties, isSensitive (part ++ "." ++ property.1) = false)
    (hencode : ∀ a, ofValue part part (encode a) = properties.flatMap fun property =>
      ofValue (part ++ "." ++ property.1) property.1 (textJson (property.2 a)))
    (get : Item → Option α) (item : Item) :
    ofValue part part (Json.ofOption encode (get item)) =
      (ofPart part get properties).filterMap (text? item) := by
  rw [ofPart, List.filterMap_map, List.filterMap_eq_flatMap_toList]
  cases hg : get item with
  | none => simp [Json.ofOption, ofValue, text?, hg]
  | some a =>
      rw [Json.ofOption, hencode]
      apply List.flatMap_congr
      intro property hp
      simp [text?, path, hg, ofValue_textJson (hplain property hp)]

theorem ofValue_card (item : Item) :
    ofValue "card" "card" (Json.ofOption Card.toJson item.card) =
      (ofPart "card" Item.card Card.visible).filterMap (text? item) := by
  have hcode : isSensitive ("card" ++ "." ++ "code") := by decide
  refine ofValue_ofOption (by decide) ?_ Item.card item
  intro card
  simp only [Card.toJson, ofValue, ofMembers, ofValue_textJson_sensitive hcode]
  rfl

theorem ofValue_identity (item : Item) :
    ofValue "identity" "identity" (Json.ofOption Identity.toJson item.identity) =
      (ofPart "identity" Item.identity Identity.visible).filterMap (text? item) :=
  ofValue_ofOption (by decide) (fun _ => rfl) Item.identity item

theorem ofValue_login (item : Item) :
    ofValue "login" "login" (Json.ofOption Login.toJson item.login) =
      (ofPart "login" Item.login Login.visible).filterMap (text? item) := by
  have hpassword : isSensitive ("login" ++ "." ++ "password") := by decide
  have htotp : isSensitive ("login" ++ "." ++ "totp") := by decide
  refine ofValue_ofOption (by decide) ?_ Item.login item
  intro login
  simp only [Login.toJson, ofValue, ofMembers, Json.ofList, ofValue_textJson_sensitive hpassword,
    ofValue_textJson_sensitive htotp]
  rfl

theorem ofValue_sshKey (item : Item) :
    ofValue "sshKey" "sshKey" (Json.ofOption SshKey.toJson item.sshKey) =
      (ofPart "sshKey" Item.sshKey SshKey.visible).filterMap (text? item) := by
  have hprivate : isSensitive ("sshKey" ++ "." ++ "privateKey") := by decide
  refine ofValue_ofOption (by decide) ?_ Item.sshKey item
  intro key
  simp only [SshKey.toJson, ofValue, ofMembers, ofValue_textJson_sensitive hprivate]
  rfl

end Parts

-- The properties outside of all parts.
def own : List Property :=
  [⟨none, "name", fun item => some item.name⟩, ⟨none, "notes", Item.notes⟩]

-- The properties that a query can see, in the order of their paths.
def visible : List Property :=
  ofPart "card" Item.card Card.visible ++ ofPart "identity" Item.identity Identity.visible ++
    ofPart "login" Item.login Login.visible ++ own ++ ofPart "sshKey" Item.sshKey SshKey.visible

theorem pairwise_path_visible : (visible.map path).Pairwise (· < ·) := by
  decide +kernel

-- The walk passes over bookkeeping, lists and flags.
theorem ofTopLevel_toJson (item : Item) :
    ofTopLevel item.toJson = visible.filterMap (text? item) := by
  have hwalk : ofTopLevel item.toJson =
      ofValue "card" "card" (Json.ofOption Card.toJson item.card) ++
        ofValue "identity" "identity" (Json.ofOption Identity.toJson item.identity) ++
        ofValue "login" "login" (Json.ofOption Login.toJson item.login) ++
        (ofValue "name" "name" (.str item.name) ++
          ofValue "notes" "notes" (textJson item.notes)) ++
        ofValue "sshKey" "sshKey" (Json.ofOption SshKey.toJson item.sshKey) := by
    simp [ofTopLevel, Item.toJson, bookkeeping, Json.ofList, ofValue]
  have hown : ofValue "name" "name" (.str item.name) ++
      ofValue "notes" "notes" (textJson item.notes) = own.filterMap (text? item) := by
    have hname : isSensitive "name" = false := by decide
    rw [ofValue_textJson (by decide), ofValue, hname]
    cases hn : item.notes <;> simp [own, text?, path, hn]
  rw [hwalk, hown, ofValue_card, ofValue_identity, ofValue_login, ofValue_sshKey, visible]
  simp only [List.filterMap_append]

-- The texts of the properties are a part of all the paths there are.
theorem pairwise_path_text? (item : Item) :
    (visible.filterMap (text? item)).Pairwise (·.path < ·.path) := by
  have hpath : ∀ property text, text? item property = some text → text.path = property.path := by
    intro property text h
    obtain ⟨value, _, rfl⟩ := Option.map_eq_some_iff.mp h
    rfl
  rw [List.pairwise_filterMap]
  refine (List.pairwise_map.mp pairwise_path_visible).imp ?_
  intro property other hlt text ht text' ht'
  rw [hpath property text ht, hpath other text' ht']
  exact hlt

end Property

-- The property that a link points at.
def Link.read (item : Item) : Link → Option String
  | .loginUsername => item.login.bind Login.username
  | .loginPassword => item.login.bind Login.password
  | .cardCardholderName => item.card.bind Card.cardholderName
  | .cardBrand => item.card.bind Card.brand
  | .cardNumber => item.card.bind Card.number
  | .cardExpMonth => item.card.bind Card.expMonth
  | .cardExpYear => item.card.bind Card.expYear
  | .cardCode => item.card.bind Card.code
  | .identityTitle => item.identity.bind Identity.title
  | .identityFirstName => item.identity.bind Identity.firstName
  | .identityMiddleName => item.identity.bind Identity.middleName
  | .identityLastName => item.identity.bind Identity.lastName
  | .identityCompany => item.identity.bind Identity.company
  | .identityEmail => item.identity.bind Identity.email
  | .identityPhone => item.identity.bind Identity.phone
  | .identityUsername => item.identity.bind Identity.username

def Link.isSecret : Link → Bool
  | .loginPassword | .cardCode => true
  | _ => false

theorem Link.isSensitive_path (link : Link) :
    FieldText.isSensitive (".".intercalate link.path) = link.isSecret := by
  cases link <;> decide

theorem asString?_textJson (value : Option String) : (textJson value).asString? = value := by
  cases value <;> rfl

-- The keys of a link lead to its property.
theorem Item.at?_path (item : Item) (link : Link) :
    (item.toJson.at? link.path).bind Json.asString? = link.read item := by
  cases link with
  | loginUsername | loginPassword =>
      simp only [Link.path, Link.read, Json.at?, Json.get?, Item.toJson, List.lookup_cons]
      cases item.login with
      | none => rfl
      | some login => exact asString?_textJson _
  | cardCardholderName | cardBrand | cardNumber | cardExpMonth | cardExpYear | cardCode =>
      simp only [Link.path, Link.read, Json.at?, Json.get?, Item.toJson, List.lookup_cons]
      cases item.card with
      | none => rfl
      | some card => exact asString?_textJson _
  | identityTitle | identityFirstName | identityMiddleName | identityLastName | identityCompany
  | identityEmail | identityPhone | identityUsername =>
      simp only [Link.path, Link.read, Json.at?, Json.get?, Item.toJson, List.lookup_cons]
      cases item.identity with
      | none => rfl
      | some identity => exact asString?_textJson _

-- What a custom field shows of an item.
def CustomField.value? (item : Item) (field : CustomField) : Option String :=
  match field.kind with
  | .text => field.value
  | .linked => field.link.bind fun link => if link.isSecret then none else link.read item
  | .hidden | .boolean => none

theorem CustomField.shown?_toJson (item : Item) (field : CustomField) :
    field.shown? item.toJson = field.value? item := by
  unfold shown? value?
  cases field.kind with
  | text => rfl
  | hidden => rfl
  | boolean => rfl
  | linked =>
      cases field.link with
      | none => rfl
      | some link =>
          simp only [Option.bind_some, ← item.at?_path link, ← link.isSensitive_path]
          rfl

theorem CustomField.fieldText?_toJson (item : Item) (field : CustomField) :
    field.fieldText? item.toJson = (field.value? item).map fun value =>
      ⟨"fields." ++ field.name.getD "", field.name.getD "", value⟩ := by
  rw [fieldText?, shown?_toJson]

theorem Item.fieldTexts_eq (item : Item) :
    item.fieldTexts =
      Property.visible.filterMap (Property.text? item) ++
        item.fields.filterMap (·.fieldText? item.toJson) ++
        item.attachments.filterMap Attachment.fieldText? := by
  rw [fieldTexts, Property.ofTopLevel_toJson]

-- The texts of an item are those of its properties, each under its own path and in the order of the
-- paths, then what its custom fields show, then the names of its files.
theorem Item.fieldTexts_typed (item : Item) :
    item.fieldTexts =
      Property.visible.filterMap (Property.text? item) ++
        item.fields.filterMap (fun field => (field.value? item).map fun value =>
          ⟨"fields." ++ field.name.getD "", field.name.getD "", value⟩) ++
        item.attachments.filterMap (fun attachment => attachment.fileName.map fun name =>
          ⟨"attachments.fileName", "fileName", name⟩) ∧
      (Property.visible.filterMap (Property.text? item)).Pairwise (·.path < ·.path) := by
  refine ⟨?_, Property.pairwise_path_text? item⟩
  simp only [item.fieldTexts_eq, CustomField.fieldText?_toJson]
  rfl

end VaultQuery.Vault
