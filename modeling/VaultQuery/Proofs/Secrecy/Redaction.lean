import VaultQuery.Vault.Fields

namespace VaultQuery.Vault

def Login.redact (login : Login) : Login :=
  { login with password := none, totp := none }

def Card.redact (card : Card) : Card :=
  { card with code := none }

def SshKey.redact (key : SshKey) : SshKey :=
  { key with privateKey := none }

-- Only a plain text may be shown. A linked field shows another property instead of its value.
def CustomField.redact (field : CustomField) : CustomField :=
  match field.kind with
  | .text => field
  | .hidden | .boolean | .linked => { field with value := none }

-- What is left of an item when everything that no query may see is taken out.
def Item.redact (item : Item) : Item :=
  { item with
    login := item.login.map Login.redact
    card := item.card.map Card.redact
    sshKey := item.sshKey.map SshKey.redact
    fields := item.fields.map CustomField.redact }

@[simp] theorem CustomField.redact_name (field : CustomField) : field.redact.name = field.name := by
  unfold redact
  split <;> rfl

@[simp] theorem CustomField.redact_kind (field : CustomField) : field.redact.kind = field.kind := by
  unfold redact
  split <;> rfl

@[simp] theorem CustomField.redact_link (field : CustomField) : field.redact.link = field.link := by
  unfold redact
  split <;> rfl

theorem Item.uris_redact (item : Item) : item.redact.uris = item.uris := by
  simp only [Item.uris, Item.redact]
  cases item.login <;> rfl

namespace FieldText

theorem ofValue_textJson_sensitive {path : String} (hs : isSensitive path) (name : String)
    (value : Option String) : ofValue path name (textJson value) = [] := by
  cases value with
  | none => rfl
  | some text => simp [textJson, Json.ofOption, ofValue, hs]

theorem ofValue_login (login : Option Login) :
    ofValue "login" "login" (Json.ofOption Login.toJson (login.map Login.redact)) =
      ofValue "login" "login" (Json.ofOption Login.toJson login) := by
  cases login with
  | none => rfl
  | some login =>
      have hp : isSensitive ("login" ++ "." ++ "password") := by decide
      have ht : isSensitive ("login" ++ "." ++ "totp") := by decide
      simp only [Option.map_some, Json.ofOption, Login.toJson, Login.redact, ofValue, ofMembers,
        ofValue_textJson_sensitive hp, ofValue_textJson_sensitive ht]

theorem ofValue_card (card : Option Card) :
    ofValue "card" "card" (Json.ofOption Card.toJson (card.map Card.redact)) =
      ofValue "card" "card" (Json.ofOption Card.toJson card) := by
  cases card with
  | none => rfl
  | some card =>
      have hc : isSensitive ("card" ++ "." ++ "code") := by decide
      simp only [Option.map_some, Json.ofOption, Card.toJson, Card.redact, ofValue, ofMembers,
        ofValue_textJson_sensitive hc]

theorem ofValue_sshKey (key : Option SshKey) :
    ofValue "sshKey" "sshKey" (Json.ofOption SshKey.toJson (key.map SshKey.redact)) =
      ofValue "sshKey" "sshKey" (Json.ofOption SshKey.toJson key) := by
  cases key with
  | none => rfl
  | some key =>
      have hk : isSensitive ("sshKey" ++ "." ++ "privateKey") := by decide
      simp only [Option.map_some, Json.ofOption, SshKey.toJson, SshKey.redact, ofValue, ofMembers,
        ofValue_textJson_sensitive hk]

-- The texts of an object are put together from what each key gives.
theorem ofTopLevel_eq (fields : List (String × Json)) :
    ofTopLevel (.obj fields) =
      ((fields.map fun field => (field.1, ofValue field.1 field.1 field.2)).filter
        fun field => !bookkeeping.contains field.1).flatMap Prod.snd := by
  simp [ofTopLevel, List.filter_map, List.flatMap_map, Function.comp_def]

theorem ofTopLevel_redact (item : Item) :
    ofTopLevel item.redact.toJson = ofTopLevel item.toJson := by
  unfold Item.toJson
  rw [ofTopLevel_eq, ofTopLevel_eq]
  simp only [List.map_cons, List.map_nil, Item.redact, ofValue_login, ofValue_card,
    ofValue_sshKey, Json.ofList, ofValue]

end FieldText

open FieldText (isSensitive)

-- A link may point at a secret, but the property it then shows is not looked up.
theorem Item.at?_redact (item : Item) (link : Link)
    (hs : isSensitive (".".intercalate link.path) = false) :
    item.redact.toJson.at? link.path = item.toJson.at? link.path := by
  cases link with
  | loginPassword => exact absurd hs (by decide)
  | cardCode => exact absurd hs (by decide)
  | loginUsername =>
      simp only [Link.path, Json.at?, Json.get?, Item.toJson, Item.redact, List.lookup_cons]
      cases item.login <;> rfl
  | cardCardholderName | cardBrand | cardNumber | cardExpMonth | cardExpYear =>
      simp only [Link.path, Json.at?, Json.get?, Item.toJson, Item.redact, List.lookup_cons]
      cases item.card <;> rfl
  | identityTitle | identityFirstName | identityMiddleName | identityLastName | identityCompany
  | identityEmail | identityPhone | identityUsername => rfl

theorem CustomField.shown?_redact (item : Item) (field : CustomField) :
    field.redact.shown? item.redact.toJson = field.shown? item.toJson := by
  unfold shown?
  rw [redact_kind]
  cases hk : field.kind with
  | text => simp only [redact, hk]
  | hidden => rfl
  | boolean => rfl
  | linked =>
      rw [redact_link]
      cases field.link with
      | none => rfl
      | some link =>
          simp only [Option.bind_eq_bind, Option.bind_some]
          split
          · rfl
          · rename_i hs
            rw [item.at?_redact link (Bool.eq_false_iff.mpr hs)]

theorem CustomField.fieldText?_redact (item : Item) (field : CustomField) :
    field.redact.fieldText? item.redact.toJson = field.fieldText? item.toJson := by
  simp only [fieldText?, shown?_redact, redact_name]

theorem Item.fieldTexts_redact (item : Item) : item.redact.fieldTexts = item.fieldTexts := by
  have hf : item.redact.fields.filterMap (·.fieldText? item.redact.toJson) =
      item.fields.filterMap (·.fieldText? item.toJson) := by
    simp only [Item.redact, List.filterMap_map]
    exact congrArg (List.filterMap · item.fields)
      (funext fun field => field.fieldText?_redact item)
  simp only [Item.fieldTexts, FieldText.ofTopLevel_redact, hf]
  rfl

end VaultQuery.Vault
