import VaultQuery.Timestamp
import VaultQuery.Website.Strategy

namespace VaultQuery

namespace Vault

-- The kinds of vault entries.
inductive Kind where
  | login
  | secureNote
  | card
  | identity
  | sshKey
deriving Repr, DecidableEq

namespace Kind

def all : List Kind :=
  [.login, .secureNote, .card, .identity, .sshKey]

def name : Kind → String
  | .login => "Login"
  | .secureNote => "SecureNote"
  | .card => "Card"
  | .identity => "Identity"
  | .sshKey => "SshKey"

def ofName? (name : String) : Option Kind :=
  all.find? (·.name == name)

-- The kind a query means by a word. Case, spaces, underscores and dashes do not count.
def ofWord? (word : String) : Option Kind :=
  let letters := word.toList.filter fun c => !(c = ' ' || c = '_' || c = '-')
  let word := Text.lowercase (String.ofList letters)
  if word = "note" then some .secureNote else all.find? (Text.lowercase ·.name == word)

end Kind

-- An address stored with a login.
structure Uri where
  uri : Option String
  strategy : Option Website.Strategy
deriving Repr, DecidableEq

structure Login where
  username : Option String
  password : Option String
  totp : Option String
  uris : List Uri
deriving Repr, DecidableEq

structure Card where
  cardholderName : Option String
  brand : Option String
  number : Option String
  expMonth : Option String
  expYear : Option String
  code : Option String
deriving Repr, DecidableEq

structure Identity where
  title : Option String
  firstName : Option String
  middleName : Option String
  lastName : Option String
  company : Option String
  email : Option String
  phone : Option String
  username : Option String
  address1 : Option String
  city : Option String
  state : Option String
  postalCode : Option String
  country : Option String
deriving Repr, DecidableEq

structure SshKey where
  privateKey : Option String
  publicKey : Option String
  keyFingerprint : Option String
deriving Repr, DecidableEq

-- How the value of a custom field is kept.
inductive FieldKind where
  | text
  | hidden
  | boolean
  | linked
deriving Repr, DecidableEq

namespace FieldKind

def all : List FieldKind :=
  [.text, .hidden, .boolean, .linked]

def name : FieldKind → String
  | .text => "Text"
  | .hidden => "Hidden"
  | .boolean => "Boolean"
  | .linked => "Linked"

def ofName? (name : String) : Option FieldKind :=
  all.find? (·.name == name)

end FieldKind

-- The properties a linked custom field can show.
inductive Link where
  | loginUsername
  | loginPassword
  | cardCardholderName
  | cardBrand
  | cardNumber
  | cardExpMonth
  | cardExpYear
  | cardCode
  | identityTitle
  | identityFirstName
  | identityMiddleName
  | identityLastName
  | identityCompany
  | identityEmail
  | identityPhone
  | identityUsername
deriving Repr, DecidableEq

namespace Link

def all : List Link :=
  [.loginUsername, .loginPassword, .cardCardholderName, .cardBrand, .cardNumber, .cardExpMonth,
   .cardExpYear, .cardCode, .identityTitle, .identityFirstName, .identityMiddleName,
   .identityLastName, .identityCompany, .identityEmail, .identityPhone, .identityUsername]

def name : Link → String
  | .loginUsername => "LoginUsername"
  | .loginPassword => "LoginPassword"
  | .cardCardholderName => "CardCardholderName"
  | .cardBrand => "CardBrand"
  | .cardNumber => "CardNumber"
  | .cardExpMonth => "CardExpMonth"
  | .cardExpYear => "CardExpYear"
  | .cardCode => "CardCode"
  | .identityTitle => "IdentityTitle"
  | .identityFirstName => "IdentityFirstName"
  | .identityMiddleName => "IdentityMiddleName"
  | .identityLastName => "IdentityLastName"
  | .identityCompany => "IdentityCompany"
  | .identityEmail => "IdentityEmail"
  | .identityPhone => "IdentityPhone"
  | .identityUsername => "IdentityUsername"

def ofName? (name : String) : Option Link :=
  all.find? (·.name == name)

-- The part of the item and the property in it.
def path : Link → List String
  | .loginUsername => ["login", "username"]
  | .loginPassword => ["login", "password"]
  | .cardCardholderName => ["card", "cardholderName"]
  | .cardBrand => ["card", "brand"]
  | .cardNumber => ["card", "number"]
  | .cardExpMonth => ["card", "expMonth"]
  | .cardExpYear => ["card", "expYear"]
  | .cardCode => ["card", "code"]
  | .identityTitle => ["identity", "title"]
  | .identityFirstName => ["identity", "firstName"]
  | .identityMiddleName => ["identity", "middleName"]
  | .identityLastName => ["identity", "lastName"]
  | .identityCompany => ["identity", "company"]
  | .identityEmail => ["identity", "email"]
  | .identityPhone => ["identity", "phone"]
  | .identityUsername => ["identity", "username"]

end Link

-- A field the user has added to an item.
structure CustomField where
  name : Option String
  value : Option String
  kind : FieldKind
  link : Option Link
deriving Repr, DecidableEq

-- A file kept with an item. Sizes are 64-bit counts.
structure Attachment where
  id : String
  fileName : Option String
  size : Option UInt64
deriving Repr, DecidableEq

-- A vault entry in the clear.
structure Item where
  id : String
  organizationId : Option String
  folderId : Option String
  collectionIds : List String
  name : String
  notes : Option String
  kind : Kind
  favorite : Bool
  login : Option Login
  card : Option Card
  identity : Option Identity
  sshKey : Option SshKey
  fields : List CustomField
  attachments : List Attachment
  creationDate : Option Timestamp
  revisionDate : Option Timestamp
  deletedDate : Option Timestamp
deriving Repr, DecidableEq

-- The addresses of an item, none unless it has a login.
def Item.uris (item : Item) : List Uri :=
  match item.login with
  | some login => login.uris
  | none => []

structure Folder where
  id : String
  name : String
deriving Repr, DecidableEq

structure Collection where
  id : String
  organizationId : Option String
  name : String
deriving Repr, DecidableEq

structure Organization where
  id : String
  name : String
deriving Repr, DecidableEq

end Vault

-- The items under consideration and the lists their references are resolved in.
structure Vault where
  items : List Vault.Item
  folders : List Vault.Folder
  collections : List Vault.Collection
  organizations : List Vault.Organization
deriving Repr, DecidableEq

namespace Vault

def empty : Vault :=
  ⟨[], [], [], []⟩

-- The same references with other items.
def narrow (vault : Vault) (items : List Item) : Vault :=
  { vault with items := items }

def filter (vault : Vault) (keep : Item → Bool) : Vault :=
  vault.narrow (vault.items.filter keep)

def ids (vault : Vault) : List String :=
  vault.items.map (·.id)

-- Of several entries with one name the first counts.
def folderId? (vault : Vault) (name : String) : Option String :=
  (vault.folders.find? (·.name == name)).map (·.id)

def collectionId? (vault : Vault) (name : String) : Option String :=
  (vault.collections.find? (·.name == name)).map (·.id)

def organizationId? (vault : Vault) (name : String) : Option String :=
  (vault.organizations.find? (·.name == name)).map (·.id)

end Vault

end VaultQuery
