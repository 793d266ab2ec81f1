import VaultQuery.Options
import VaultQuery.Query.Basic
import VaultQuery.Text.Search
import VaultQuery.Vault.Fields
import VaultQuery.Website.Match

namespace VaultQuery.Query

namespace Value

-- Whether a text holds the value in any case: anywhere, or as a whole token if it is quoted. An
-- empty value is in every text.
def matchesText (value : Value) (text : String) : Bool :=
  let needle := Text.lowerList value.text.toList
  needle.isEmpty ||
    if value.quoted then Text.occursAligned needle (Text.lowerList text.toList)
    else Text.occurs needle (Text.lowerList text.toList)

def matchesItem (value : Value) (item : Vault.Item) : Bool :=
  value.text.isEmpty || item.fieldTexts.any fun field => value.matchesText field.value

end Value

-- The texts of an item under a name, in any case.
def textsNamed (name : String) (item : Vault.Item) : List Vault.FieldText :=
  item.fieldTexts.filter fun field => Text.sameName name field.name

-- Whether one of the addresses of an item is meant. A strategy in the query wins over that of the
-- address, and that over the default.
def meansWebsite [Website.Services] (options : Options) (website : String)
    (strategy : Option Website.Strategy) (item : Vault.Item) : Bool :=
  item.uris.any fun stored =>
    stored.uri.any fun uri =>
      Website.uriMatches uri website
        ((strategy.or stored.strategy).getD options.defaultUriMatch)

-- Whether an item passes a test. A name that is not known in the vault fails for every item.
def Predicate.holds [Website.Services] (options : Options) (vault : Vault) (item : Vault.Item) :
    Predicate → Bool
  | .term value => value.matchesItem item
  | .fieldTerm title value =>
    (textsNamed title.text item).any fun text => value.matchesText text.value
  | .hasAttachment => !item.attachments.isEmpty
  | .hasUri => !item.uris.isEmpty
  | .hasFolder => item.folderId.isSome
  | .hasCollection => !item.collectionIds.isEmpty
  | .inFolder name => (vault.folderId? name).any fun id => item.folderId == some id
  | .inCollection name => (vault.collectionId? name).any fun id => item.collectionIds.contains id
  | .inOrganization name =>
    (vault.organizationId? name).any fun id => item.organizationId == some id
  | .inMyVault => item.organizationId.isNone
  | .inTrash => item.deletedDate.isSome
  | .isFavorite => item.favorite
  | .type name => (Vault.Kind.ofWord? name).any fun kind => item.kind == kind
  | .field name =>
    item.fields.any fun custom => custom.name.any fun other => Text.sameName name other
  | .website address strategy => meansWebsite options address strategy item

end VaultQuery.Query
