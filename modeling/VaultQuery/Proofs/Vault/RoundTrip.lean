import VaultQuery.Proofs.Json.Restores
import VaultQuery.Proofs.Time.RoundTrip
import VaultQuery.Vault.Codec

namespace VaultQuery

theorem Website.Strategy.ofName?_name (strategy : Strategy) :
    ofName? strategy.name = some strategy := by
  cases strategy <;> rfl

namespace Vault

open Json

theorem Kind.ofName?_name (kind : Kind) : ofName? kind.name = some kind := by
  cases kind <;> rfl

theorem FieldKind.ofName?_name (kind : FieldKind) : ofName? kind.name = some kind := by
  cases kind <;> rfl

theorem Link.ofName?_name (link : Link) : ofName? link.name = some link := by
  cases link <;> rfl

theorem optional?_textJson {fields : List (String × Json)} {key : String} {value : Option String}
    (hk : fields.lookup key = some (textJson value)) :
    (obj fields).optional? key asString? = some value :=
  optional?_eq hk (asOption?_ofOption fun text _ => restores_str text)

theorem optional?_timeJson {fields : List (String × Json)} {key : String}
    {value : Option Timestamp} (hk : fields.lookup key = some (timeJson value))
    (h : ∀ time ∈ value, time.date.inRange = true) :
    (obj fields).optional? key readTime? = some value := by
  apply optional?_eq hk
  apply asOption?_ofOption
  intro time ht
  refine ⟨?_, nofun⟩
  rw [readTime?, asString?, Option.bind_some, Timestamp.ofString?_toText (h time ht)]

-- In each record the field is found under its key and read back, one after the other.
theorem Uri.restores (uri : Uri) : Restores toJson ofJson? uri := by
  have hstrategy := asOption?_ofOption fun strategy (_ : strategy ∈ uri.strategy) =>
    restores_name Website.Strategy.ofName?_name strategy
  refine ⟨?_, nofun⟩
  unfold ofJson?
  refine read_then rfl ?_
  refine read_then (optional?_textJson rfl) ?_
  refine read_then (optional?_eq rfl hstrategy) ?_
  rfl

theorem Login.restores (login : Login) : Restores toJson ofJson? login := by
  have huris := asList?_ofList fun uri (_ : uri ∈ login.uris) => uri.restores
  refine ⟨?_, nofun⟩
  unfold ofJson?
  refine read_then rfl ?_
  iterate 3 refine read_then (optional?_textJson rfl) ?_
  refine read_then (withDefault?_eq rfl huris) ?_
  rfl

theorem Card.restores (card : Card) : Restores toJson ofJson? card := by
  refine ⟨?_, nofun⟩
  unfold ofJson?
  refine read_then rfl ?_
  iterate 6 refine read_then (optional?_textJson rfl) ?_
  rfl

theorem Identity.restores (identity : Identity) : Restores toJson ofJson? identity := by
  refine ⟨?_, nofun⟩
  unfold ofJson?
  refine read_then rfl ?_
  iterate 13 refine read_then (optional?_textJson rfl) ?_
  rfl

theorem SshKey.restores (key : SshKey) : Restores toJson ofJson? key := by
  refine ⟨?_, nofun⟩
  unfold ofJson?
  refine read_then rfl ?_
  iterate 3 refine read_then (optional?_textJson rfl) ?_
  rfl

theorem CustomField.restores (field : CustomField) : Restores toJson ofJson? field := by
  have hkind := (restores_name FieldKind.ofName?_name field.kind).decode_encode
  have hlink := asOption?_ofOption fun link (_ : link ∈ field.link) =>
    restores_name Link.ofName?_name link
  refine ⟨?_, nofun⟩
  unfold ofJson?
  refine read_then rfl ?_
  iterate 2 refine read_then (optional?_textJson rfl) ?_
  refine read_then (required?_eq rfl hkind) ?_
  refine read_then (optional?_eq rfl hlink) ?_
  rfl

theorem Attachment.restores_size (size : UInt64) :
    Restores (fun size => .nat size.toNat) size? size := by
  refine ⟨?_, nofun⟩
  rw [size?, if_pos size.toNat_lt_size, UInt64.ofNat_toNat]

theorem Attachment.restores (attachment : Attachment) : Restores toJson ofJson? attachment := by
  have hsize := asOption?_ofOption fun size (_ : size ∈ attachment.size) => restores_size size
  refine ⟨?_, nofun⟩
  unfold ofJson?
  refine read_then rfl ?_
  refine read_then (required?_eq rfl rfl) ?_
  refine read_then (optional?_textJson rfl) ?_
  refine read_then (optional?_eq rfl hsize) ?_
  rfl

def Item.dates (item : Item) : List Timestamp :=
  item.creationDate.toList ++ item.revisionDate.toList ++ item.deletedDate.toList

theorem Item.restores {item : Item} (h : ∀ time ∈ item.dates, time.date.inRange = true) :
    Restores toJson ofJson? item := by
  simp only [dates, List.forall_mem_append, Option.mem_toList] at h
  obtain ⟨⟨hcreation, hrevision⟩, hdeletion⟩ := h
  have hcollections := asList?_ofList fun id (_ : id ∈ item.collectionIds) => restores_str id
  have hkind := (restores_name Kind.ofName?_name item.kind).decode_encode
  have hlogin := asOption?_ofOption fun login (_ : login ∈ item.login) => login.restores
  have hcard := asOption?_ofOption fun card (_ : card ∈ item.card) => card.restores
  have hidentity := asOption?_ofOption fun identity (_ : identity ∈ item.identity) =>
    identity.restores
  have hkey := asOption?_ofOption fun key (_ : key ∈ item.sshKey) => key.restores
  have hfields := asList?_ofList fun field (_ : field ∈ item.fields) => field.restores
  have hattachments := asList?_ofList fun attachment (_ : attachment ∈ item.attachments) =>
    attachment.restores
  refine ⟨?_, nofun⟩
  unfold ofJson?
  refine read_then rfl ?_
  refine read_then (required?_eq rfl rfl) ?_
  iterate 2 refine read_then (optional?_textJson rfl) ?_
  refine read_then (withDefault?_eq rfl hcollections) ?_
  refine read_then (required?_eq rfl rfl) ?_
  refine read_then (optional?_textJson rfl) ?_
  refine read_then (required?_eq rfl hkind) ?_
  refine read_then (withDefault?_eq rfl rfl) ?_
  refine read_then (optional?_eq rfl hlogin) ?_
  refine read_then (optional?_eq rfl hcard) ?_
  refine read_then (optional?_eq rfl hidentity) ?_
  refine read_then (optional?_eq rfl hkey) ?_
  refine read_then (withDefault?_eq rfl hfields) ?_
  refine read_then (withDefault?_eq rfl hattachments) ?_
  refine read_then (optional?_timeJson rfl hcreation) ?_
  refine read_then (optional?_timeJson rfl hrevision) ?_
  refine read_then (optional?_timeJson rfl hdeletion) ?_
  rfl

theorem Folder.restores (folder : Folder) : Restores toJson ofJson? folder := by
  refine ⟨?_, nofun⟩
  unfold ofJson?
  refine read_then rfl ?_
  iterate 2 refine read_then (required?_eq rfl rfl) ?_
  rfl

theorem Collection.restores (collection : Collection) : Restores toJson ofJson? collection := by
  refine ⟨?_, nofun⟩
  unfold ofJson?
  refine read_then rfl ?_
  refine read_then (required?_eq rfl rfl) ?_
  refine read_then (optional?_textJson rfl) ?_
  refine read_then (required?_eq rfl rfl) ?_
  rfl

theorem Organization.restores (organization : Organization) :
    Restores toJson ofJson? organization := by
  refine ⟨?_, nofun⟩
  unfold ofJson?
  refine read_then rfl ?_
  iterate 2 refine read_then (required?_eq rfl rfl) ?_
  rfl

theorem restores {vault : Vault}
    (h : ∀ item ∈ vault.items, ∀ time ∈ item.dates, time.date.inRange = true) :
    Restores toJson ofJson? vault := by
  have hitems := asList?_ofList fun item hi => Item.restores (h item hi)
  have hfolders := asList?_ofList fun folder (_ : folder ∈ vault.folders) => folder.restores
  have hcollections := asList?_ofList fun collection (_ : collection ∈ vault.collections) =>
    collection.restores
  have horganizations := asList?_ofList fun organization
    (_ : organization ∈ vault.organizations) => organization.restores
  refine ⟨?_, nofun⟩
  unfold ofJson?
  refine read_then rfl ?_
  refine read_then (withDefault?_eq rfl hitems) ?_
  refine read_then (withDefault?_eq rfl hfolders) ?_
  refine read_then (withDefault?_eq rfl hcollections) ?_
  refine read_then (withDefault?_eq rfl horganizations) ?_
  rfl

theorem inRange_of_optional?_readTime? {json : Json} {key : String} {value : Option Timestamp}
    (h : json.optional? key readTime? = some value) :
    ∀ time ∈ value, time.date.inRange = true := by
  intro time ht
  obtain ⟨source, hs⟩ := of_optional?_eq_some h time ht
  obtain ⟨text, _, ht⟩ := Option.bind_eq_some_iff.mp hs
  exact Timestamp.inRange_of_ofString? ht

-- The dates are the last fields that are read.
theorem Item.inRange_of_ofJson? {json : Json} {item : Item} (h : ofJson? json = some item) :
    ∀ time ∈ item.dates, time.date.inRange = true := by
  unfold ofJson? at h
  iterate 15 obtain ⟨_, _, h⟩ := Option.bind_eq_some_iff.mp h
  obtain ⟨creation, hc, h⟩ := Option.bind_eq_some_iff.mp h
  obtain ⟨revision, hr, h⟩ := Option.bind_eq_some_iff.mp h
  obtain ⟨deletion, hd, h⟩ := Option.bind_eq_some_iff.mp h
  cases h
  simp only [dates, List.forall_mem_append, Option.mem_toList]
  exact ⟨⟨inRange_of_optional?_readTime? hc, inRange_of_optional?_readTime? hr⟩,
    inRange_of_optional?_readTime? hd⟩

theorem inRange_of_ofJson? {json : Json} {vault : Vault} (h : ofJson? json = some vault) :
    ∀ item ∈ vault.items, ∀ time ∈ item.dates, time.date.inRange = true := by
  unfold ofJson? at h
  obtain ⟨record, _, h⟩ := Option.bind_eq_some_iff.mp h
  obtain ⟨items, hitems, h⟩ := Option.bind_eq_some_iff.mp h
  iterate 3 obtain ⟨_, _, h⟩ := Option.bind_eq_some_iff.mp h
  cases h
  intro item hi
  obtain ⟨source, hs⟩ := of_withDefault?_eq_some hitems item hi
  exact Item.inRange_of_ofJson? hs

-- A vault whose dates lie in the years that are kept is read back whole from what it is written as.
-- Every vault that is read has such dates, so writing it and reading it again changes nothing.
theorem ofJson?_toJson :
    (∀ vault : Vault, (∀ item ∈ vault.items, ∀ time ∈ item.dates, time.date.inRange = true) →
      ofJson? vault.toJson = some vault) ∧
    ∀ json vault, ofJson? json = some vault → ofJson? vault.toJson = some vault := by
  refine ⟨?_, ?_⟩
  · intro vault h
    exact (restores h).decode_encode
  · intro json vault h
    exact (restores (inRange_of_ofJson? h)).decode_encode

theorem ofJson?_toJson_leap_second :
    let time : Timestamp := ⟨⟨0, 2, 29, by decide, by decide⟩, 23, 59, 60, 999999999, by decide,
      by decide, by decide, by decide⟩
    let login : Login := ⟨some "", none, none, [⟨some "a.b", some .startsWith⟩, ⟨none, none⟩]⟩
    let item : Item := ⟨"1", none, some "f", ["c", "c"], "\"", some "é", .secureNote, true,
      some login, some ⟨none, none, none, some "2", none, none⟩, none, some ⟨none, none, none⟩,
      [⟨some "x", none, .linked, some .cardExpMonth⟩],
      [⟨"2", none, some 18446744073709551615⟩, ⟨"3", some "b", none⟩], some time, none, some time⟩
    let vault : Vault := ⟨[item], [⟨"f", "F"⟩], [⟨"c", none, "C"⟩], [⟨"o", "O"⟩]⟩
    (∀ item ∈ vault.items, ∀ time ∈ item.dates, time.date.inRange = true) ∧
      ofJson? vault.toJson = some vault := by
  intro time login item vault
  have hdates : ∀ item ∈ vault.items, ∀ time ∈ item.dates, time.date.inRange = true := by
    intro other ho
    rw [List.mem_singleton.mp ho]
    intro time ht
    simp only [Item.dates, item, Option.toList, List.append_nil, List.mem_append,
      List.mem_singleton, or_self] at ht
    rw [ht]
    decide
  exact ⟨hdates, ofJson?_toJson.1 vault hdates⟩

end Vault

end VaultQuery
