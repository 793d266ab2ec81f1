import VaultQuery.Proofs.Vault.Properties
import VaultQuery.Query.Matching

namespace VaultQuery

namespace Vault

theorem Property.exists_read {α : Type} {part : String} {get : Item → Option α}
    {properties : List (String × (α → Option String))} {read : α → Option String}
    (hpart : ∀ property ∈ ofPart part get properties, property ∈ visible)
    (hread : read ∈ properties.map Prod.snd) :
    ∃ property ∈ visible, ∀ item, property.read item = (get item).bind read := by
  obtain ⟨⟨name, read⟩, hm, rfl⟩ := List.mem_map.mp hread
  exact ⟨_, hpart _ (List.mem_map_of_mem hm), fun _ => rfl⟩

-- A property that is no secret can be seen without a link.
theorem Link.exists_visible {link : Link} (h : link.isSecret = false) :
    ∃ property ∈ Property.visible, ∀ item, property.read item = link.read item := by
  have hlogin : ∀ property ∈ Property.ofPart "login" Item.login Login.visible,
      property ∈ Property.visible := fun _ hp => by simp [Property.visible, hp]
  have hcard : ∀ property ∈ Property.ofPart "card" Item.card Card.visible,
      property ∈ Property.visible := fun _ hp => by simp [Property.visible, hp]
  have hidentity : ∀ property ∈ Property.ofPart "identity" Item.identity Identity.visible,
      property ∈ Property.visible := fun _ hp => by simp [Property.visible, hp]
  cases link with
  | loginPassword | cardCode => cases h
  | loginUsername => exact Property.exists_read hlogin (by simp [Login.visible])
  | cardCardholderName | cardBrand | cardNumber | cardExpMonth | cardExpYear =>
      exact Property.exists_read hcard (by simp [Card.visible])
  | identityTitle | identityFirstName | identityMiddleName | identityLastName | identityCompany
  | identityEmail | identityPhone | identityUsername =>
      exact Property.exists_read hidentity (by simp [Identity.visible])

-- A field of another kind shows the value of a property or nothing.
theorem CustomField.exists_property {field : CustomField} (h : field.kind ≠ .text) {item : Item}
    {value : String} (hv : field.value? item = some value) :
    ∃ property ∈ Property.visible, property.read item = some value := by
  unfold value? at hv
  cases hk : field.kind with
  | text => exact absurd hk h
  | hidden | boolean => simp [hk] at hv
  | linked =>
      simp only [hk, Option.bind_eq_some_iff] at hv
      obtain ⟨link, _, hr⟩ := hv
      cases hs : link.isSecret with
      | true => simp [hs] at hr
      | false =>
          obtain ⟨property, hp, hread⟩ := link.exists_visible hs
          rw [hs, if_neg Bool.false_ne_true] at hr
          exact ⟨property, hp, (hread item).trans hr⟩

-- A value that a field of another kind adds is found on the walk through the item.
theorem CustomField.exists_walked {field : CustomField} (h : field.kind ≠ .text) {item : Item}
    {text : FieldText} (ht : field.fieldText? item.toJson = some text) :
    ∃ walked ∈ FieldText.ofTopLevel item.toJson, walked.value = text.value := by
  rw [fieldText?_toJson, Option.map_eq_some_iff] at ht
  obtain ⟨value, hv, rfl⟩ := ht
  obtain ⟨property, hp, hread⟩ := exists_property h hv
  refine ⟨⟨property.path, property.name, value⟩, ?_, rfl⟩
  rw [Property.ofTopLevel_toJson, List.mem_filterMap]
  exact ⟨property, hp, by rw [Property.text?, hread, Option.map_some]⟩

-- A field that holds text shows the same whatever item it stands in.
theorem CustomField.fieldText?_of_text {field : CustomField} (h : field.kind = .text)
    (json other : Json) : field.fieldText? json = field.fieldText? other := by
  simp only [fieldText?, shown?, h]

-- An item with only those of its custom fields that hold text.
def Item.keepTextFields (item : Item) : Item :=
  { item with fields := item.fields.filter (·.kind = .text) }

theorem FieldText.ofTopLevel_keepTextFields (item : Item) :
    ofTopLevel item.keepTextFields.toJson = ofTopLevel item.toJson := rfl

theorem Item.mem_fieldTexts_keepTextFields (item : Item) (text : FieldText) :
    text ∈ item.keepTextFields.fieldTexts ↔
      text ∈ FieldText.ofTopLevel item.toJson ∨
        (∃ field ∈ item.fields, field.kind = .text ∧ field.fieldText? item.toJson = some text) ∨
        ∃ attachment ∈ item.attachments, attachment.fieldText? = some text := by
  have hfields : (∃ field ∈ item.keepTextFields.fields,
        field.fieldText? item.keepTextFields.toJson = some text) ↔
      ∃ field ∈ item.fields, field.kind = .text ∧ field.fieldText? item.toJson = some text := by
    simp only [keepTextFields, List.mem_filter, decide_eq_true_eq, and_assoc]
    refine exists_congr fun field => and_congr_right fun _ => and_congr_right fun hk => ?_
    rw [CustomField.fieldText?_of_text hk]
  simp only [fieldTexts, List.mem_append, List.mem_filterMap, or_assoc, hfields,
    FieldText.ofTopLevel_keepTextFields]
  rfl

-- The same values are seen with and without the other fields.
theorem Item.exists_mem_fieldTexts_iff (item : Item) (p : String → Prop) :
    (∃ text ∈ item.keepTextFields.fieldTexts, p text.value) ↔
      ∃ text ∈ item.fieldTexts, p text.value := by
  constructor
  · rintro ⟨text, ht, hp⟩
    refine ⟨text, ?_, hp⟩
    simp only [fieldTexts, List.mem_append, List.mem_filterMap, or_assoc]
    rcases (item.mem_fieldTexts_keepTextFields text).mp ht with hw | ⟨field, hf, _, hs⟩ | ha
    · exact .inl hw
    · exact .inr (.inl ⟨field, hf, hs⟩)
    · exact .inr (.inr ha)
  · rintro ⟨text, ht, hp⟩
    simp only [mem_fieldTexts_keepTextFields]
    simp only [fieldTexts, List.mem_append, List.mem_filterMap, or_assoc] at ht
    rcases ht with hw | ⟨field, hf, hs⟩ | ha
    · exact ⟨text, .inl hw, hp⟩
    · by_cases hk : field.kind = .text
      · exact ⟨text, .inr (.inl ⟨field, hf, hk, hs⟩), hp⟩
      · obtain ⟨walked, hw, hv⟩ := field.exists_walked hk hs
        exact ⟨walked, .inl hw, hv ▸ hp⟩
    · exact ⟨text, .inr (.inr ha), hp⟩

end Vault

open Vault (Item FieldText)

-- Whether a value is found in an item does not depend on the custom fields that hold no text, and
-- what such a field shows is also found on the walk through the item.
theorem Query.Value.matchesItem_keepTextFields (value : Value) (item : Item) :
    value.matchesItem item.keepTextFields = value.matchesItem item ∧
      ∀ field ∈ item.fields, field.kind ≠ .text →
        ∀ text, field.fieldText? item.toJson = some text →
          ∃ walked ∈ FieldText.ofTopLevel item.toJson, walked.value = text.value := by
  refine ⟨?_, fun field _ hk text ht => field.exists_walked hk ht⟩
  have hsame := item.exists_mem_fieldTexts_iff fun text => value.matchesText text = true
  rw [matchesItem, matchesItem, Bool.eq_iff_iff, Bool.or_eq_true, Bool.or_eq_true,
    List.any_eq_true, List.any_eq_true, hsame]

end VaultQuery
