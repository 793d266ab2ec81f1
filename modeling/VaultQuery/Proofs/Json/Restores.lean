import VaultQuery.Json.Record
import VaultQuery.Proofs.Lists

namespace VaultQuery.Json

variable {α : Type} {encode : α → Json} {decode : Json → Option α}

-- A value is read back from what it is written as. It is not written as null, which stands for a
-- missing value.
structure Restores (encode : α → Json) (decode : Json → Option α) (value : α) : Prop where
  decode_encode : decode (encode value) = some value
  ne_null : encode value ≠ .null

theorem restores_str (value : String) : Restores .str asString? value :=
  ⟨rfl, nofun⟩

theorem restores_name {name : α → String} {ofName? : String → Option α}
    (h : ∀ value, ofName? (name value) = some value) (value : α) :
    Restores (fun value => .str (name value)) (fun json => json.asName?.bind ofName?) value :=
  ⟨h value, nofun⟩

theorem asList?_ofList {values : List α} (h : ∀ value ∈ values, Restores encode decode value) :
    asList? decode (ofList encode values) = some values := by
  show (values.map encode).mapM decode = some values
  rw [mapM_eq_some_iff, List.forall₂_map_left_iff, List.forall₂_same]
  intro value hv
  exact (h value hv).decode_encode

theorem asOption?_ofOption {value : Option α}
    (h : ∀ present ∈ value, Restores encode decode present) :
    asOption? decode (ofOption encode value) = some value := by
  cases value with
  | none => rfl
  | some value =>
      obtain ⟨hdecode, hnull⟩ := h value rfl
      rw [ofOption, asOption?.eq_2 _ _ hnull, hdecode, Option.map_some]

-- One value after another is read.
theorem read_then {β : Type} {first : Option α} {rest : α → Option β} {value : α} {result : β}
    (h : first = some value) (hr : rest value = some result) : (first >>= rest) = some result :=
  Option.bind_eq_some_iff.mpr ⟨value, h, hr⟩

section Fields

variable {fields : List (String × Json)} {key : String} {json : Json}

theorem required?_eq {value : α} (hk : fields.lookup key = some json)
    (h : decode json = some value) : (obj fields).required? key decode = some value := by
  rw [required?, get?, hk, Option.bind_some, h]

theorem withDefault?_eq {absent value : α} (hk : fields.lookup key = some json)
    (h : decode json = some value) : (obj fields).withDefault? key absent decode = some value := by
  simp only [withDefault?, get?, hk, h]

theorem optional?_eq {value : Option α} (hk : fields.lookup key = some json)
    (h : json.asOption? decode = some value) : (obj fields).optional? key decode = some value := by
  simp only [optional?, get?, hk, h]

end Fields

theorem of_asList?_eq_some {json : Json} {values : List α} (h : json.asList? decode = some values) :
    ∀ value ∈ values, ∃ source, decode source = some value := by
  unfold asList? at h
  split at h
  · exact exists_of_mem_mapM h
  · cases h

theorem of_asOption?_eq_some {json : Json} {value : Option α}
    (h : json.asOption? decode = some value) :
    ∀ present ∈ value, ∃ source, decode source = some present := by
  unfold asOption? at h
  split at h
  · cases h
    exact nofun
  · obtain ⟨present, hp, rfl⟩ := Option.map_eq_some_iff.mp h
    rintro _ ⟨⟩
    exact ⟨json, hp⟩

-- A list that may be absent has only elements that were read.
theorem of_withDefault?_eq_some {json : Json} {key : String} {values : List α}
    (h : json.withDefault? key [] (asList? decode) = some values) :
    ∀ value ∈ values, ∃ source, decode source = some value := by
  unfold withDefault? at h
  split at h
  · cases h
    exact nofun
  · exact of_asList?_eq_some h

theorem of_optional?_eq_some {json : Json} {key : String} {value : Option α}
    (h : json.optional? key decode = some value) :
    ∀ present ∈ value, ∃ source, decode source = some present := by
  unfold optional? at h
  split at h
  · cases h
    exact nofun
  · exact of_asOption?_eq_some h

end VaultQuery.Json
