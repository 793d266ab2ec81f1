import Mathlib.Data.Nat.Find
import VaultQuery.Proofs.Text.Utf8
import VaultQuery.Text.Bytes

namespace VaultQuery.Text

theorem bytesOf_append (cs ds : List Char) : bytesOf (cs ++ ds) = bytesOf cs ++ bytesOf ds :=
  List.flatMap_append

theorem length_bytesOf (cs : List Char) : (bytesOf cs).length = byteLength cs := by
  induction cs with
  | nil => rfl
  | cons c cs ih =>
      rw [bytesOf_cons, List.length_append, String.length_utf8EncodeChar]
      exact congrArg (c.utf8Size + ·) ih

theorem bytesOf_ne_nil {cs : List Char} (h : cs ≠ []) : bytesOf cs ≠ [] := by
  obtain ⟨c, rest, rfl⟩ := List.exists_cons_of_ne_nil h
  rw [bytesOf_cons]
  exact List.append_ne_nil_of_left_ne_nil String.utf8EncodeChar_ne_nil _

-- The needle stands among the bytes from a position on.
def StandsAt (needle bytes : List UInt8) (start : Nat) : Prop :=
  needle <+: bytes.drop start

instance (needle bytes : List UInt8) (start : Nat) : Decidable (StandsAt needle bytes start) :=
  inferInstanceAs (Decidable (_ <+: _))

theorem StandsAt.lt_length {needle bytes : List UInt8} {start : Nat}
    (h : StandsAt needle bytes start) (hne : needle ≠ []) : start < bytes.length := by
  by_contra hle
  rw [StandsAt, List.drop_eq_nil_of_le (by omega), List.prefix_nil] at h
  exact hne h

section Boundaries

variable {needle left cs : List Char}

theorem standsAt_byteLength_iff :
    StandsAt (bytesOf needle) (bytesOf (left ++ cs)) (byteLength left) ↔ needle <+: cs := by
  rw [StandsAt, bytesOf_append, List.drop_left' (length_bytesOf left)]
  constructor
  · exact prefix_of_bytesOf
  · rintro ⟨after, rfl⟩
    exact ⟨bytesOf after, (bytesOf_append needle after).symm⟩

-- The first byte of the form of a character is marked as such, and no other byte is.
theorem start_eq_zero_of_standsAt {c : Char} {start : Nat} (hne : needle ≠ [])
    (h : StandsAt (bytesOf needle) (bytesOf (c :: cs)) start) (hlt : start < c.utf8Size) :
    start = 0 := by
  obtain ⟨d, rest, rfl⟩ := List.exists_cons_of_ne_nil hne
  have hc : start < (String.utf8EncodeChar c).length := by
    rwa [String.length_utf8EncodeChar]
  have hd : 0 < (String.utf8EncodeChar d).length := by
    rw [String.length_utf8EncodeChar]
    exact d.utf8Size_pos
  have hpos : 0 < (bytesOf (d :: rest)).length :=
    List.length_pos_iff.mpr (bytesOf_ne_nil (List.cons_ne_nil d rest))
  have hbyte : (String.utf8EncodeChar d)[0] = (String.utf8EncodeChar c)[start] := by
    have hfirst := List.IsPrefix.getElem h hpos
    simpa only [bytesOf_cons, List.getElem_drop, Nat.add_zero, List.getElem_append_left hd,
      List.getElem_append_left hc] using hfirst
  have hmark : (String.utf8EncodeChar d)[0].IsUTF8FirstByte :=
    UInt8.isUTF8FirstByte_getElem_utf8EncodeChar.mpr rfl
  rw [hbyte] at hmark
  exact UInt8.isUTF8FirstByte_getElem_utf8EncodeChar.mp hmark

-- Whatever is found stands between two parts of the text.
theorem exists_parts_of_standsAt {text : List Char} {start : Nat} (hne : needle ≠ [])
    (h : StandsAt (bytesOf needle) (bytesOf text) start) :
    ∃ before after, text = before ++ (needle ++ after) ∧ start = byteLength before := by
  induction text generalizing start with
  | nil => exact absurd (h.lt_length (bytesOf_ne_nil hne)) (Nat.not_lt_zero start)
  | cons c cs ih =>
      by_cases hlt : start < c.utf8Size
      · obtain rfl := start_eq_zero_of_standsAt hne h hlt
        obtain ⟨after, hafter⟩ := prefix_of_bytesOf h
        exact ⟨[], after, hafter.symm, rfl⟩
      · have hlater : StandsAt (bytesOf needle) (bytesOf cs) (start - c.utf8Size) := by
          have hlength : (String.utf8EncodeChar c).length ≤ start := by
            rw [String.length_utf8EncodeChar]
            omega
          rw [StandsAt, bytesOf_cons, List.drop_append, List.drop_eq_nil_of_le hlength,
            String.length_utf8EncodeChar, List.nil_append] at h
          exact h
        obtain ⟨before, after, rfl, hstart⟩ := ih hlater
        exact ⟨c :: before, after, rfl, by rw [byteLength]; omega⟩

-- No needle stands at a position inside the character that is next.
theorem not_standsAt_inside {c : Char} (hne : needle ≠ []) {start : Nat}
    (hlow : byteLength left < start) (hhigh : start < byteLength left + c.utf8Size) :
    ¬StandsAt (bytesOf needle) (bytesOf (left ++ c :: cs)) start := by
  intro h
  obtain ⟨before, after, htext, rfl⟩ := exists_parts_of_standsAt hne h
  rcases List.append_eq_append_iff.mp htext with ⟨part, rfl, hpart⟩ | ⟨part, rfl, _⟩
  · cases part with
    | nil =>
        rw [List.append_nil] at hlow
        exact Nat.lt_irrefl _ hlow
    | cons d part =>
        rw [List.cons_append, List.cons.injEq] at hpart
        rw [byteLength_append, byteLength, ← hpart.1] at hhigh
        omega
  · rw [byteLength_append] at hlow
    omega

end Boundaries

section Search

variable {needle bytes : List UInt8} {position : Nat} {starts : List Nat}

-- The first place from a position on at which the needle stands.
structure FirstFrom (needle bytes : List UInt8) (position start : Nat) : Prop where
  le : position ≤ start
  stands : StandsAt needle bytes start
  first : ∀ earlier, position ≤ earlier → earlier < start → ¬StandsAt needle bytes earlier

-- The places that a search comes to from a position on, if it goes on behind each place at which it
-- has found the needle.
inductive FoundFrom (needle bytes : List UInt8) : Nat → List Nat → Prop where
  | none {position : Nat} (h : ∀ start, position ≤ start → ¬StandsAt needle bytes start) :
    FoundFrom needle bytes position []
  | next {position start : Nat} {starts : List Nat} (hf : FirstFrom needle bytes position start)
    (h : FoundFrom needle bytes (start + needle.length) starts) :
    FoundFrom needle bytes position (start :: starts)

theorem FirstFrom.unique {first second : Nat} (hf : FirstFrom needle bytes position first)
    (hs : FirstFrom needle bytes position second) : first = second := by
  rcases Nat.lt_trichotomy first second with hlt | heq | hgt
  · exact absurd hf.stands (hs.first first hf.le hlt)
  · exact heq
  · exact absurd hs.stands (hf.first second hs.le hgt)

theorem exists_firstFrom {start : Nat} (h : StandsAt needle bytes start) :
    ∃ first, FirstFrom needle bytes 0 first := by
  classical
  have hex : ∃ place, StandsAt needle bytes place := ⟨start, h⟩
  exact ⟨Nat.find hex, Nat.zero_le _, Nat.find_spec hex, fun _ _ hlt => Nat.find_min hex hlt⟩

namespace FoundFrom

theorem head?_eq_some_iff (h : FoundFrom needle bytes position starts) {start : Nat} :
    starts.head? = some start ↔ FirstFrom needle bytes position start := by
  cases h with
  | none hnone =>
      refine ⟨nofun, fun hf => ?_⟩
      exact absurd hf.stands (hnone start hf.le)
  | next hf _ =>
      rw [List.head?_cons, Option.some.injEq]
      constructor
      · rintro rfl
        exact hf
      · exact hf.unique

-- What stands at the position is found there.
theorem eq_cons (h : FoundFrom needle bytes position starts)
    (hstands : StandsAt needle bytes position) :
    ∃ rest, starts = position :: rest ∧
      FoundFrom needle bytes (position + needle.length) rest := by
  have hhere : FirstFrom needle bytes position position :=
    ⟨Nat.le_refl _, hstands, fun earlier hle hlt => absurd hle (Nat.not_le.mpr hlt)⟩
  cases h with
  | none hnone => exact absurd hstands (hnone position (Nat.le_refl _))
  | @next _ start rest hf hrest =>
      obtain rfl := hf.unique hhere
      exact ⟨rest, rfl, hrest⟩

-- A search finds the same if it begins later and nothing is to be found before.
theorem iff_of_le {later : Nat} (hle : position ≤ later)
    (hnone : ∀ start, position ≤ start → start < later → ¬StandsAt needle bytes start) :
    FoundFrom needle bytes position starts ↔ FoundFrom needle bytes later starts := by
  have hlater : ∀ start, position ≤ start → StandsAt needle bytes start → later ≤ start := by
    intro start hs hstands
    by_contra hlt
    exact hnone start hs (Nat.not_le.mp hlt) hstands
  constructor
  · intro h
    cases h with
    | none h => exact .none fun start hs => h start (Nat.le_trans hle hs)
    | next hf hrest =>
        exact .next ⟨hlater _ hf.le hf.stands, hf.stands,
          fun earlier he => hf.first earlier (Nat.le_trans hle he)⟩ hrest
  · intro h
    cases h with
    | none h => exact .none fun start hs hstands => h start (hlater start hs hstands) hstands
    | next hf hrest =>
        exact .next ⟨Nat.le_trans hle hf.le, hf.stands,
          fun earlier he hlt hstands =>
            hf.first earlier (hlater earlier he hstands) hlt hstands⟩ hrest

end FoundFrom

-- Where the needle does not stand, a search of a text goes on behind the next character.
theorem FoundFrom.skip {needle left cs : List Char} {c : Char} (hne : needle ≠ [])
    (hp : ¬needle <+: c :: cs)
    (h : FoundFrom (bytesOf needle) (bytesOf (left ++ c :: cs)) (byteLength left) starts) :
    FoundFrom (bytesOf needle) (bytesOf (left ++ c :: cs)) (byteLength (left ++ [c])) starts := by
  have hlength : byteLength (left ++ [c]) = byteLength left + c.utf8Size := by
    rw [byteLength_append]
    rfl
  rw [hlength]
  refine (iff_of_le (Nat.le_add_right _ _) ?_).mp h
  intro start hlow hhigh
  rcases Nat.eq_or_lt_of_le hlow with rfl | hlow
  · rwa [standsAt_byteLength_iff]
  · exact not_standsAt_inside hne hlow hhigh

-- What looks for bytes: the first place of a needle, and its places one behind the other.
structure Finder where
  first? : List UInt8 → List UInt8 → Option Nat
  starts : List UInt8 → List UInt8 → List Nat

-- A needle that is not empty is found from the left to the right.
structure Finder.Reports (finder : Finder) : Prop where
  first : ∀ needle bytes start, needle ≠ [] →
    (finder.first? needle bytes = some start ↔ FirstFrom needle bytes 0 start)
  starts : ∀ needle bytes, needle ≠ [] → FoundFrom needle bytes 0 (finder.starts needle bytes)

-- The places of a needle from a position on, tried one after the other. `covered` says how many of
-- the bytes the last place still takes.
def placesFrom (needle : List UInt8) : Nat → Nat → List UInt8 → List Nat
  | _, _, [] => []
  | position, covered + 1, _ :: bytes => placesFrom needle (position + 1) covered bytes
  | position, 0, byte :: bytes =>
    if needle.isPrefixOf (byte :: bytes) then
      position :: placesFrom needle (position + 1) (needle.length - 1) bytes
    else placesFrom needle (position + 1) 0 bytes

theorem foundFrom_placesFrom (hne : needle ≠ []) (before rest : List UInt8) (covered : Nat) :
    FoundFrom needle (before ++ rest) (before.length + covered)
      (placesFrom needle before.length covered rest) := by
  induction rest generalizing before covered with
  | nil =>
      refine .none fun start hs hstands => ?_
      have hlt := hstands.lt_length hne
      rw [List.append_nil] at hlt
      omega
  | cons byte rest ih =>
      have hnext := ih (before ++ [byte])
      rw [← List.append_cons, List.length_append, List.length_singleton] at hnext
      have hstands : StandsAt needle (before ++ byte :: rest) before.length ↔
          needle.isPrefixOf (byte :: rest) = true := by
        rw [StandsAt, List.drop_left, List.isPrefixOf_iff_prefix]
      cases covered with
      | succ covered =>
          rw [placesFrom, Nat.add_comm covered 1, ← Nat.add_assoc]
          exact hnext covered
      | zero =>
          rw [placesFrom, Nat.add_zero]
          split
          · rename_i hp
            have hpos := List.length_pos_iff.mpr hne
            have hrest := hnext (needle.length - 1)
            rw [Nat.add_assoc, Nat.add_sub_cancel' hpos] at hrest
            refine .next ⟨Nat.le_refl _, hstands.mpr hp, ?_⟩ hrest
            exact fun earlier hle hlt => absurd hle (Nat.not_le.mpr hlt)
          · rename_i hp
            refine (FoundFrom.iff_of_le (Nat.le_add_right _ 1) ?_).mpr (hnext 0)
            intro start hlow hhigh
            obtain rfl : start = before.length := by omega
            rwa [hstands]

-- The finder that tries every position.
def Finder.stepwise : Finder where
  first? needle bytes := (placesFrom needle 0 0 bytes).head?
  starts needle bytes := placesFrom needle 0 0 bytes

theorem Finder.stepwise_reports : stepwise.Reports where
  first _ bytes _ hne := (foundFrom_placesFrom hne [] bytes 0).head?_eq_some_iff
  starts _ bytes hne := foundFrom_placesFrom hne [] bytes 0

end Search

end VaultQuery.Text
