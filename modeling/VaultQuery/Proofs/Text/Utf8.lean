import Mathlib.Data.List.Basic

namespace VaultQuery.Text

-- The UTF-8 form of a text.
def bytesOf (cs : List Char) : List UInt8 :=
  cs.flatMap String.utf8EncodeChar

theorem bytesOf_cons (c : Char) (cs : List Char) :
    bytesOf (c :: cs) = String.utf8EncodeChar c ++ bytesOf cs :=
  List.flatMap_cons

def bytes (s : String) : List UInt8 :=
  bytesOf s.toList

theorem toByteArray_bytes (s : String) : (bytes s).toByteArray = s.toByteArray :=
  String.utf8Encode_toList

-- The first difference of two byte sequences is a lower byte in the first one, and neither of them
-- ends before it.
inductive PartsBelow : List UInt8 → List UInt8 → Prop where
  | here {low high : UInt8} (left right : List UInt8) (h : low < high) :
      PartsBelow (low :: left) (high :: right)
  | later (shared : UInt8) {left right : List UInt8} (h : PartsBelow left right) :
      PartsBelow (shared :: left) (shared :: right)

theorem partsBelow_cons {low high : Nat} {left right : List UInt8} (hlow : low < 256)
    (hhigh : high < 256) (h : low < high ∨ low = high ∧ PartsBelow left right) :
    PartsBelow (UInt8.ofNat low :: left) (UInt8.ofNat high :: right) := by
  rcases h with hlt | ⟨rfl, hrest⟩
  · apply PartsBelow.here
    rw [UInt8.lt_iff_toNat_lt, UInt8.toNat_ofNat_of_lt' hlow, UInt8.toNat_ofNat_of_lt' hhigh]
    exact hlt
  · exact .later _ hrest

theorem PartsBelow.append_lt {first second : List UInt8} (h : PartsBelow first second)
    (left right : List UInt8) : first ++ left < second ++ right := by
  induction h with
  | here _ _ hlt => exact List.cons_lt_cons_iff.mpr (.inl hlt)
  | later _ _ ih => exact List.cons_lt_cons_iff.mpr (.inr ⟨rfl, ih⟩)

section Digits

variable {v w : Nat} {left right : List UInt8}

-- A byte that holds one digit of a code point in some radix. It settles the order of two forms,
-- or what is behind it does.
theorem partsBelow_digit (unit : Nat) {radix mark : Nat} (hradix : 0 < radix)
    (hbyte : radix + mark ≤ 256) (h : v % (unit * radix) < w % (unit * radix))
    (hrest : v % unit < w % unit → PartsBelow left right) :
    PartsBelow (UInt8.ofNat (v / unit % radix + mark) :: left)
      (UInt8.ofNat (w / unit % radix + mark) :: right) := by
  have hv := Nat.mod_lt (v / unit) hradix
  have hw := Nat.mod_lt (w / unit) hradix
  rw [Nat.mod_mul, Nat.mod_mul] at h
  apply partsBelow_cons (by omega) (by omega)
  rcases Nat.lt_trichotomy (v / unit % radix) (w / unit % radix) with hlt | heq | hgt
  · exact .inl (by omega)
  · rw [heq] at h ⊢
    exact .inr ⟨rfl, hrest (by omega)⟩
  · have hmul := Nat.mul_le_mul_left unit hgt
    have hunit : 0 < unit := by
      rw [Nat.pos_iff_ne_zero]
      rintro rfl
      simp at hgt
    have hmod := Nat.mod_lt w hunit
    rw [Nat.mul_succ] at hmul
    omega

theorem partsBelow_last (h : v % 64 < w % 64) :
    PartsBelow [UInt8.ofNat (v % 64 + 128)] [UInt8.ofNat (w % 64 + 128)] :=
  partsBelow_cons (by omega) (by omega) (.inl (by omega))

theorem partsBelow_lastTwo (h : v % 4096 < w % 4096) :
    PartsBelow [UInt8.ofNat (v / 64 % 64 + 128), UInt8.ofNat (v % 64 + 128)]
      [UInt8.ofNat (w / 64 % 64 + 128), UInt8.ofNat (w % 64 + 128)] :=
  partsBelow_digit 64 (by omega) (by omega) h partsBelow_last

theorem partsBelow_lastThree (h : v % 262144 < w % 262144) :
    PartsBelow
      [UInt8.ofNat (v / 4096 % 64 + 128), UInt8.ofNat (v / 64 % 64 + 128),
        UInt8.ofNat (v % 64 + 128)]
      [UInt8.ofNat (w / 4096 % 64 + 128), UInt8.ofNat (w / 64 % 64 + 128),
        UInt8.ofNat (w % 64 + 128)] :=
  partsBelow_digit 4096 (by omega) (by omega) h partsBelow_lastTwo

end Digits

-- Of two characters the higher one has the longer form, or a form of the same length with a higher
-- byte at the first difference.
theorem partsBelow_of_lt {c d : Char} (h : c < d) :
    PartsBelow (String.utf8EncodeChar c) (String.utf8EncodeChar d) := by
  have hlt : c.val.toNat < d.val.toNat := UInt32.lt_iff_toNat_lt.mp (Char.lt_def.mp h)
  have hvalid : d.val.toNat < 0x110000 := by
    have hd := d.valid
    simp only [UInt32.isValidChar, Nat.isValidChar] at hd
    omega
  generalize hv : c.val.toNat = v at hlt
  generalize hw : d.val.toNat = w at hlt hvalid
  simp only [String.utf8EncodeChar, hv, hw]
  by_cases hone : w ≤ 127
  · rw [if_pos (by omega), if_pos hone]
    exact partsBelow_cons (by omega) (by omega) (.inl hlt)
  by_cases htwo : w ≤ 2047
  · rw [if_neg hone, if_pos htwo]
    split
    · exact partsBelow_cons (by omega) (by omega) (.inl (by omega))
    rw [if_pos (by omega)]
    exact partsBelow_digit 64 (by omega) (by omega) (by omega) partsBelow_last
  by_cases hthree : w ≤ 65535
  · rw [if_neg hone, if_neg htwo, if_pos hthree]
    split
    · exact partsBelow_cons (by omega) (by omega) (.inl (by omega))
    split
    · exact partsBelow_cons (by omega) (by omega) (.inl (by omega))
    rw [if_pos (by omega)]
    exact partsBelow_digit 4096 (by omega) (by omega) (by omega) partsBelow_lastTwo
  · rw [if_neg hone, if_neg htwo, if_neg hthree]
    split
    · exact partsBelow_cons (by omega) (by omega) (.inl (by omega))
    split
    · exact partsBelow_cons (by omega) (by omega) (.inl (by omega))
    split
    · exact partsBelow_cons (by omega) (by omega) (.inl (by omega))
    exact partsBelow_digit 262144 (by omega) (by omega) (by omega) partsBelow_lastThree

theorem le_of_utf8EncodeChar_append {c d : Char} {left right : List UInt8}
    (h : String.utf8EncodeChar c ++ left = String.utf8EncodeChar d ++ right) : c ≤ d := by
  rw [← Char.not_lt]
  intro hlt
  have hbytes := (partsBelow_of_lt hlt).append_lt right left
  rw [h] at hbytes
  exact List.lt_irrefl _ hbytes

-- The form of a character is not the beginning of the form of another one.
theorem utf8EncodeChar_append_inj {c d : Char} {left right : List UInt8}
    (h : String.utf8EncodeChar c ++ left = String.utf8EncodeChar d ++ right) :
    c = d ∧ left = right := by
  have hcd := le_of_utf8EncodeChar_append h
  have hdc := le_of_utf8EncodeChar_append h.symm
  obtain rfl := Char.le_antisymm hcd hdc
  exact ⟨rfl, List.append_cancel_left h⟩

-- A text begins with another one if its form begins with that of the other.
theorem prefix_of_bytesOf {cs ds : List Char} (h : bytesOf cs <+: bytesOf ds) : cs <+: ds := by
  induction cs generalizing ds with
  | nil => exact List.nil_prefix
  | cons c cs ih =>
      obtain ⟨rest, hrest⟩ := h
      rw [bytesOf_cons, List.append_assoc] at hrest
      cases ds with
      | nil =>
          obtain ⟨hempty, _⟩ := List.append_eq_nil_iff.mp hrest
          exact absurd hempty String.utf8EncodeChar_ne_nil
      | cons d ds =>
          rw [bytesOf_cons] at hrest
          obtain ⟨hcd, hrest⟩ := utf8EncodeChar_append_inj hrest
          rw [hcd]
          exact (List.prefix_cons_inj d).mpr (ih ⟨rest, hrest⟩)

theorem bytesOf_lt {cs ds : List Char} (h : cs < ds) : bytesOf cs < bytesOf ds := by
  induction cs generalizing ds with
  | nil =>
      cases ds with
      | nil => cases h
      | cons d ds =>
          obtain ⟨byte, rest, hbytes⟩ :=
            List.exists_cons_of_ne_nil (String.utf8EncodeChar_ne_nil (c := d))
          rw [bytesOf_cons, hbytes]
          exact List.nil_lt_cons ..
  | cons c cs ih =>
      cases ds with
      | nil => cases h
      | cons d ds =>
          rw [bytesOf_cons, bytesOf_cons]
          rcases List.cons_lt_cons_iff.mp h with hlt | ⟨rfl, hrest⟩
          · exact (partsBelow_of_lt hlt).append_lt _ _
          · exact List.append_left_lt (ih hrest)

theorem bytes_lt_iff (s t : String) : bytes s < bytes t ↔ s < t := by
  refine ⟨?_, bytesOf_lt⟩
  intro h
  by_contra hst
  by_cases hts : t < s
  · exact List.lt_asymm (bytesOf_lt hts) h
  · obtain rfl := String.le_antisymm (String.not_lt.mp hts) (String.not_lt.mp hst)
    exact List.lt_irrefl _ h

theorem bytes_le_iff (s t : String) : bytes s ≤ bytes t ↔ s ≤ t := by
  rw [← String.not_lt, ← bytes_lt_iff]
  rfl

end VaultQuery.Text
