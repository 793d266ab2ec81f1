import Mathlib.Algebra.Group.Nat.Defs
import VaultQuery.Text.Blank
import VaultQuery.Text.Decimal

namespace VaultQuery.Text

theorem of_digitChar (n : Nat) :
    isDigit (digitChar n) = true ∧ digitValue (digitChar n) = n % 10 := by
  have h : ∀ d < 10, isDigit (Char.ofNat ('0'.toNat + d)) = true ∧
      digitValue (Char.ofNat ('0'.toNat + d)) = d := by decide
  exact h (n % 10) (Nat.mod_lt n (by decide))

theorem isBlank_of_isDigit {c : Char} (h : isDigit c = true) : isBlank c = false := by
  simp only [isDigit, Bool.and_eq_true, decide_eq_true_eq, Char.le_def, UInt32.le_iff_toNat_le] at h
  exact isBlank_of_between 48 57 (by decide) h.1 h.2

theorem ofDigits_concat (cs : List Char) (c : Char) :
    ofDigits (cs ++ [c]) = 10 * ofDigits cs + digitValue c := by
  rw [ofDigits, List.foldl_append]
  rfl

section Widths

variable (width n : Nat)

theorem length_fixedDigits : (fixedDigits width n).length = width := by
  induction width generalizing n with
  | zero => rfl
  | succ width ih => rw [fixedDigits, List.length_append, ih, List.length_singleton]

theorem isDigit_fixedDigits : ∀ c ∈ fixedDigits width n, isDigit c = true := by
  induction width generalizing n with
  | zero => exact nofun
  | succ width ih =>
      intro c hc
      rcases List.mem_append.mp hc with hc | hc
      · exact ih (n / 10) c hc
      · rw [List.mem_singleton.mp hc]
        exact (of_digitChar n).1

-- A number that needs more digits loses its leading ones.
theorem ofDigits_fixedDigits : ofDigits (fixedDigits width n) = n % 10 ^ width := by
  induction width generalizing n with
  | zero => rw [Nat.pow_zero, Nat.mod_one]; rfl
  | succ width ih =>
      rw [fixedDigits, ofDigits_concat, ih, (of_digitChar n).2, Nat.pow_succ', Nat.mod_mul]
      omega

theorem isDigit_paddedDigits : ∀ c ∈ paddedDigits width n, isDigit c = true := by
  unfold paddedDigits
  split
  · exact isDigit_fixedDigits width n
  · intro c hc
    exact Nat.isDigit_of_mem_toDigits (by decide) (by decide) hc

theorem paddedDigits_ne_nil : paddedDigits (width + 1) n ≠ [] := by
  unfold paddedDigits
  split
  · exact List.append_ne_nil_of_right_ne_nil _ (List.cons_ne_nil _ _)
  · exact Nat.toDigits_ne_nil

theorem ofDigits_paddedDigits : ofDigits (paddedDigits width n) = n := by
  unfold paddedDigits
  split
  · rename_i h
    rw [ofDigits_fixedDigits]
    exact Nat.mod_eq_of_lt h
  · exact Nat.ofDigitChars_toDigits (by decide) (by decide)

end Widths

-- Digits are read to their end if no more of them are wanted or no others follow.
theorem readDigits_append {most : Nat} {digits rest : List Char}
    (hd : ∀ c ∈ digits, isDigit c = true) (hne : digits ≠ []) (hm : digits.length ≤ most)
    (hr : digits.length = most ∨ ∀ c ∈ rest.head?, isDigit c = false) :
    readDigits most (digits ++ rest) = some (ofDigits digits, rest) := by
  have hbehind : (rest.take (most - digits.length)).takeWhile isDigit = [] := by
    rcases hr with hr | hr
    · rw [hr, Nat.sub_self]
      rfl
    · cases rest with
      | nil => rw [List.take_nil, List.takeWhile_nil]
      | cons c rest =>
          cases most - digits.length with
          | zero => rfl
          | succ more => rw [List.take_succ_cons, List.takeWhile_cons, hr c rfl]; rfl
  have hread : ((digits ++ rest).take most).takeWhile isDigit = digits := by
    rw [List.take_append, List.take_of_length_le hm, List.takeWhile_append_of_pos hd, hbehind,
      List.append_nil]
  simp only [readDigits, hread, List.isEmpty_eq_false_iff.mpr hne, Bool.false_eq_true, if_false,
    List.drop_left]

theorem readDigits_fixedDigits (width n : Nat) (rest : List Char) :
    readDigits (width + 1) (fixedDigits (width + 1) n ++ rest) =
      some (n % 10 ^ (width + 1), rest) := by
  have hl := length_fixedDigits (width + 1) n
  have hne : fixedDigits (width + 1) n ≠ [] := List.ne_nil_of_length_eq_add_one hl
  rw [readDigits_append (isDigit_fixedDigits _ n) hne (Nat.le_of_eq hl) (.inl hl),
    ofDigits_fixedDigits]

theorem readNumber_paddedDigits (width n : Nat) {rest : List Char}
    (hr : ∀ c ∈ rest.head?, isDigit c = false) :
    readNumber (paddedDigits (width + 1) n ++ rest) = some (n, rest) := by
  have hl : (paddedDigits (width + 1) n).length ≤
      (paddedDigits (width + 1) n ++ rest).length := by
    rw [List.length_append]
    omega
  rw [readNumber, readDigits_append (isDigit_paddedDigits _ n) (paddedDigits_ne_nil width n) hl
    (.inr hr), ofDigits_paddedDigits]

end VaultQuery.Text
