import VaultQuery.Proofs.Time.Digits
import VaultQuery.Timestamp

namespace VaultQuery

theorem Date.daysInMonth_le (year : Int) (month : Nat) : daysInMonth year month ≤ 31 := by
  unfold daysInMonth
  split
  · split <;> decide
  · split <;> decide

namespace Timestamp

open Text

theorem skipBlanks_cons {c : Char} (h : isBlank c = false) (cs : List Char) :
    skipBlanks (c :: cs) = c :: cs := by
  rw [skipBlanks, List.dropWhile_cons_of_neg (by simp [h])]

theorem skipBlanks_fixedDigits (width n : Nat) (rest : List Char) :
    skipBlanks (fixedDigits (width + 1) n ++ rest) = fixedDigits (width + 1) n ++ rest := by
  obtain ⟨c, cs, hcs⟩ := List.exists_cons_of_length_eq_add_one (length_fixedDigits (width + 1) n)
  have hc : isDigit c = true := isDigit_fixedDigits (width + 1) n c (by simp [hcs])
  rw [hcs, List.cons_append, skipBlanks_cons (isBlank_of_isDigit hc)]

theorem readField_fixedDigits {n : Nat} (h : n < 100) (rest : List Char) :
    readField 2 (fixedDigits 2 n ++ rest) = some (n, rest) := by
  have hwhole : n % 10 ^ (1 + 1) = n := Nat.mod_eq_of_lt h
  rw [readField, skipBlanks_fixedDigits, readDigits_fixedDigits, hwhole]

theorem readMark_cons {mark : Char} (h : isBlank mark = false) (cs : List Char) :
    readMark mark (mark :: cs) = some cs := by
  rw [readMark, skipBlanks_cons h, readChar, if_pos rfl]

-- A digit is no sign.
theorem readYear_of_isDigit {c : Char} (h : isDigit c = true) (cs : List Char) :
    readYear (c :: cs) = (readDigits 4 (c :: cs)).map fun (year, rest) => ((year : Int), rest) := by
  rw [readYear, skipBlanks_cons (isBlank_of_isDigit h)]
  split
  · rename_i heq
    cases heq
    exact absurd h (by decide)
  · rename_i heq
    cases heq
    exact absurd h (by decide)
  · rfl

theorem readYear_yearText (year : Int) (rest : List Char) :
    readYear (yearText year ++ '-' :: rest) = some (year, '-' :: rest) := by
  have hdash : ∀ c ∈ ('-' :: rest).head?, isDigit c = false := by
    rintro _ ⟨⟩
    rfl
  unfold yearText
  split
  · rename_i hneg
    have hread := readNumber_paddedDigits 3 (-year).toNat hdash
    rw [List.cons_append, readYear, skipBlanks_cons (by decide)]
    simp only [hread, Option.map_some]
    congr
    omega
  · split
    · rename_i hnonneg hshort
      obtain ⟨c, cs, hcs⟩ :=
        List.exists_cons_of_length_eq_add_one (length_fixedDigits 4 year.toNat)
      have hc : isDigit c = true := isDigit_fixedDigits 4 year.toNat c (by simp [hcs])
      have hread := readDigits_fixedDigits 3 year.toNat ('-' :: rest)
      rw [hcs, List.cons_append] at hread
      rw [hcs, List.cons_append, readYear_of_isDigit hc, hread]
      simp only [Option.map_some]
      congr
      omega
    · rename_i hnonneg hlong
      have hread := readNumber_paddedDigits 3 year.toNat hdash
      rw [List.cons_append, readYear, skipBlanks_cons (by decide)]
      simp only [hread, Option.map_some]
      congr
      omega

theorem of?_eq (date : Date) : Date.of? date.year date.month date.day = some date := by
  rw [Date.of?, dif_pos date.month_mem, dif_pos date.day_mem]

theorem readDate_eq {date : Date} (h : date.inRange = true) (rest : List Char) :
    readDate (yearText date.year ++
        '-' :: (fixedDigits 2 date.month ++ '-' :: (fixedDigits 2 date.day ++ rest))) =
      some (date, rest) := by
  have hmonth : date.month < 100 := by
    have := date.month_mem
    omega
  have hday : date.day < 100 := by
    have := date.day_mem
    have := Date.daysInMonth_le date.year date.month
    omega
  have hmark : isBlank '-' = false := by decide
  rw [readDate, readYear_yearText]
  simp only [Option.bind_eq_bind, Option.bind_some, readMark_cons hmark,
    readField_fixedDigits hmonth, readField_fixedDigits hday, of?_eq, h, if_true]

-- Digits that are left out of a fraction are zeros.
theorem readFraction_fixedDigits {width n : Nat} (hw : width < 9) (hn : n < 10 ^ (width + 1)) :
    readFraction ('.' :: fixedDigits (width + 1) n ++ ['Z']) =
      some (n * 10 ^ (8 - width), ['Z']) := by
  have hl := length_fixedDigits (width + 1) n
  have hne : fixedDigits (width + 1) n ≠ [] := List.ne_nil_of_length_eq_add_one hl
  have hdigits : (fixedDigits (width + 1) n ++ ['Z']).takeWhile isDigit =
      fixedDigits (width + 1) n := by
    rw [List.takeWhile_append_of_pos (isDigit_fixedDigits (width + 1) n)]
    exact List.append_nil _
  have hkept : (fixedDigits (width + 1) n).take 9 = fixedDigits (width + 1) n := by
    rw [List.take_of_length_le]
    omega
  rw [List.cons_append, readFraction]
  simp only [hdigits, hkept, List.isEmpty_eq_false_iff.mpr hne, Bool.false_eq_true, if_false,
    ofDigits_fixedDigits, Nat.mod_eq_of_lt hn, hl, List.drop_left' hl, Nat.pow_eq]
  rw [show 9 - (width + 1) = 8 - width by omega]

theorem readFraction_fractionText {nano : Nat} (h : nano < 1000000000) :
    readFraction (fractionText nano ++ ['Z']) = some (nano, ['Z']) := by
  unfold fractionText
  split
  · rename_i hzero
    rw [hzero]
    rfl
  split
  · rename_i hmillis
    have hzeros : nano / 1000000 * 10 ^ (8 - 2) = nano := by omega
    rw [readFraction_fixedDigits (by decide) (by omega), hzeros]
  split
  · rename_i hmicros
    have hzeros : nano / 1000 * 10 ^ (8 - 5) = nano := by omega
    rw [readFraction_fixedDigits (by decide) (by omega), hzeros]
  · have hzeros : nano * 10 ^ (8 - 8) = nano := by omega
    rw [readFraction_fixedDigits (by decide) (by omega), hzeros]

theorem ofLocal?_utc {time : Timestamp} (h : time.date.inRange = true) :
    ofLocal? time.date (60 * time.hour + time.minute) time.second time.nano 0 = some time := by
  have hhour := time.hour_lt
  have hminute := time.minute_lt
  have hday : ¬ ((60 * time.hour + time.minute : Nat) : Int) < 0 := by omega
  have hsame : ((60 * time.hour + time.minute : Nat) : Int) < 1440 := by omega
  have hmod : (((60 * time.hour + time.minute : Nat) : Int) % 1440).toNat =
      60 * time.hour + time.minute := by omega
  have hdiv : (60 * time.hour + time.minute) / 60 = time.hour := by omega
  have hrest : (60 * time.hour + time.minute) % 60 = time.minute := by omega
  have hvalid : time.hour < 24 ∧ time.second ≤ 60 ∧ time.nano < 1000000000 :=
    ⟨hhour, time.second_le, time.nano_lt⟩
  simp only [ofLocal?, Int.sub_zero, hday, hsame, hmod, hdiv, hrest, hvalid, and_self, if_false,
    if_true, dif_pos, h]

theorem ofString?_toText {time : Timestamp} (h : time.date.inRange = true) :
    ofString? time.toText = some time := by
  have hhour := time.hour_lt
  have hminute := time.minute_lt
  have hsecond := time.second_le
  have hcolon : isBlank ':' = false := by decide
  simp only [ofString?, toText, String.toList_ofList, List.append_assoc, List.cons_append]
  rw [readDate_eq h]
  simp only [Option.bind_eq_bind, Option.bind_some, readSeparator]
  rw [readField_fixedDigits (by omega)]
  simp only [Option.bind_some, readMark_cons hcolon]
  rw [readField_fixedDigits (by omega)]
  simp only [Option.bind_some, readMark_cons hcolon]
  rw [readField_fixedDigits (by omega)]
  simp only [Option.bind_some]
  rw [readFraction_fractionText time.nano_lt]
  have hoffset : readOffset (skipBlanks ['Z']) = some (0, []) := by decide
  have hend : skipBlanks [] = [] := rfl
  simp only [Option.bind_some, hoffset, hend, hhour, hminute, and_self, if_true, ofLocal?_utc h]

example : (ofString? "2024-03-01t00:30:00.1234567899+01:00").map toText =
    some "2024-02-29T23:30:00.123456789Z" := by decide

theorem inRange_of_ofLocal? {date : Date} {minutes second nano : Nat} {ahead : Int}
    {time : Timestamp} (h : ofLocal? date minutes second nano ahead = some time) :
    time.date.inRange = true := by
  simp only [ofLocal?, Option.dite_none_right_eq_some, Option.ite_none_right_eq_some,
    Option.some.injEq] at h
  obtain ⟨_, hrange, rfl⟩ := h
  exact hrange

-- Only days that can be written are read, also when the offset leads to another day.
theorem inRange_of_ofString? {text : String} {time : Timestamp} (h : ofString? text = some time) :
    time.date.inRange = true := by
  simp only [ofString?, Option.bind_eq_bind, Option.bind_eq_some_iff] at h
  obtain ⟨_, _, _, _, _, _, _, _, _, _, _, _, _, _, _, _, _, _, hlast⟩ := h
  split at hlast
  · exact inRange_of_ofLocal? hlast
  · cases hlast

end Timestamp

end VaultQuery
