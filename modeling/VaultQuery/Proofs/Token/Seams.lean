import VaultQuery.Proofs.Token.Tiling

namespace VaultQuery.Query.Token

theorem dropWhile_append_cons {p : Char → Bool} {d : Char} (hd : p d = false)
    (cs after : List Char) :
    (cs ++ d :: after).dropWhile p = cs.dropWhile p ++ d :: after := by
  induction cs with
  | nil => simp [hd]
  | cons c cs ih =>
      simp only [List.cons_append, List.dropWhile_cons, ih]
      split <;> rfl

theorem closing_append_of_some {cs tail : List Char} (h : closing cs = some tail)
    (more : List Char) : closing (cs ++ more) = some tail := by
  fun_induction closing cs generalizing tail with
  | case1 => cases h
  | case2 cs => exact h
  | case3 => cases h
  | case4 c cs hc ih =>
      obtain ⟨inner, hi, rfl⟩ := Option.map_eq_some_iff.mp h
      simp [closing, hc, ih hi]
  | case5 c cs hq hb ih =>
      obtain ⟨inner, hi, rfl⟩ := Option.map_eq_some_iff.mp h
      have hlast : ∀ d ds, c = '\\' → cs ++ more = d :: ds → False := by
        intro d ds hc _
        cases cs with
        | nil => cases hi
        | cons e es => exact hb e es hc rfl
      rw [List.cons_append, closing.eq_4 _ _ hq hlast, ih hi]
      rfl

theorem closing_eq_none {cs : List Char} (h : '"' ∉ cs) : closing cs = none := by
  rw [Option.eq_none_iff_forall_ne_some]
  intro tail ht
  obtain ⟨body, rfl, _⟩ := enclosed_of_closing ht
  apply h
  rw [← closing_append ht]
  simp

-- An open quote stays open if no quote follows.
theorem closing_append_of_none {cs more : List Char} (h : closing cs = none) (hm : '"' ∉ more) :
    closing (cs ++ more) = none := by
  fun_induction closing cs with
  | case1 => exact closing_eq_none hm
  | case2 => cases h
  | case3 => simp [closing]
  | case4 c cs hc ih => simp [closing, hc, ih (by simpa using h)]
  | case5 c cs hq hb ih =>
      cases cs with
      | nil => exact closing_eq_none (by simpa [eq_comm] using ⟨hq, hm⟩)
      | cons d ds =>
          have hlast : ∀ e es, c = '\\' → (d :: ds) ++ more = e :: es → False :=
            fun _ _ hc _ => hb d ds hc rfl
          rw [List.cons_append, closing.eq_4 _ _ hq hlast, ih (by simpa using h)]
          rfl

theorem ofRun_append_closeParen (run rest after : List Char) :
    ofRun run (rest ++ ')' :: after) = ofRun run rest := by
  cases rest with
  | nil =>
      have hb : Text.isBlank ')' = false := by decide
      simp [ofRun, family?, connective?, hb]
  | cons c cs => simp [ofRun, family?, connective?]

-- The only token that can change is a quote that is left open.
theorem leading_append_closeParen (c : Char) (cs after : List Char)
    (h : c = '"' → (leading c cs).1 = .literal → '"' ∉ after) :
    leading c (cs ++ ')' :: after) = leading c cs := by
  have hbare : isBare ')' = false := by decide
  have hblank : Text.isBlank ')' = false := by decide
  by_cases hq : c = '"'
  · subst hq
    have hrun := takeWhile_append_cons hbare cs after
    cases hc : closing cs with
    | some tail =>
        rw [leading_closed hc, leading_closed (closing_append_of_some hc _), hrun]
    | none =>
        rw [leading_unclosed hc] at h
        have hm : '"' ∉ ')' :: after := by simpa using h rfl rfl
        rw [leading_unclosed hc, leading_unclosed (closing_append_of_none hc hm), hrun]
  · simp only [leading, hq, if_false, takeWhile_append_cons hbare, takeWhile_append_cons hblank,
      dropWhile_append_cons hbare, ofRun_append_closeParen]

-- What stands behind the closing parenthesis cannot close a quote of the text.
def Sealed (tokens : List Token) (after : List Char) : Prop :=
  ∀ token ∈ tokens, token.kind = .literal → token.text.toList.head? = some '"' → '"' ∉ after

theorem scan_append_closeParen {offset : Nat} {cs after : List Char}
    (h : Sealed (scan offset 0 cs) after) :
    scan offset 0 (cs ++ ')' :: after) =
      scan offset 0 cs ++ scan (offset + Text.byteLength cs) 0 (')' :: after) := by
  induction hn : cs.length using Nat.strongRecOn generalizing offset cs with
  | _ n ih =>
      cases cs with
      | nil => simp [scan, Text.byteLength]
      | cons c cs =>
          obtain ⟨rest, hsplit, hcut⟩ := cut_leading c cs
          have hscan := scan_eq_cons offset hsplit hcut.nonempty
          rw [hscan] at h
          obtain ⟨hfirst, hrest⟩ := List.forall_mem_cons.mp h
          have hhead : (leading c cs).2.head? = some c := by
            rw [← List.head?_append_of_ne_nil _ hcut.nonempty, ← hsplit]
            rfl
          have hsame : leading c (cs ++ ')' :: after) = leading c cs := by
            apply leading_append_closeParen
            intro hc hk
            exact hfirst hk (by simpa [hc] using hhead)
          have hlength := congrArg List.length hsplit
          have hpos := List.length_pos_iff.mpr hcut.nonempty
          rw [List.length_append] at hlength
          have hbehind := ih rest.length (by omega) hrest rfl
          have hwhole : c :: (cs ++ ')' :: after) =
              (leading c (cs ++ ')' :: after)).2 ++ (rest ++ ')' :: after) := by
            rw [hsame, ← List.append_assoc, ← hsplit]
            rfl
          have hbytes := congrArg Text.byteLength hsplit
          rw [Text.byteLength_append] at hbytes
          rw [List.cons_append, scan_eq_cons offset hwhole (hsame ▸ hcut.nonempty), hsame, hbehind,
            hscan, hbytes, List.cons_append, Nat.add_assoc]

-- A token at a later position.
def shift (distance : Nat) (token : Token) : Token :=
  { token with offset := token.offset + distance }

@[simp] theorem shift_kind (distance : Nat) (token : Token) :
    (token.shift distance).kind = token.kind := rfl

@[simp] theorem shift_text (distance : Nat) (token : Token) :
    (token.shift distance).text = token.text := rfl

@[simp] theorem shift_offset (distance : Nat) (token : Token) :
    (token.shift distance).offset = token.offset + distance := rfl

@[simp] theorem shift_stop (distance : Nat) (token : Token) :
    (token.shift distance).stop = token.stop + distance := by
  simp only [stop, shift_offset, shift_text, Nat.add_right_comm]

@[simp] theorem shift_value (distance : Nat) (token : Token) :
    (token.shift distance).value = token.value := rfl

-- Tokens do not depend on where the text starts.
theorem scan_add (offset distance taken : Nat) (cs : List Char) :
    scan (offset + distance) taken cs = (scan offset taken cs).map (shift distance) := by
  induction cs generalizing offset taken with
  | nil => simp [scan]
  | cons c cs ih =>
      cases taken with
      | succ taken => exact ih offset taken
      | zero =>
          simp only [scan, List.map_cons, shift]
          rw [Nat.add_right_comm, ih]

end VaultQuery.Query.Token
