import VaultQuery.Proofs.Lists
import VaultQuery.Query.Token

namespace VaultQuery.Query.Token

-- The first token of `text` with `after` behind it is all of `text`.
def Leads (kind : Kind) (text : String) (after : List Char) : Prop :=
  ∃ c cs, text.toList = c :: cs ∧ leading c (cs ++ after) = (kind, c :: cs)

theorem scan_append {kind : Kind} {text : String} {after : List Char}
    (h : Leads kind text after) (offset : Nat) :
    scan offset 0 (text.toList ++ after) =
      ⟨kind, text, offset⟩ :: scan (offset + Text.byteLength text.toList) 0 after := by
  obtain ⟨c, cs, ht, hl⟩ := h
  rw [ht, List.cons_append, scan, hl]
  simp only [List.length_cons, Nat.add_sub_cancel]
  rw [scan_taken, List.drop_left, ← ht, String.ofList_toList]

theorem leads_of_scan {kind : Kind} {text : String} {after : List Char} {offset : Nat}
    {tokens : List Token} (hne : text.toList ≠ [])
    (h : scan offset 0 (text.toList ++ after) = ⟨kind, text, offset⟩ :: tokens) :
    Leads kind text after := by
  obtain ⟨c, cs, ht⟩ := List.exists_cons_of_ne_nil hne
  rw [ht, List.cons_append, scan, List.cons.injEq, Token.mk.injEq] at h
  obtain ⟨⟨hkind, htext, _⟩, _⟩ := h
  refine ⟨c, cs, ht, Prod.ext hkind ?_⟩
  rw [← ht, ← htext, String.toList_ofList]

-- What stands behind a predicate.
def EndsWord (after : List Char) : Prop :=
  ∀ c ∈ after.head?, c = ' ' ∨ c = ')'

theorem endsWord_space (after : List Char) : EndsWord (' ' :: after) := by
  simp [EndsWord]

theorem endsWord_closeParen (after : List Char) : EndsWord (')' :: after) := by
  simp [EndsWord]

theorem EndsWord.not_bare {after : List Char} (h : EndsWord after) :
    ∀ c ∈ after.head?, isBare c = false := by
  intro c hc
  rcases h c hc with rfl | rfl <;> decide

theorem leads_openParen (after : List Char) : Leads .openParen "(" after :=
  ⟨'(', [], rfl, rfl⟩

theorem leads_closeParen (after : List Char) : Leads .closeParen ")" after :=
  ⟨')', [], rfl, rfl⟩

theorem leads_colon (after : List Char) : Leads .colon ":" after :=
  ⟨':', [], rfl, rfl⟩

theorem isBare_iff (c : Char) :
    isBare c = true ↔ Text.isBlank c = false ∧ c ≠ '(' ∧ c ≠ ')' ∧ c ≠ ':' := by
  simp [isBare, and_assoc]

theorem leads_space {after : List Char} (h : ∀ c ∈ after.head?, Text.isBlank c = false) :
    Leads .blank " " after := by
  refine ⟨' ', [], rfl, ?_⟩
  rw [List.nil_append, leading, if_pos (by decide), takeWhile_eq_nil h]

-- A bare word up to whatever ends it.
theorem leading_word {c : Char} {cs after : List Char} (hw : (c :: cs).all isBare = true)
    (hq : c ≠ '"') (ha : ∀ d ∈ after.head?, isBare d = false) :
    leading c (cs ++ after) = ofRun (c :: cs) after := by
  obtain ⟨hc, hcs⟩ := List.forall_mem_cons.mp (List.all_eq_true.mp hw)
  obtain ⟨hb, ho, hcl, hn⟩ := (isBare_iff c).mp hc
  have ht : (cs ++ after).takeWhile isBare = cs := by
    rw [List.takeWhile_append_of_pos hcs, takeWhile_eq_nil ha, List.append_nil]
  have hd : (cs ++ after).dropWhile isBare = after := by
    rw [List.dropWhile_append_of_pos hcs, dropWhile_eq_self ha]
  simp only [leading, hb, ho, hcl, hn, hq, if_false, Bool.false_eq_true, ht, hd]

theorem leads_word {kind : Kind} {word : String} {after : List Char} (hne : word.toList ≠ [])
    (hw : word.toList.all isBare = true) (hq : word.toList.head? ≠ some '"')
    (ha : ∀ c ∈ after.head?, isBare c = false)
    (hr : ofRun word.toList after = (kind, word.toList)) : Leads kind word after := by
  obtain ⟨c, cs, hc⟩ := List.exists_cons_of_ne_nil hne
  rw [hc] at hw hq hr
  refine ⟨c, cs, hc, ?_⟩
  rw [leading_word hw (by simpa using hq) ha, hr]

-- The words that are more than a value, at least in front of a colon.
def reserved : List (List Char) :=
  [['h', 'a', 's'], ['i', 'n'], ['i', 's'], ['A', 'N', 'D'], ['O', 'R'], ['N', 'O', 'T']]

-- A word that is a value wherever it stands.
structure Plain (word : String) : Prop where
  nonempty : word.toList ≠ []
  bare : word.toList.all isBare = true
  unquoted : word.toList.head? ≠ some '"'
  free : word.toList ∉ reserved

instance (word : String) : Decidable (Plain word) :=
  decidable_of_iff (word.toList ≠ [] ∧ word.toList.all isBare = true ∧
      word.toList.head? ≠ some '"' ∧ word.toList ∉ reserved)
    ⟨fun ⟨hn, hb, hu, hf⟩ => ⟨hn, hb, hu, hf⟩, fun ⟨hn, hb, hu, hf⟩ => ⟨hn, hb, hu, hf⟩⟩

theorem leads_plain {word : String} {after : List Char} (h : Plain word)
    (ha : ∀ c ∈ after.head?, isBare c = false) : Leads .literal word after := by
  refine leads_word h.nonempty h.bare h.unquoted ha ?_
  have hfree := h.free
  simp only [reserved, List.mem_cons, List.not_mem_nil, or_false, not_or] at hfree
  simp [ofRun, family?, connective?, hfree]

theorem leads_inside (after : List Char) : Leads (.family .inside) "in:" after := by
  refine ⟨'i', ['n', ':'], rfl, ?_⟩
  have hw : ['i', 'n'].all isBare = true := by decide
  have ha : ∀ c ∈ (':' :: after).head?, isBare c = false := by simp [isBare]
  exact leading_word hw (by decide) ha

theorem leading_closed {cs tail : List Char} (h : closing cs = some tail) :
    leading '"' cs = if (cs.takeWhile isBare).length ≤ tail.length then (.quoted, '"' :: tail)
      else (.literal, '"' :: cs.takeWhile isBare) := by
  have hb : Text.isBlank '"' = false := by decide
  simp [leading, hb, h]

theorem leading_unclosed {cs : List Char} (h : closing cs = none) :
    leading '"' cs = (.literal, '"' :: cs.takeWhile isBare) := by
  have hb : Text.isBlank '"' = false := by decide
  simp [leading, hb, h]

-- A text with its escapes does not close early.
theorem closing_escapeList (cs after : List Char) :
    closing (Value.escapeList cs ++ '"' :: after) = some (Value.escapeList cs ++ ['"']) := by
  induction cs with
  | nil => simp [Value.escapeList, closing]
  | cons c cs ih =>
      by_cases hc : c = '\\' ∨ c = '"'
      · rcases hc with rfl | rfl <;> simp [Value.escapeList, closing, ih]
      · obtain ⟨hb, hq⟩ := not_or.mp hc
        have he : Value.escapeList (c :: cs) = c :: Value.escapeList cs := by
          simp [Value.escapeList, hb, hq]
        rw [he, List.cons_append, closing.eq_4 _ _ hq (by simp [hb]), ih]
        rfl

-- Escaping adds backslashes and nothing else.
theorem mem_escapeList_iff {c : Char} (hc : c ≠ '\\') (cs : List Char) :
    c ∈ Value.escapeList cs ↔ c ∈ cs := by
  induction cs with
  | nil => rfl
  | cons d cs ih =>
      rw [Value.escapeList]
      split <;> simp [hc, ih]

-- The backslashes and the closing quote are bare, so only the text itself can end a bare run.
theorem exists_not_bare_escapeList (cs : List Char) :
    (∃ c ∈ Value.escapeList cs ++ ['"'], isBare c = false) ↔ ∃ c ∈ cs, isBare c = false := by
  have hquote : isBare '"' = true := by decide
  have hne : ∀ c, isBare c = false → c ≠ '\\' := by
    rintro c hc rfl
    cases hc
  constructor
  · rintro ⟨c, hm, hc⟩
    rcases List.mem_append.mp hm with hm | hm
    · exact ⟨c, (mem_escapeList_iff (hne c hc) cs).mp hm, hc⟩
    · rw [List.mem_singleton.mp hm, hquote] at hc
      cases hc
  · rintro ⟨c, hm, hc⟩
    exact ⟨c, List.mem_append_left _ ((mem_escapeList_iff (hne c hc) cs).mpr hm), hc⟩

-- The bare run that starts at the opening quote is longer than the quoted text unless a character
-- of the text ends it or what stands behind the closing quote does not go on with it.
theorem leads_quote_iff (text : String) (after : List Char) :
    Leads .quoted (Value.quote text) after ↔
      (∀ c ∈ after.head?, isBare c = false) ∨ ∃ c ∈ text.toList, isBare c = false := by
  have hquote : (Value.quote text).toList = '"' :: (Value.escapeList text.toList ++ ['"']) := by
    simp [Value.quote]
  have hclosing := closing_escapeList text.toList after
  rw [List.append_cons] at hclosing
  have hleading := leading_closed hclosing
  rw [← exists_not_bare_escapeList, ← length_takeWhile_append_le_iff]
  constructor
  · rintro ⟨c, cs, ht, hl⟩
    rw [hquote, List.cons.injEq] at ht
    obtain ⟨rfl, rfl⟩ := ht
    rw [hleading] at hl
    split at hl
    · assumption
    · cases hl
  · intro hshort
    rw [if_pos hshort] at hleading
    exact ⟨'"', Value.escapeList text.toList ++ ['"'], hquote, hleading⟩

theorem leads_quote (text : String) {after : List Char}
    (h : ∀ c ∈ after.head?, isBare c = false) :
    Leads .quoted (Value.quote text) after :=
  (leads_quote_iff text after).mpr (.inl h)

theorem unquote_quote (text : String) : Value.unquote (Value.quote text) = text := by
  simp [Value.unquote, Value.quote, Value.unescapeList_escapeList]

end VaultQuery.Query.Token
