import VaultQuery.Proofs.Token.Seams

namespace VaultQuery.Query

namespace Token

theorem value_quote (text : String) (offset : Nat) :
    value ⟨.quoted, Value.quote text, offset⟩ = ⟨text, true⟩ := by
  simp [value, unquote_quote]

-- The tokens behind a token that leads are those of the text behind it, as far later as the token
-- is long.
theorem tokenize_append {kind : Kind} {text rest : String} (h : Leads kind text rest.toList) :
    tokenize (text ++ rest) =
      ⟨kind, text, 0⟩ :: (tokenize rest).map (shift text.utf8ByteSize) := by
  have hfirst := scan_append h 0
  have hrest := scan_add 0 text.utf8ByteSize 0 rest.toList
  rw [tokenize, String.toList_append, hfirst, Text.byteLength_toList, hrest]
  rfl

end Token

open Token

-- Quoting is undone in front of every text that is empty or starts with a blank, a parenthesis or
-- a colon: the quoted value is one token that stands for the value, and the text behind it has the
-- tokens it has on its own, moved behind the closing quote. In front of any other text this holds
-- of just the values with such a character in them, since it ends the bare word that would win.
theorem tokenize_quote_append (text rest : String) :
    (∃ token : Token,
      tokenize (Value.quote text ++ rest) =
        token :: (tokenize rest).map (shift (Value.quote text).utf8ByteSize) ∧
      token.kind = .quoted ∧ token.text = Value.quote text ∧
      token.offset = 0 ∧ token.stop = (Value.quote text).utf8ByteSize ∧
      token.value = ⟨text, true⟩) ↔
    (∀ c ∈ rest.toList.head?, Delimits c) ∨ ∃ c ∈ text.toList, Delimits c := by
  simp only [← isBare_eq_false_iff]
  rw [← leads_quote_iff]
  constructor
  · rintro ⟨⟨kind, _, _⟩, htokens, rfl, rfl, rfl, _, _⟩
    rw [tokenize, String.toList_append] at htokens
    exact leads_of_scan (by simp [Value.quote]) htokens
  · intro hleads
    refine ⟨⟨.quoted, Value.quote text, 0⟩, tokenize_append hleads, rfl, rfl, rfl, ?_,
      value_quote text 0⟩
    rw [stop, Nat.zero_add, Text.byteLength_toList]

-- A bare word that goes on behind the closing quote is longer and wins.
example : tokenize (Value.quote "abc" ++ "x") = [⟨.literal, "\"abc\"x", 0⟩] := by decide

end VaultQuery.Query
