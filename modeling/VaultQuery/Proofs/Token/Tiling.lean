import Mathlib.Data.List.Chain
import VaultQuery.Proofs.Token.Shape

namespace VaultQuery.Query

namespace Token

-- The tokens cut off the front of a text one after the other, until nothing is left of it.
inductive Tiles : Nat → List Char → List Token → Prop where
  | nil (offset : Nat) : Tiles offset [] []
  | cons {offset : Nat} {kind : Kind} {text rest : List Char} {tokens : List Token}
    (hc : Cut kind text rest) (ht : Tiles (offset + Text.byteLength text) rest tokens) :
    Tiles offset (text ++ rest) (⟨kind, String.ofList text, offset⟩ :: tokens)

theorem scan_eq_cons {c : Char} {cs rest : List Char} (offset : Nat)
    (h : c :: cs = (leading c cs).2 ++ rest) (hne : (leading c cs).2 ≠ []) :
    scan offset 0 (c :: cs) =
      ⟨(leading c cs).1, String.ofList (leading c cs).2, offset⟩ ::
        scan (offset + Text.byteLength (leading c cs).2) 0 rest := by
  obtain ⟨d, text, ht⟩ := List.exists_cons_of_ne_nil hne
  rw [scan]
  rw [ht, List.cons_append, List.cons.injEq] at h
  simp only [ht, List.length_cons, Nat.add_sub_cancel]
  rw [scan_taken, h.2, List.drop_left]

-- The induction is on the length of the text, since the first token may take any part of it.
theorem tiles_scan (offset : Nat) (cs : List Char) : Tiles offset cs (scan offset 0 cs) := by
  induction hn : cs.length using Nat.strongRecOn generalizing offset cs with
  | _ n ih =>
      cases cs with
      | nil => exact .nil offset
      | cons c cs =>
          obtain ⟨rest, hsplit, hcut⟩ := cut_leading c cs
          have hlength := congrArg List.length hsplit
          have hpos := List.length_pos_iff.mpr hcut.nonempty
          rw [List.length_append] at hlength
          have hrest := ih rest.length (by omega)
            (offset + Text.byteLength (leading c cs).2) rest rfl
          rw [scan_eq_cons offset hsplit hcut.nonempty, hsplit]
          exact .cons hcut hrest

theorem stop_ofList (kind : Kind) (text : List Char) (offset : Nat) :
    stop ⟨kind, String.ofList text, offset⟩ = offset + Text.byteLength text := by
  simp [stop]

namespace Tiles

variable {offset : Nat} {cs : List Char} {tokens : List Token}

theorem flatMap_eq (h : Tiles offset cs tokens) :
    tokens.flatMap (fun token => token.text.toList) = cs := by
  induction h with
  | nil => rfl
  | cons hc _ ih => rw [List.flatMap_cons, ih, String.toList_ofList]

theorem head_offset (h : Tiles offset cs tokens) :
    ∀ token ∈ tokens.head?, token.offset = offset := by
  cases h with
  | nil => simp
  | cons hc ht => simp

-- A token stands between two parts of the text, and its position is the length of the first.
theorem exists_parts (h : Tiles offset cs tokens) {token : Token} (hm : token ∈ tokens) :
    ∃ before after, cs = before ++ (token.text.toList ++ after) ∧
      token.offset = offset + Text.byteLength before ∧
      Cut token.kind token.text.toList after := by
  induction h with
  | nil => cases hm
  | @cons offset kind text rest tokens hc _ ih =>
      rcases List.mem_cons.mp hm with rfl | hm
      · exact ⟨[], rest, by simp, by simp [Text.byteLength], by simpa using hc⟩
      · obtain ⟨before, after, rfl, hp, hcut⟩ := ih hm
        refine ⟨text ++ before, after, by simp, ?_, hcut⟩
        rw [hp, Text.byteLength_append, Nat.add_assoc]

theorem offset_lt_stop (h : Tiles offset cs tokens) {token : Token} (hm : token ∈ tokens) :
    token.offset < token.stop := by
  obtain ⟨_, _, _, _, hcut⟩ := h.exists_parts hm
  obtain ⟨c, rest, ht⟩ := List.exists_cons_of_ne_nil hcut.nonempty
  have hc := Char.utf8Size_pos c
  simp only [stop, ht, Text.byteLength]
  omega

-- No token starts before one in front of it has ended.
theorem pairwise (h : Tiles offset cs tokens) :
    tokens.Pairwise fun token next => token.stop ≤ next.offset := by
  induction h with
  | nil => exact .nil
  | cons hc ht ih =>
      refine List.pairwise_cons.mpr ⟨?_, ih⟩
      intro next hn
      obtain ⟨_, _, _, ho, _⟩ := ht.exists_parts hn
      rw [stop_ofList]
      omega

end Tiles

-- The shapes of the kinds tell which kinds may come next.
theorem Cut.precedes {kind next : Kind} {text other rest : List Char}
    (hf : Cut kind text (other ++ rest)) (hs : Cut next other rest) : kind.Precedes next := by
  obtain ⟨c, cs, rfl⟩ := List.exists_cons_of_ne_nil hs.nonempty
  have hshape := hs.shape
  have hends := hf.ends
  cases kind with
  | blank =>
      have hb : Text.isBlank c = false := hends c rfl
      rintro rfl
      have hb' : Text.isBlank c = true := hshape c List.mem_cons_self
      rw [hb] at hb'
      cases hb'
  | literal =>
      have hd : Delimits c := hends c rfl
      cases next with
      | blank | openParen | closeParen | colon => simp [Kind.Precedes]
      | literal => exact absurd hd (hshape c List.mem_cons_self)
      | and | or | not =>
          obtain ⟨rfl, _⟩ := List.cons.inj hshape
          exact absurd hd (by decide)
      | quoted =>
          obtain ⟨_, hb, _⟩ := hshape
          obtain ⟨rfl, _⟩ := List.cons.inj hb
          exact absurd hd (by decide)
      | family family =>
          cases family <;>
          · obtain ⟨rfl, _⟩ := List.cons.inj hshape
            exact absurd hd (by decide)
  | _ => trivial

theorem Tiles.isChain {offset : Nat} {cs : List Char} {tokens : List Token}
    (h : Tiles offset cs tokens) :
    tokens.IsChain fun token next =>
      next.offset = token.stop ∧ token.kind.Precedes next.kind := by
  induction h with
  | nil => exact .nil
  | cons hc ht ih =>
      cases ht with
      | nil => exact .singleton _
      | cons hnext _ => exact .cons_cons ⟨(stop_ofList _ _ _).symm, hc.precedes hnext⟩ ih

theorem isValid_byteLength (before after : List Char) :
    String.Pos.Raw.IsValid (String.ofList (before ++ after)) ⟨Text.byteLength before⟩ := by
  rw [String.Pos.Raw.isValid_iff_exists_append]
  refine ⟨String.ofList before, String.ofList after, String.ofList_append, ?_⟩
  rw [← Text.utf8ByteSize_ofList]
  rfl

end Token

-- The tokens of a text put together are the text. They follow each other without a gap from its
-- start, begin and end between characters, and are not empty. No two of them are blank side by
-- side, a bare word ends where a character that cannot be in it comes next, and each token looks
-- like its kind.
theorem tokenize_tiles (text : String) :
    String.join ((tokenize text).map fun token => token.text) = text ∧
    (∀ token ∈ (tokenize text).head?, token.offset = 0) ∧
    ((tokenize text).IsChain fun token next =>
      next.offset = token.stop ∧ token.kind.Precedes next.kind) ∧
    ∀ token ∈ tokenize text,
      token.text ≠ "" ∧ token.kind.Shape token.text.toList ∧
        String.Pos.Raw.IsValid text ⟨token.offset⟩ ∧
        String.Pos.Raw.IsValid text ⟨token.stop⟩ := by
  have htiles := Token.tiles_scan 0 text.toList
  refine ⟨?_, htiles.head_offset, htiles.isChain, ?_⟩
  · rw [← String.toList_inj, String.toList_join, List.flatMap_map]
    exact htiles.flatMap_eq
  · intro token hm
    obtain ⟨before, after, htext, hp, hcut⟩ := htiles.exists_parts hm
    have htext : text = String.ofList (before ++ (token.text.toList ++ after)) := by
      rw [← htext, String.ofList_toList]
    have hstart := Token.isValid_byteLength before (token.text.toList ++ after)
    have hstop := Token.isValid_byteLength (before ++ token.text.toList) after
    rw [List.append_assoc, Text.byteLength_append] at hstop
    rw [Nat.zero_add] at hp
    refine ⟨?_, hcut.shape, ?_, ?_⟩
    · rintro he
      exact hcut.nonempty (by simp [he])
    · rw [hp, htext]
      exact hstart
    · rw [Token.stop, hp, htext]
      exact hstop

end VaultQuery.Query
