import VaultQuery.Proofs.Matching.Parts
import VaultQuery.Proofs.Matching.WholeTokens
import VaultQuery.Proofs.Text.ByteSearch
import VaultQuery.Proofs.Token.Tiling

namespace VaultQuery.Text

-- The text before a byte position, unless the position is inside a character or past the end.
def before? (text : String) (position : Nat) : Option (List Char) :=
  if String.Pos.Raw.IsValid text ⟨position⟩ then some (takeBytes position text.toList) else none

-- The text behind a byte position, unless the position is inside a character or past the end.
def behind? (text : String) (position : Nat) : Option (List Char) :=
  if String.Pos.Raw.IsValid text ⟨position⟩ then some (dropBytes position text.toList) else none

-- Whether there is an edge before the one position and behind the other.
def betweenEdges? (text : String) (start stop : Nat) : Option Bool := do
  let before ← before? text start
  let after ← behind? text stop
  return endsAtEdge before && atEdge after

section Cuts

variable {text : String} {before after : List Char}

theorem isValid_of_parts (h : text.toList = before ++ after) :
    String.Pos.Raw.IsValid text ⟨byteLength before⟩ := by
  have htext : text = String.ofList (before ++ after) := by
    rw [← h, String.ofList_toList]
  rw [htext]
  exact Query.Token.isValid_byteLength before after

theorem before?_eq (h : text.toList = before ++ after) :
    before? text (byteLength before) = some before := by
  rw [before?, if_pos (isValid_of_parts h), h, takeBytes_append]

theorem behind?_eq (h : text.toList = before ++ after) :
    behind? text (byteLength before) = some after := by
  rw [behind?, if_pos (isValid_of_parts h), h, dropBytes_append]

theorem betweenEdges?_eq {needle : List Char} (h : text.toList = before ++ (needle ++ after)) :
    betweenEdges? text (byteLength before) (byteLength before + byteLength needle) =
      some (endsAtEdge before && atEdge after) := by
  have hbehind : text.toList = (before ++ needle) ++ after := by
    rw [h, List.append_assoc]
  rw [betweenEdges?, before?_eq h, ← byteLength_append, behind?_eq hbehind]
  rfl

end Cuts

-- The test of a text by a value, byte by byte. There is no outcome if a cut is inside a character.
def Finder.matches? (finder : Finder) (value : Query.Value) (text : String) : Option Bool :=
  let needle := lowercase value.text
  let lowered := lowercase text
  if needle.isEmpty then some true
  else if value.quoted then
    (finder.starts (bytes needle) (bytes lowered)).anyM fun start =>
      betweenEdges? lowered start (start + needle.utf8ByteSize)
  else some (finder.first? (bytes needle) (bytes lowered)).isSome

theorem endsAtEdge_concat (left : List Char) (c : Char) : endsAtEdge (left ++ [c]) = isBlank c := by
  rw [endsAtEdge, List.getLast?_concat]
  rfl

-- The walk over bytes and the walk over characters come to the same places. The induction is on the
-- characters that are left, and the next search begins behind those that are still covered.
theorem anyM_betweenEdges? {text : String} {needle left cs : List Char} (hne : needle ≠ [])
    (ht : text.toList = left ++ cs) (covered : Nat) (hc : covered ≤ cs.length) {starts : List Nat}
    (hf : FoundFrom (bytesOf needle) (bytesOf (left ++ cs)) (byteLength (left ++ cs.take covered))
      starts) :
    (starts.anyM fun start => betweenEdges? text start (start + byteLength needle)) =
      some (alignedFrom needle (endsAtEdge left) covered cs) := by
  induction cs generalizing left covered starts with
  | nil =>
      cases hf with
      | none _ => rfl
      | next hf _ =>
          have hlt := hf.stands.lt_length (bytesOf_ne_nil hne)
          have hle := hf.le
          rw [length_bytesOf] at hlt
          rw [List.take_nil] at hle
          omega
  | cons c cs ih =>
      have hnext := ih (ht.trans (List.append_cons left c cs))
      rw [← List.append_cons, endsAtEdge_concat] at hnext
      cases covered with
      | succ covered =>
          rw [List.take_succ_cons, List.append_cons left c (cs.take covered)] at hf
          rw [alignedFrom]
          exact hnext covered (Nat.le_of_succ_le_succ hc) hf
      | zero =>
          rw [List.take_zero, List.append_nil] at hf
          rw [alignedFrom]
          split
          · rename_i hp
            rw [List.isPrefixOf_iff_prefix] at hp
            obtain ⟨rest, rfl, hrest⟩ := hf.eq_cons (standsAt_byteLength_iff.mpr hp)
            obtain ⟨after, hafter⟩ := hp
            obtain ⟨d, tail, rfl⟩ := List.exists_cons_of_ne_nil hne
            rw [List.cons_append, List.cons.injEq] at hafter
            obtain ⟨rfl, rfl⟩ := hafter
            have hposition : byteLength left + (bytesOf (d :: tail)).length =
                byteLength ((left ++ [d]) ++ (tail ++ after).take tail.length) := by
              rw [length_bytesOf, List.take_left, ← List.append_cons, byteLength_append]
            rw [hposition] at hrest
            rw [List.anyM_cons, betweenEdges?_eq ht, hnext tail.length (by simp) hrest,
              ← List.cons_append, List.drop_left, List.length_cons, Nat.add_sub_cancel]
            cases endsAtEdge left && atEdge after <;> rfl
          · rename_i hp
            rw [List.isPrefixOf_iff_prefix] at hp
            have hlater := hf.skip hne hp
            rw [← List.append_nil (left ++ [c]), ← List.take_zero] at hlater
            exact hnext 0 (Nat.zero_le _) hlater

namespace Finder

variable {finder : Finder}

-- A needle is found among the bytes of a text if it is a part of the text.
theorem Reports.isSome_first?_iff (h : finder.Reports) {needle : List Char} (hne : needle ≠ [])
    (text : List Char) :
    (finder.first? (bytesOf needle) (bytesOf text)).isSome = true ↔ needle <:+: text := by
  have hbytes := bytesOf_ne_nil hne
  rw [Option.isSome_iff_exists]
  constructor
  · rintro ⟨start, hstart⟩
    have hfirst := (h.first _ _ start hbytes).mp hstart
    obtain ⟨before, after, rfl, _⟩ := exists_parts_of_standsAt hne hfirst.stands
    exact ⟨before, after, List.append_assoc ..⟩
  · rintro ⟨before, after, rfl⟩
    have hstands : StandsAt (bytesOf needle) (bytesOf (before ++ needle ++ after))
        (byteLength before) := by
      rw [List.append_assoc, standsAt_byteLength_iff]
      exact List.prefix_append needle after
    obtain ⟨start, hstart⟩ := exists_firstFrom hstands
    exact ⟨start, (h.first _ _ start hbytes).mpr hstart⟩

theorem Reports.anyM_starts (h : finder.Reports) {needle : String} (hne : needle ≠ "")
    (text : String) :
    ((finder.starts (bytes needle) (bytes text)).anyM fun start =>
        betweenEdges? text start (start + needle.utf8ByteSize)) =
      some (occursAligned needle.toList text.toList) := by
  have hneedle : needle.toList ≠ [] := by rwa [Ne, String.toList_eq_nil_iff]
  have hfound := h.starts (bytes needle) (bytes text) (bytesOf_ne_nil hneedle)
  rw [← byteLength_toList]
  exact anyM_betweenEdges? hneedle (List.nil_append _).symm 0 (Nat.zero_le _) hfound

-- The test byte by byte has an outcome, and it is that of the test by characters.
theorem Reports.matches?_eq (h : finder.Reports) (value : Query.Value) (text : String) :
    finder.matches? value text = some (value.matchesText text) := by
  have hneedle : (lowercase value.text).toList = lowerList value.text.toList := String.toList_ofList
  have hlowered : (lowercase text).toList = lowerList text.toList := String.toList_ofList
  have hempty : (lowercase value.text).isEmpty = (lowerList value.text.toList).isEmpty := by
    rw [← hneedle, Bool.eq_iff_iff, String.isEmpty_iff, List.isEmpty_iff, String.toList_eq_nil_iff]
  simp only [matches?, Query.Value.matchesText, hempty]
  cases hnone : (lowerList value.text.toList).isEmpty with
  | true => rfl
  | false =>
      rw [hnone, String.isEmpty_eq_false_iff] at hempty
      rw [List.isEmpty_eq_false_iff] at hnone
      simp only [Bool.false_eq_true, if_false, Bool.false_or]
      split
      · rw [h.anyM_starts hempty, hneedle, hlowered]
      · have hfirst := h.isSome_first?_iff hnone (lowerList text.toList)
        rw [← occurs_iff, ← Bool.eq_iff_iff, ← hneedle, ← hlowered] at hfirst
        rw [← hneedle, ← hlowered, ← hfirst]
        rfl

-- Wherever the form of a needle stands among the bytes of a lowercased text, it begins and ends
-- between characters, so the text can be cut there to look for edges. The test of a text byte by
-- byte always has an outcome, which is that of the test by characters. A value that is not quoted
-- is found exactly in the texts it is a part of, both in lowercase.
theorem cuts_between_characters (h : finder.Reports) :
    (∀ (needle text : String) (start : Nat), needle ≠ "" →
      StandsAt (bytes needle) (bytes (lowercase text)) start →
      String.Pos.Raw.IsValid (lowercase text) ⟨start⟩ ∧
      String.Pos.Raw.IsValid (lowercase text) ⟨start + needle.utf8ByteSize⟩ ∧
      (betweenEdges? (lowercase text) start (start + needle.utf8ByteSize)).isSome = true) ∧
    (∀ (value : Query.Value) (text : String),
      finder.matches? value text = some (value.matchesText text)) ∧
    ∀ (value : Query.Value) (text : String), value.quoted = false →
      (finder.matches? value text = some true ↔
        (lowercase value.text).toList <:+: (lowercase text).toList) := by
  refine ⟨?_, h.matches?_eq, ?_⟩
  · intro needle text start hne hstands
    have hneedle : needle.toList ≠ [] := by rwa [Ne, String.toList_eq_nil_iff]
    obtain ⟨before, after, htext, rfl⟩ := exists_parts_of_standsAt hneedle hstands
    have hstop : (lowercase text).toList = (before ++ needle.toList) ++ after := by
      rw [htext, List.append_assoc]
    rw [← byteLength_toList]
    refine ⟨isValid_of_parts htext, ?_, ?_⟩
    · rw [← byteLength_append]
      exact isValid_of_parts hstop
    · rw [betweenEdges?_eq htext]
      rfl
  · rintro ⟨part, quoted⟩ text rfl
    rw [h.matches?_eq, Option.some.injEq, Query.Value.matchesText_plain_iff, lowercase, lowercase,
      String.toList_ofList, String.toList_ofList]

-- The first character of the text takes four bytes and the accented one two.
theorem cuts_between_characters_accented :
    let text := "😀 ÉCOLE"
    stepwise.Reports ∧ "é" ≠ "" ∧ StandsAt (bytes "é") (bytes (lowercase text)) 5 ∧
      String.Pos.Raw.IsValid (lowercase text) ⟨5⟩ ∧
      String.Pos.Raw.IsValid (lowercase text) ⟨5 + "é".utf8ByteSize⟩ ∧
      (betweenEdges? (lowercase text) 5 (5 + "é".utf8ByteSize)).isSome = true ∧
      stepwise.matches? ⟨"École", true⟩ text = some true ∧
      (Query.Value.mk "COL" false).quoted = false ∧
      (lowercase "COL").toList <:+: (lowercase text).toList ∧
      stepwise.matches? ⟨"COL", false⟩ text = some true := by
  intro text
  have hstands : StandsAt (bytes "é") (bytes (lowercase text)) 5 := by decide
  have hpart : (lowercase "COL").toList <:+: (lowercase text).toList := by decide +kernel
  obtain ⟨hcuts, htest, hplain⟩ := cuts_between_characters stepwise_reports
  obtain ⟨hstart, hstop, hsome⟩ := hcuts "é" text 5 (by decide) hstands
  have hmatches : Query.Value.matchesText ⟨"École", true⟩ text = true := by decide
  have hwhole := htest ⟨"École", true⟩ text
  rw [hmatches] at hwhole
  exact ⟨stepwise_reports, by decide, hstands, hstart, hstop, hsome, hwhole, rfl, hpart,
    (hplain ⟨"COL", false⟩ text rfl).mpr hpart⟩

end Finder

end VaultQuery.Text
