import VaultQuery.Proofs.Text.Lowercase
import VaultQuery.Query.Matching

namespace VaultQuery

namespace Text

-- A text that begins behind this part or has a blank before it.
def endsAtEdge (cs : List Char) : Bool :=
  cs.getLast?.all isBlank

-- The needle stands in the text with an edge on both sides.
def StandsApart (needle text : List Char) : Prop :=
  ∃ before after, text = before ++ (needle ++ after) ∧ endsAtEdge before = true ∧
    atEdge after = true

-- A part of the needle behind a blank is also how the needle begins.
def Restarts (needle : List Char) : Prop :=
  ∃ n < needle.length, 0 < n ∧ endsAtEdge (needle.take n) = true ∧ needle.drop n <+: needle

instance (needle : List Char) : Decidable (Restarts needle) :=
  inferInstanceAs (Decidable (∃ n < needle.length, 0 < n ∧ endsAtEdge (needle.take n) = true ∧
    needle.drop n <+: needle))

-- Whether there is an edge behind a part, given whether there is one before it.
def edgeBehind : Bool → List Char → Bool
  | edge, [] => edge
  | _, c :: part => edgeBehind (isBlank c) part

theorem edgeBehind_eq (edge : Bool) (part : List Char) :
    edgeBehind edge part = (part.getLast?.map isBlank).getD edge := by
  induction part generalizing edge with
  | nil => rfl
  | cons c part ih =>
      rw [edgeBehind, ih]
      cases part with
      | nil => rfl
      | cons d part => simp [List.getLast?_cons]

theorem edgeBehind_true (part : List Char) : edgeBehind true part = endsAtEdge part := by
  rw [edgeBehind_eq, endsAtEdge]
  cases part.getLast? <;> rfl

variable {needle : List Char}

theorem exists_of_alignedFrom {edge : Bool} {covered : Nat} {text : List Char}
    (h : alignedFrom needle edge covered text = true) :
    ∃ before after, text = before ++ (needle ++ after) ∧ edgeBehind edge before = true ∧
      atEdge after = true := by
  fun_induction alignedFrom needle edge covered text with
  | case1 => cases h
  | case2 edge covered c cs ih =>
      obtain ⟨before, after, rfl, hb, ha⟩ := ih h
      exact ⟨c :: before, after, rfl, hb, ha⟩
  | case3 edge c cs hp ih =>
      rcases Bool.or_eq_true_iff.mp h with hhere | hlater
      · obtain ⟨he, ha⟩ := Bool.and_eq_true_iff.mp hhere
        have hsplit := List.prefix_iff_eq_append.mp (List.isPrefixOf_iff_prefix.mp hp)
        exact ⟨[], _, hsplit.symm, he, ha⟩
      · obtain ⟨before, after, rfl, hb, ha⟩ := ih hlater
        exact ⟨c :: before, after, rfl, hb, ha⟩
  | case4 edge c cs _ ih =>
      obtain ⟨before, after, rfl, hb, ha⟩ := ih h
      exact ⟨c :: before, after, rfl, hb, ha⟩

-- An occurrence that reaches into one behind an edge makes the needle begin again inside itself.
theorem restarts_of_overlap {before after : List Char} (hne : before ≠ [])
    (hedge : endsAtEdge before = true) (hp : needle <+: before ++ (needle ++ after))
    (hover : before.length < needle.length) : Restarts needle := by
  obtain ⟨rest, rfl⟩ : before <+: needle :=
    List.prefix_of_prefix_length_le (List.prefix_append ..) hp (Nat.le_of_lt hover)
  refine ⟨before.length, hover, List.length_pos_iff.mpr hne, ?_, ?_⟩
  · rwa [List.take_left]
  · rw [List.drop_left]
    have hrest := (List.prefix_append_right_inj before).mp hp
    exact List.prefix_of_prefix_length_le hrest (List.prefix_append ..) (by simp)

-- The walk comes to every occurrence between edges that no earlier occurrence reaches into. The
-- induction is on what stands before the occurrence and keeps that the last one ends in time.
theorem alignedFrom_of_not_restarts (hne : needle ≠ []) (hr : ¬Restarts needle)
    {edge : Bool} {covered : Nat} {before after : List Char} (hcovered : covered ≤ before.length)
    (hb : edgeBehind edge before = true) (ha : atEdge after = true) :
    alignedFrom needle edge covered (before ++ (needle ++ after)) = true := by
  induction before generalizing edge covered with
  | nil =>
      obtain rfl := Nat.le_zero.mp hcovered
      obtain ⟨c, rest, rfl⟩ := List.exists_cons_of_ne_nil hne
      rw [edgeBehind] at hb
      have hp : (c :: rest).isPrefixOf (c :: (rest ++ after)) = true := by simp
      have hafter : (c :: (rest ++ after)).drop (c :: rest).length = after := by
        rw [← List.cons_append, List.drop_left]
      rw [List.nil_append, List.cons_append, alignedFrom, if_pos hp, hafter, hb, ha]
      rfl
  | cons c before ih =>
      rw [edgeBehind] at hb
      cases covered with
      | succ covered =>
          rw [List.cons_append, alignedFrom]
          exact ih (by simpa using hcovered) hb
      | zero =>
          rw [List.cons_append, alignedFrom]
          split
          · rename_i hp
            -- The occurrence here ends before the one looked for.
            have hend : needle.length ≤ (c :: before).length := by
              by_contra hover
              apply hr
              have hedge : endsAtEdge (c :: before) = true := by
                rw [← edgeBehind_true, edgeBehind]
                exact hb
              exact restarts_of_overlap (List.cons_ne_nil c before) hedge
                (List.isPrefixOf_iff_prefix.mp hp) (by omega)
            rw [Bool.or_eq_true]
            right
            rw [List.length_cons] at hend
            exact ih (by omega) hb
          · exact ih (Nat.zero_le _) hb

theorem standsApart_of_occursAligned {text : List Char} (h : occursAligned needle text = true) :
    StandsApart needle text := by
  obtain ⟨before, after, ht, hb, ha⟩ := exists_of_alignedFrom h
  exact ⟨before, after, ht, by rwa [← edgeBehind_true], ha⟩

theorem occursAligned_of_standsApart (hne : needle ≠ []) (hr : ¬Restarts needle)
    {text : List Char} (h : StandsApart needle text) : occursAligned needle text = true := by
  obtain ⟨before, after, rfl, hb, ha⟩ := h
  exact alignedFrom_of_not_restarts hne hr (Nat.zero_le _) (by rwa [edgeBehind_true]) ha

theorem alignedFrom_of_length_lt {edge : Bool} {covered : Nat} {text : List Char}
    (h : text.length < covered + needle.length) :
    alignedFrom needle edge covered text = false := by
  fun_induction alignedFrom needle edge covered text with
  | case1 => rfl
  | case2 edge covered c cs ih => exact ih (by simp at h; omega)
  | case3 edge c cs hp ih =>
      have hle := (List.isPrefixOf_iff_prefix.mp hp).length_le
      omega
  | case4 edge c cs _ ih => exact ih (by simp at h; omega)

-- Behind a character that is no blank and does not begin it, a needle that begins again inside
-- itself is missed.
theorem exists_missed (hr : Restarts needle) {c : Char} (hblank : isBlank c = false)
    (hhead : needle.head? ≠ some c) :
    ∃ before, before <+: needle ∧ StandsApart needle (c :: (before ++ needle)) ∧
      occursAligned needle (c :: (before ++ needle)) = false := by
  obtain ⟨n, hn, hpos, hedge, rest, hrest⟩ := hr
  have hne : needle.take n ≠ [] := by
    rw [← List.length_pos_iff, List.length_take]
    omega
  refine ⟨needle.take n, List.take_prefix n needle, ⟨c :: needle.take n, [], by simp, ?_, rfl⟩, ?_⟩
  · rw [← edgeBehind_true, edgeBehind]
    obtain ⟨d, before, ht⟩ := List.exists_cons_of_ne_nil hne
    rw [ht] at hedge ⊢
    rw [← edgeBehind_true, edgeBehind] at hedge
    exact hedge
  · have hsplit : needle.take n ++ needle = needle ++ rest := by
      calc needle.take n ++ needle = needle.take n ++ (needle.drop n ++ rest) := by rw [hrest]
        _ = needle ++ rest := by rw [← List.append_assoc, List.take_append_drop]
    have hlength : needle.length - n + rest.length = needle.length := by
      simpa using congrArg List.length hrest
    obtain ⟨d, tail, rfl⟩ : ∃ d tail, needle = d :: tail :=
      List.exists_cons_of_ne_nil (List.ne_nil_of_length_pos (by omega))
    have hcd : ¬(d :: tail).isPrefixOf (c :: (d :: tail ++ rest)) = true := by
      rw [List.isPrefixOf_iff_prefix, List.cons_prefix_cons]
      rintro ⟨rfl, _⟩
      exact hhead rfl
    have hp : (d :: tail).isPrefixOf (d :: tail ++ rest) = true := by simp
    rw [hsplit, occursAligned, alignedFrom, if_neg hcd, List.cons_append, alignedFrom,
      ← List.cons_append, if_pos hp, hblank, Bool.false_and, Bool.false_or]
    apply alignedFrom_of_length_lt
    simp only [List.length_append, List.length_cons] at hn hlength ⊢
    omega

end Text

namespace Query.Value

open Text

theorem matchesText_quoted_eq {title : String} (hne : title ≠ "") (text : String) :
    matchesText ⟨title, true⟩ text =
      occursAligned (lowerList title.toList) (lowerList text.toList) := by
  have hsome : (lowerList title.toList).isEmpty = false := by
    rw [List.isEmpty_eq_false_iff]
    apply lowerList_ne_nil
    rwa [Ne, String.toList_eq_nil_iff]
  simp only [matchesText, hsome, Bool.false_or, if_true]

-- A quoted value is found in a text only where it stands between edges. It is found wherever it
-- stands so, in every text, unless it begins again inside itself behind a blank.
theorem matchesText_quoted (title : String) (hne : title ≠ "") :
    (∀ text, matchesText ⟨title, true⟩ text = true →
      StandsApart (lowerList title.toList) (lowerList text.toList)) ∧
    ((∀ text, StandsApart (lowerList title.toList) (lowerList text.toList) →
      matchesText ⟨title, true⟩ text = true) ↔ ¬Restarts (lowerList title.toList)) := by
  have hneedle : lowerList title.toList ≠ [] := by
    apply lowerList_ne_nil
    rwa [Ne, String.toList_eq_nil_iff]
  simp only [matchesText_quoted_eq hne]
  refine ⟨fun _ => standsApart_of_occursAligned, ?_, ?_⟩
  · intro hall hr
    obtain ⟨c, hhead, hc, _, hblank⟩ := exists_letter (lowerList title.toList).head?
    obtain ⟨before, hb, hstands, hmissed⟩ := exists_missed hr hblank hhead
    have hlowered : lowerList (c :: (before ++ lowerList title.toList)) =
        c :: (before ++ lowerList title.toList) := by
      apply lowerList_of_isLowered
      intro d hd
      rcases List.mem_cons.mp hd with rfl | hd
      · exact hc
      · rcases List.mem_append.mp hd with hd | hd
        · exact isLowered_of_mem_lowerList (hb.subset hd)
        · exact isLowered_of_mem_lowerList hd
    have hfound := hall (String.ofList (c :: (before ++ lowerList title.toList)))
    rw [String.toList_ofList, hlowered] at hfound
    rw [hfound hstands] at hmissed
    cases hmissed
  · intro hr text hstands
    exact occursAligned_of_standsApart hneedle hr hstands

-- A phrase with a blank in it, which does not begin again behind the blank.
theorem matchesText_quoted_phrase :
    "home router" ≠ "" ∧ ¬Restarts (lowerList "home router".toList) ∧
      StandsApart (lowerList "home router".toList) (lowerList "the Home Router admin".toList) ∧
      matchesText ⟨"home router", true⟩ "the Home Router admin" = true ∧
      matchesText ⟨"home router", true⟩ "home routers" = false := by
  have hne : "home router" ≠ "" := by decide
  have hr : ¬Restarts (lowerList "home router".toList) := by decide
  have hstands :
      StandsApart (lowerList "home router".toList) (lowerList "the Home Router admin".toList) :=
    ⟨"the ".toList, " admin".toList, by decide, by decide, by decide⟩
  obtain ⟨_, hfound⟩ := matchesText_quoted "home router" hne
  exact ⟨hne, hr, hstands, hfound.mpr hr _ hstands, by decide⟩

-- The token at the end stands apart, but the occurrence before it reaches into it.
theorem matchesText_quoted_overlapped :
    StandsApart (lowerList "a a".toList) (lowerList "xa a a".toList) ∧
      matchesText ⟨"a a", true⟩ "xa a a" = false :=
  ⟨⟨"xa ".toList, [], by decide, by decide, by decide⟩, by decide⟩

end Query.Value

end VaultQuery
