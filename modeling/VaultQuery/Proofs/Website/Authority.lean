import VaultQuery.Proofs.Text.Trim
import VaultQuery.Text.Search
import VaultQuery.Website.Builtin
import VaultQuery.Website.Match

namespace VaultQuery.Website

-- What stands between a scheme and an authority.
def separator : List Char :=
  [':', '/', '/']

-- A scheme with its separator, or nothing.
inductive IsScheme : List Char → Prop where
  | missing : IsScheme []
  | named (name : List Char) (hne : name ≠ []) (hname : ∀ c ∈ name, c.isAlpha = true) :
      IsScheme (name ++ separator)

structure IsAuthority (cs : List Char) : Prop where
  nonempty : cs ≠ []
  unbroken : ∀ c ∈ cs, Text.isBlank c = false
  unended : ∀ c ∈ cs, endsAuthority c = false

instance (cs : List Char) : Decidable (IsAuthority cs) :=
  decidable_of_iff (cs ≠ [] ∧ (cs.all fun c => !Text.isBlank c && !endsAuthority c) = true) <| by
    simp only [List.all_eq_true, Bool.and_eq_true, Bool.not_eq_true']
    exact ⟨fun ⟨hne, hall⟩ => ⟨hne, fun c hc => (hall c hc).1, fun c hc => (hall c hc).2⟩,
      fun h => ⟨h.nonempty, fun c hc => ⟨h.unbroken c hc, h.unended c hc⟩⟩⟩

-- A path, a query or a fragment, if there is any.
def IsRemainder (cs : List Char) : Prop :=
  ∀ c ∈ cs.head?, endsAuthority c = true

instance (cs : List Char) : Decidable (IsRemainder cs) :=
  decidable_of_iff (cs.head?.all endsAuthority = true) <| by
    cases cs <;> simp [IsRemainder]

theorem IsRemainder.of_isPrefix {cs kept : List Char} (h : IsRemainder cs) (hk : kept <+: cs) :
    IsRemainder kept := by
  obtain ⟨dropped, rfl⟩ := hk
  intro c hc
  exact h c (List.mem_head?_append_of_mem_head? hc)

-- A separator begins with a colon.
theorem behind_append {front : List Char} (h : ':' ∉ front) (rest : List Char) :
    dropScheme.behind (front ++ rest) = dropScheme.behind rest := by
  induction front with
  | nil => rfl
  | cons c front ih =>
      simp only [List.mem_cons, not_or] at h
      rw [List.cons_append, dropScheme.behind.eq_3]
      · exact ih h.2
      · intro cs hc
        exact absurd hc.symm h.1

theorem behind_eq_none {cs : List Char} (h : ¬separator <:+: cs) :
    dropScheme.behind cs = none := by
  fun_induction dropScheme.behind cs with
  | case1 => rfl
  | case2 cs => exact absurd ⟨[], cs, rfl⟩ h
  | case3 c cs _ ih =>
      apply ih
      intro hi
      exact h (List.infix_cons hi)

-- A scheme is dropped. Without one nothing is, unless the text has a separator elsewhere.
theorem dropScheme_append {scheme rest : List Char} (hs : IsScheme scheme)
    (hclear : scheme = [] → ¬separator <:+: rest) : dropScheme (scheme ++ rest) = rest := by
  cases hs with
  | missing => rw [dropScheme, List.nil_append, behind_eq_none (hclear rfl), Option.getD_none]
  | named name _ hname =>
      have hcolon : ':' ∉ name := by
        intro hm
        exact absurd (hname ':' hm) (by decide)
      rw [dropScheme, List.append_assoc, behind_append hcolon]
      rfl

theorem hostAndPort?_append {scheme authority remainder : List Char} (hs : IsScheme scheme)
    (ha : IsAuthority authority) (hr : IsRemainder remainder)
    (hclear : scheme = [] → ¬separator <:+: authority ++ remainder) :
    hostAndPort? (scheme ++ (authority ++ remainder)) =
      hostAndPort? (scheme ++ authority) := by
  have hauthority : (authority ++ remainder).takeWhile (!endsAuthority ·) = authority := by
    rw [List.takeWhile_append_of_pos (by simpa using ha.unended),
      takeWhile_eq_nil (by simpa [IsRemainder] using hr), List.append_nil]
  have halone : authority.takeWhile (!endsAuthority ·) = authority := by
    rw [List.takeWhile_eq_self_iff]
    simpa using ha.unended
  have hclearAlone : scheme = [] → ¬separator <:+: authority := by
    intro he hi
    exact hclear he (hi.trans (List.infix_append' [] authority remainder))
  rw [hostAndPort?, hostAndPort?, dropScheme_append hs hclear, dropScheme_append hs hclearAlone,
    hauthority, halone]

theorem trimList_scheme_append {scheme authority : List Char} (hs : IsScheme scheme)
    (ha : IsAuthority authority) (remainder : List Char) :
    Text.trimList (scheme ++ authority ++ remainder) =
      scheme ++ (authority ++ remainder.rdropWhile Text.isBlank) := by
  rw [Text.trimList_append, List.append_assoc]
  · simp [ha.nonempty]
  · cases hs with
    | missing =>
        intro c hc
        exact ha.unbroken c (List.mem_of_mem_head? hc)
    | named name hne hname =>
        intro c hc
        rw [List.append_assoc, List.head?_append_of_ne_nil _ hne] at hc
        exact Text.isBlank_of_isAlpha (hname c (List.mem_of_mem_head? hc))
  · intro c hc
    rw [List.getLast?_append_of_ne_nil _ ha.nonempty] at hc
    exact ha.unbroken c (List.mem_of_mem_getLast? hc)

theorem baseDomain?_congr (registrable? : List Char → Option (List Char))
    {stored other : List Char} (h : hostAndPort? stored = hostAndPort? other) :
    baseDomain? registrable? stored = baseDomain? registrable? other := by
  simp only [baseDomain?, host?, h]

-- Hosts are all that these strategies compare.
theorem Strategy.accepts_congr [Services] {stored other : List Char}
    (h : hostAndPort? stored = hostAndPort? other) (website : List Char) {strategy : Strategy}
    (hstrategy : strategy = .host ∨ strategy = .domain) :
    strategy.accepts stored website = strategy.accepts other website := by
  rcases hstrategy with rfl | rfl
  · rw [accepts, accepts, h]
  · rw [accepts, accepts, baseDomain?_congr _ h]

theorem uriMatches_of_trimList [Services] {stored : String} {trimmed : List Char}
    (h : Text.trimList stored.toList = trimmed) (hne : trimmed ≠ []) (website : String)
    (strategy : Strategy) :
    uriMatches stored website strategy =
      (!(Text.trimList website.toList).isEmpty &&
        strategy.accepts trimmed (Text.trimList website.toList)) := by
  rw [uriMatches, h, List.isEmpty_eq_false_iff.mpr hne]
  rfl

-- A path, a query and a fragment do not count when hosts or domains are compared. A separator in
-- them is only safe behind a scheme of the address itself.
theorem uriMatches_append_remainder [Services] (scheme authority remainder website : String)
    {strategy : Strategy} (hstrategy : strategy = .host ∨ strategy = .domain)
    (hs : IsScheme scheme.toList) (ha : IsAuthority authority.toList)
    (hr : IsRemainder remainder.toList)
    (hclear : scheme = "" → ¬separator <:+: (authority ++ remainder).toList) :
    uriMatches (scheme ++ authority ++ remainder) website strategy =
      uriMatches (scheme ++ authority) website strategy := by
  have hkept := List.rdropWhile_prefix Text.isBlank remainder.toList
  have hclearKept : scheme.toList = [] →
      ¬separator <:+: authority.toList ++ remainder.toList.rdropWhile Text.isBlank := by
    intro he hi
    apply hclear (String.toList_eq_nil_iff.mp he)
    rw [String.toList_append]
    exact hi.trans ((List.prefix_append_right_inj _).mpr hkept).isInfix
  have hhost := hostAndPort?_append hs ha (hr.of_isPrefix hkept) hclearKept
  have hfull := trimList_scheme_append hs ha remainder.toList
  have halone := trimList_scheme_append hs ha []
  rw [List.append_nil, List.rdropWhile_nil, List.append_nil] at halone
  rw [← String.toList_append, ← String.toList_append] at hfull
  rw [← String.toList_append] at halone
  have hsome (rest : List Char) : scheme.toList ++ (authority.toList ++ rest) ≠ [] :=
    List.append_ne_nil_of_right_ne_nil _ (List.append_ne_nil_of_left_ne_nil ha.nonempty _)
  rw [uriMatches_of_trimList hfull (hsome _), uriMatches_of_trimList halone,
    Strategy.accepts_congr hhost _ hstrategy, String.toList_append]
  simpa using hsome []

-- A separator in a query is harmless behind a scheme, and a path without one is harmless anywhere.
theorem uriMatches_append_remainder_login :
    (IsScheme "https://".toList ∧ IsAuthority "me@vault.example.com:8443".toList ∧
      IsRemainder "/login?next=http://evil.com ".toList ∧
      uriMatches ("https://" ++ "me@vault.example.com:8443" ++ "/login?next=http://evil.com ")
          "VAULT.example.com:8443" .host =
        uriMatches ("https://" ++ "me@vault.example.com:8443") "VAULT.example.com:8443" .host ∧
      uriMatches ("https://" ++ "me@vault.example.com:8443") "VAULT.example.com:8443" .host =
        true) ∧
    IsScheme "".toList ∧ IsAuthority "accounts.example.com".toList ∧
      IsRemainder "/login#top".toList ∧
      ¬separator <:+: ("accounts.example.com" ++ "/login#top").toList ∧
      uriMatches ("" ++ "accounts.example.com" ++ "/login#top") "example.com" .domain =
        uriMatches ("" ++ "accounts.example.com") "example.com" .domain := by
  have hnamed : IsScheme "https://".toList :=
    .named "https".toList (by decide) (List.all_eq_true.mp (by decide))
  have hlogin : IsAuthority "me@vault.example.com:8443".toList := by decide
  have hquery : IsRemainder "/login?next=http://evil.com ".toList := by decide
  have haccounts : IsAuthority "accounts.example.com".toList := by decide
  have hpath : IsRemainder "/login#top".toList := by decide
  have hclear : ¬separator <:+: ("accounts.example.com" ++ "/login#top").toList := by
    rw [← Text.occurs_iff]
    decide
  constructor
  · exact ⟨hnamed, hlogin, hquery,
      uriMatches_append_remainder _ _ _ _ (.inl rfl) hnamed hlogin hquery (by simp), by decide⟩
  · exact ⟨.missing, haccounts, hpath, hclear,
      uriMatches_append_remainder _ _ _ _ (.inr rfl) .missing haccounts hpath fun _ => hclear⟩

-- Without a scheme the separator in a query is taken for that of the address, and the address is
-- compared by the host that the query names.
theorem uriMatches_separator_in_query :
    IsScheme "".toList ∧ IsAuthority "example.com".toList ∧
      IsRemainder "/login?next=http://evil.com".toList ∧
      (uriMatches ("" ++ "example.com" ++ "/login?next=http://evil.com") "evil.com" .host = true ∧
        uriMatches ("" ++ "example.com") "evil.com" .host = false) ∧
      uriMatches ("" ++ "example.com" ++ "/login?next=http://evil.com") "evil.com" .domain = true ∧
      uriMatches ("" ++ "example.com") "evil.com" .domain = false :=
  ⟨.missing, by decide, by decide, by decide, by decide, by decide⟩

end VaultQuery.Website
