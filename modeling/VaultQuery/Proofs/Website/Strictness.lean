import VaultQuery.Proofs.Text.Delimiters
import VaultQuery.Proofs.Website.Addresses
import VaultQuery.Proofs.Website.Authority

namespace VaultQuery.Website

open Text (lowerList lowerFrom IsMark IsDelimiter)

section Hosts

-- The part of an address that names its host and port, as it is written.
def authority (uri : List Char) : List Char :=
  behindLast '@' ((dropScheme uri).takeWhile (!endsAuthority ·))

theorem hostAndPort?_eq (uri : List Char) :
    hostAndPort? uri =
      if lowerList (authority uri) = [] then none else some (lowerList (authority uri)) := by
  have hdef : hostAndPort? uri =
      if (authority uri).isEmpty then none else some (lowerList (authority uri)) := rfl
  simp only [hdef, List.isEmpty_iff, Text.lowerList_eq_nil_iff]

theorem isMark_colon : IsMark ':' := by
  decide

theorem isDelimiter_slash : IsDelimiter '/' := by
  decide

-- A separator is found where it was before the text was lowercased.
theorem behind_lowerFrom (before cs : List Char) :
    dropScheme.behind (lowerFrom before cs) = (dropScheme.behind cs).map lowerList := by
  fun_induction dropScheme.behind cs generalizing before with
  | case1 => rfl
  | case2 cs =>
      simp only [lowerFrom, isMark_colon.lowered.lowerAt_eq, isDelimiter_slash.lowered.lowerAt_eq,
        isDelimiter_slash.lowerFrom_cons, List.singleton_append, dropScheme.behind, Option.map_some]
  | case3 c cs hsep ih =>
      rw [← ih (c :: before), lowerFrom]
      by_cases hc : c = ':'
      · subst hc
        rw [isMark_colon.lowered.lowerAt_eq, List.singleton_append, dropScheme.behind.eq_3]
        -- Only slashes that stood behind the colon before can stand there now.
        intro rest _ hrest
        have hmarks : ∀ d ∈ ['/', '/'], IsMark d := by
          simp only [List.mem_cons, List.not_mem_nil, or_false, or_self, forall_eq]
          exact isDelimiter_slash.toIsMark
        have hslashes : ['/', '/'] <+: cs :=
          (Text.prefix_lowerFrom_iff hmarks (':' :: before) cs).mp ⟨rest, hrest.symm⟩
        obtain ⟨tail, rfl⟩ := hslashes
        exact hsep tail rfl rfl
      · apply behind_append
        intro hm
        exact hc (isMark_colon.eq_of_mem_lowerAt hm).symm

theorem dropScheme_lowerList (uri : List Char) :
    dropScheme (lowerList uri) = lowerList (dropScheme uri) := by
  rw [dropScheme, dropScheme, lowerList, behind_lowerFrom]
  cases dropScheme.behind uri <;> rfl

theorem authority_lowerList (uri : List Char) :
    authority (lowerList uri) = lowerList (authority uri) := by
  have hends : ∀ c, (!endsAuthority c) = false → IsDelimiter c := by
    intro c hc
    simp only [endsAuthority, Bool.not_eq_false', Bool.or_eq_true, decide_eq_true_eq] at hc
    rcases hc with (rfl | rfl) | rfl <;> decide
  have hat : ∀ c, decide (c ≠ '@') = false → IsDelimiter c := by
    intro c hc
    obtain rfl : c = '@' := by simpa using hc
    decide
  rw [authority, dropScheme_lowerList, Text.takeWhile_lowerList hends]
  exact Text.rtakeWhile_lowerList hat _

-- The host depends on the lowercase form of an address alone.
theorem hostAndPort?_congr {uri other : List Char} (h : lowerList uri = lowerList other) :
    hostAndPort? uri = hostAndPort? other := by
  have hsame : lowerList (authority uri) = lowerList (authority other) := by
    rw [← authority_lowerList, h, authority_lowerList]
  rw [hostAndPort?_eq, hostAndPort?_eq, hsame]

end Hosts

section Domains

-- A name or an address of more than dots.
def NamesHost (uri : List Char) : Prop :=
  ∃ host, host? uri = some host ∧ ∃ c ∈ host, c ≠ '.'

-- Whether a stored address and a website have the same domain, given any names that hosts are
-- registered under.
def sameDomainBy (registrable? : List Char → Option (List Char)) (stored website : String) :
    Bool :=
  let stored := Text.trimList stored.toList
  let website := Text.trimList website.toList
  !stored.isEmpty && !website.isEmpty &&
    sameSome (baseDomain? registrable? stored) (baseDomain? registrable? website)

theorem uriMatches_domain_eq [Services] (stored website : String) :
    uriMatches stored website .domain =
      sameDomainBy Services.registrable? stored website := rfl

variable {registrable? : List Char → Option (List Char)}

theorem dropTrailingDots_ne_nil_iff (host : List Char) :
    dropTrailingDots host ≠ [] ↔ ∃ c ∈ host, c ≠ '.' := by
  have hdrop : dropTrailingDots host = host.rdropWhile (· = '.') := rfl
  simp [hdrop, List.rdropWhile_eq_nil_iff]

theorem dropTrailingDots_ne_nil_of_isAddress {host : List Char}
    (h : Address.isAddress host = true) : dropTrailingDots host ≠ [] := by
  rw [dropTrailingDots_eq_self (Address.dottedAtEnd_of_isAddress h).not_endsInDot]
  rintro rfl
  revert h
  decide

theorem isSome_baseDomain? (uri : List Char) :
    (baseDomain? registrable? uri).isSome = true ↔ NamesHost uri := by
  rw [baseDomain?, NamesHost]
  cases host? uri with
  | none => simp
  | some host =>
      simp only [Option.some.injEq, exists_eq_left', ← dropTrailingDots_ne_nil_iff]
      by_cases ha : Address.isAddress host = true
      · simp [ha, dropTrailingDots_ne_nil_of_isAddress ha]
      · by_cases hd : dropTrailingDots host = [] <;> simp [ha, hd]

end Domains

section Strategies

theorem sameSome_self (domain : Option (List Char)) : sameSome domain domain = domain.isSome := by
  cases domain <;> simp [sameSome]

theorem eq_of_sameSome {left right : Option (List Char)} (h : sameSome left right = true) :
    left = right := by
  cases left <;> cases right <;> simp_all [sameSome]

-- The two texts that are compared are not empty.
theorem uriMatches_eq_true [Services] {stored website : String} {strategy : Strategy} :
    uriMatches stored website strategy = true ↔
      ((Text.trimList stored.toList).isEmpty = false ∧
        (Text.trimList website.toList).isEmpty = false) ∧
      strategy.accepts (Text.trimList stored.toList) (Text.trimList website.toList) = true := by
  simp only [uriMatches, Bool.and_eq_true, Bool.not_eq_true']

-- What matches exactly also begins alike, and it matches by host if the stored address names one.
-- What matches by host matches by domain if the host has more than dots.
theorem uriMatches_strictness [Services] (stored website : String) :
    (uriMatches stored website .exact = true →
      uriMatches stored website .startsWith = true ∧
      (uriMatches stored website .host = true ↔
        (hostAndPort? (Text.trimList stored.toList)).isSome = true)) ∧
    (uriMatches stored website .host = true →
      (uriMatches stored website .domain = true ↔ NamesHost (Text.trimList stored.toList)) ∧
      ∀ registrable?, sameDomainBy registrable? stored website = true ↔
        NamesHost (Text.trimList stored.toList)) := by
  refine ⟨?_, ?_⟩
  · intro hexact
    obtain ⟨hne, hexact⟩ := uriMatches_eq_true.mp hexact
    have hlower : lowerList (Text.trimList stored.toList) =
        lowerList (Text.trimList website.toList) := (beq_iff_eq.mp hexact).symm
    rw [uriMatches_eq_true, uriMatches_eq_true, and_iff_right hne, and_iff_right hne,
      Strategy.accepts, Strategy.accepts, hlower, hostAndPort?_congr hlower, sameSome_self]
    exact ⟨by simp, Iff.rfl⟩
  · intro hhost
    obtain ⟨hne, hhost⟩ := uriMatches_eq_true.mp hhost
    have hsame : ∀ registrable?, sameDomainBy registrable? stored website = true ↔
        NamesHost (Text.trimList stored.toList) := by
      intro registrable?
      rw [sameDomainBy, ← baseDomain?_congr _ (eq_of_sameSome hhost), sameSome_self, hne.1, hne.2]
      exact isSome_baseDomain? _
    exact ⟨uriMatches_domain_eq stored website ▸ hsame _, hsame⟩

-- The sigma before the port ends a word in the address and in its host alike.
theorem uriMatches_strictness_sigma :
    uriMatches "http://me@ΟΔΟΣ:80/App" " HTTP://ME@οδος:80/APP" .exact = true ∧
      (hostAndPort? (Text.trimList "http://me@ΟΔΟΣ:80/App".toList)).isSome = true ∧
      NamesHost (Text.trimList "http://me@ΟΔΟΣ:80/App".toList) ∧
      uriMatches "http://me@ΟΔΟΣ:80/App" " HTTP://ME@οδος:80/APP" .startsWith = true ∧
      uriMatches "http://me@ΟΔΟΣ:80/App" " HTTP://ME@οδος:80/APP" .host = true ∧
      uriMatches "http://me@ΟΔΟΣ:80/App" " HTTP://ME@οδος:80/APP" .domain = true := by
  have hexact :
      uriMatches "http://me@ΟΔΟΣ:80/App" " HTTP://ME@οδος:80/APP" .exact = true := by decide
  have hauthority :
      (hostAndPort? (Text.trimList "http://me@ΟΔΟΣ:80/App".toList)).isSome = true := by decide
  have hnames : NamesHost (Text.trimList "http://me@ΟΔΟΣ:80/App".toList) :=
    ⟨"οδος".toList, by decide, 'ο', by decide, by decide⟩
  obtain ⟨hfrom, hby⟩ := uriMatches_strictness "http://me@ΟΔΟΣ:80/App" " HTTP://ME@οδος:80/APP"
  obtain ⟨hstart, hhost⟩ := hfrom hexact
  have hsame := hhost.mpr hauthority
  exact ⟨hexact, hauthority, hnames, hstart, hsame, (hby hsame).1.mpr hnames⟩

end Strategies

end VaultQuery.Website
