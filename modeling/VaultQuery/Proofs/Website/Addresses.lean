import Mathlib.Data.List.DropRight
import VaultQuery.Website.Builtin
import VaultQuery.Website.Match

namespace VaultQuery.Website

namespace Address

theorem split_eq_splitOn (separator : Char) (cs : List Char) :
    split separator cs = cs.splitOn separator := by
  induction cs with
  | nil => rfl
  | cons c cs ih =>
      rw [split, List.splitOn_cons_eq_if_modifyHead, ih]
      by_cases hc : c = separator
      · simp [hc]
      · cases hs : cs.splitOn separator with
        | nil => exact absurd hs (List.splitOn_ne_nil _ _)
        | cons part parts => simp [hc]

theorem intercalate_split (separator : Char) (cs : List Char) :
    [separator].intercalate (split separator cs) = cs := by
  rw [split_eq_splitOn, List.intercalate_splitOn]

-- A part of a name between its dots.
structure IsLabel (label : List Char) : Prop where
  nonempty : label ≠ []
  undotted : '.' ∉ label

-- A label of digits alone.
structure IsNumber (label : List Char) : Prop where
  nonempty : label ≠ []
  digits : label.all Text.isDigit = true

theorem dot_not_mem_of_all {p : Char → Bool} {label : List Char} (h : label.all p = true)
    (hp : p '.' = false) : '.' ∉ label := by
  intro hm
  rw [List.all_eq_true.mp h _ hm] at hp
  cases hp

theorem IsNumber.isLabel {label : List Char} (h : IsNumber label) : IsLabel label :=
  ⟨h.nonempty, dot_not_mem_of_all h.digits (by decide)⟩

theorem IsNumber.of_isOctet {label : List Char} (h : isOctet label = true) : IsNumber label := by
  simp only [isOctet, Bool.and_eq_true, Bool.not_eq_true', List.isEmpty_eq_false_iff] at h
  obtain ⟨⟨⟨⟨hne, _⟩, hdigits⟩, _⟩, _⟩ := h
  exact ⟨hne, hdigits⟩

-- Four labels with dots between them, the last of which is a number.
inductive Quad : List Char → Prop where
  | mk {first second third last : List Char} (hf : IsLabel first) (hs : IsLabel second)
    (ht : IsLabel third) (hl : IsNumber last) :
    Quad (['.'].intercalate [first, second, third, last])

theorem Quad.append {front cs : List Char} (hfront : '.' ∉ front) (h : Quad cs) :
    Quad (front ++ cs) := by
  obtain @⟨first, second, third, last, hf, hs, ht, hl⟩ := h
  have hfirst : IsLabel (front ++ first) :=
    ⟨List.append_ne_nil_of_right_ne_nil _ hf.nonempty, List.not_mem_append hfront hf.undotted⟩
  simpa using Quad.mk hfirst hs ht hl

theorem Quad.of_isV4 {cs : List Char} (h : isV4 cs = true) : Quad cs := by
  simp only [isV4, Bool.and_eq_true, beq_iff_eq] at h
  obtain ⟨hlength, hall⟩ := h
  obtain ⟨first, second, third, last, hsplit⟩ := List.length_eq_four.mp hlength
  have hcs := intercalate_split '.' cs
  rw [hsplit] at hall hcs
  have hoctets : ∀ label ∈ [first, second, third, last], IsNumber label :=
    fun label hm => .of_isOctet (List.all_eq_true.mp hall label hm)
  simp only [List.forall_mem_cons] at hoctets
  obtain ⟨hf, hs, ht, hl, _⟩ := hoctets
  rw [← hcs]
  exact .mk hf.isLabel hs.isLabel ht.isLabel hl

-- No dots, or those of an IPv4 address at the end.
def DottedAtEnd (cs : List Char) : Prop :=
  '.' ∉ cs ∨ Quad cs

theorem DottedAtEnd.append {front cs : List Char} (hfront : '.' ∉ front)
    (h : DottedAtEnd cs) : DottedAtEnd (front ++ cs) :=
  h.imp (List.not_mem_append hfront) (Quad.append hfront)

theorem dot_not_mem_of_isGroup {part : List Char} (h : isGroup part = true) : '.' ∉ part := by
  rw [isGroup, Bool.and_eq_true] at h
  exact dot_not_mem_of_all h.2 (by decide)

-- Only the last part between colons can be an IPv4 address.
theorem dottedAtEnd_of_groupCount? {parts : List (List Char)} {count : Nat}
    (h : groupCount? parts = some count) : DottedAtEnd ([':'].intercalate parts) := by
  fun_induction groupCount? parts generalizing count with
  | case1 => exact .inl (by decide)
  | case2 part hg => exact .inl (by simpa using dot_not_mem_of_isGroup hg)
  | case3 part _ hv => exact .inr (by simpa using Quad.of_isV4 hv)
  | case4 => cases h
  | case5 part parts hne hg ih =>
      obtain ⟨rest, hr, _⟩ := Option.map_eq_some_iff.mp h
      have hfront : '.' ∉ part ++ [':'] :=
        List.not_mem_append (dot_not_mem_of_isGroup hg) (by decide)
      cases parts with
      | nil => exact absurd rfl hne
      | cons next parts =>
          rw [List.intercalate_cons_cons]
          exact (ih hr).append hfront
  | case6 => cases h

theorem dottedAtEnd_of_groupsOf? {cs : List Char} {count : Nat}
    (h : groupsOf? cs = some count) : DottedAtEnd cs := by
  rw [groupsOf?] at h
  split at h
  · rename_i he
    rw [List.isEmpty_iff.mp he]
    exact .inl List.not_mem_nil
  · have hparts := dottedAtEnd_of_groupCount? h
    rwa [intercalate_split] at hparts

theorem eq_of_cutAtGap {cs head tail : List Char} (h : cutAtGap cs = some (head, tail)) :
    cs = head ++ ([':', ':'] ++ tail) := by
  fun_induction cutAtGap cs generalizing head with
  | case1 cs =>
      cases h
      rfl
  | case2 c cs _ ih =>
      obtain ⟨⟨front, back⟩, hcut, he⟩ := Option.map_eq_some_iff.mp h
      cases he
      rw [ih hcut]
      rfl
  | case3 => cases h

theorem dottedAtEnd_of_isAddress {cs : List Char} (h : isAddress cs = true) :
    DottedAtEnd cs := by
  rcases Bool.or_eq_true_iff.mp h with hv4 | hv6
  · exact .inr (.of_isV4 hv4)
  · rw [isV6] at hv6
    split at hv6
    · exact dottedAtEnd_of_groupsOf? (beq_iff_eq.mp hv6)
    · rename_i head tail hcut
      rw [Bool.and_eq_true] at hv6
      obtain ⟨hhead, hgroups⟩ := hv6
      have hfront : '.' ∉ head ++ [':', ':'] :=
        List.not_mem_append (by simpa using hhead) (by decide)
      split at hgroups
      · rename_i htail
        rw [eq_of_cutAtGap hcut, ← List.append_assoc]
        exact (dottedAtEnd_of_groupsOf? htail).append hfront
      · cases hgroups

end Address

open Address

-- The last two labels of a host with the dot between them.
def lastTwoLabels (host : List Char) : List Char :=
  ['.'].intercalate ((split '.' host).rtake 2)

-- A dot stands behind the name.
def EndsInDot (host : List Char) : Prop :=
  host.getLast? = some '.'

instance (host : List Char) : Decidable (EndsInDot host) :=
  inferInstanceAs (Decidable (_ = _))

theorem split_of_dot_not_mem {host : List Char} (h : '.' ∉ host) : split '.' host = [host] := by
  rw [split_eq_splitOn, List.splitOn_eq_singleton h]

theorem lastTwoLabels_of_dot_not_mem {host : List Char} (h : '.' ∉ host) :
    lastTwoLabels host = host := by
  rw [lastTwoLabels, split_of_dot_not_mem h]
  exact List.intercalate_singleton

-- Parts without the separator are found again between the separators.
theorem split_intercalate {parts : List (List Char)} (hne : parts ≠ [])
    (h : ∀ part ∈ parts, '.' ∉ part) : split '.' (['.'].intercalate parts) = parts := by
  rw [split_eq_splitOn, List.splitOn_intercalate _ h hne]

-- What is relied on of the names that hosts are registered under. Without dots there is none, and
-- the last label is the suffix where it is a number.
structure FollowsDefaultRule (registrable? : List Char → Option (List Char)) : Prop where
  undotted (host : List Char) (h : '.' ∉ host) : registrable? host = none
  number (labels : List (List Char)) (label last : List Char)
    (hlabels : ∀ part ∈ labels, IsLabel part) (hlabel : IsLabel label) (hlast : IsNumber last) :
    registrable? (['.'].intercalate (labels ++ [label, last])) =
      some (['.'].intercalate [label, last])

namespace PublicSuffix

-- Whether a label of a rule can stand for a number.
def Label.coversNumbers : Label → Bool
  | .exactly word => word.toList.all Text.isDigit
  | .any => true

theorem longest_eq_one {matching : List Rule}
    (h : ∀ rule ∈ matching, rule.labels.length ≤ 1) :
    matching.foldl (fun longest rule => max longest rule.labels.length) 1 = 1 := by
  induction matching with
  | nil => rfl
  | cons rule matching ih =>
      obtain ⟨hrule, hrest⟩ := List.forall_mem_cons.mp h
      rw [List.foldl_cons, Nat.max_eq_left hrule, ih hrest]

-- Exceptions have more labels than one.
theorem labelCount_eq_one {name : List (List Char)}
    (h : ∀ rule ∈ rules, applies rule.labels name = true → rule.labels.length ≤ 1) :
    labelCount name = 1 := by
  have hexception : ∀ rule ∈ rules, rule.isException = true → 1 < rule.labels.length := by decide
  have hlength : ∀ rule ∈ rules.filter fun rule => applies rule.labels name,
      rule.labels.length ≤ 1 := by
    intro rule hm
    obtain ⟨hr, ha⟩ := List.mem_filter.mp hm
    exact h rule hr ha
  have hnone : (rules.filter fun rule => applies rule.labels name).find?
      (·.isException) = none := by
    rw [List.find?_eq_none]
    intro rule hm he
    have hlong := hexception rule (List.mem_of_mem_filter hm) he
    exact absurd hlong (Nat.not_lt.mpr (hlength rule hm))
  simp only [labelCount, hnone]
  exact longest_eq_one hlength

-- No rule is about names that end in a number.
theorem labelCount_number {last : List Char} (h : IsNumber last) (name : List (List Char)) :
    labelCount (last :: name) = 1 := by
  have hrules : ∀ rule ∈ rules, rule.labels.head?.any (!·.coversNumbers) = true := by decide
  apply labelCount_eq_one
  intro rule hr ha
  obtain ⟨label, hhead, hcovers⟩ := (Option.any_eq_true _ _).mp (hrules rule hr)
  obtain ⟨labels, hlabels⟩ := List.head?_eq_some_iff.mp hhead
  rw [hlabels, applies, Bool.and_eq_true] at ha
  cases label with
  | any => cases hcovers
  | exactly word =>
      obtain rfl : word.toList = last := by simpa [Label.accepts] using ha.1
      simp [Label.coversNumbers, h.digits] at hcovers

theorem labelCount_single (label : List Char) : labelCount [label] = 1 := by
  apply labelCount_eq_one
  intro rule _ ha
  cases hl : rule.labels with
  | nil => simp
  | cons first labels =>
      cases labels with
      | nil => simp
      | cons second labels => simp [hl, applies] at ha

-- The list keeps to what is relied on.
theorem followsDefaultRule : FollowsDefaultRule registrable? where
  undotted host h := by
    simp [registrable?, split_of_dot_not_mem h, labelCount_single]
  number labels label last hlabels hlabel hlast := by
    have hcount : labelCount (last :: label :: labels.reverse) = 1 := labelCount_number hlast _
    have hundotted : ∀ part ∈ labels ++ [label, last], '.' ∉ part := by
      simp only [List.forall_mem_append, List.forall_mem_cons]
      exact ⟨fun part hm => (hlabels part hm).undotted, hlabel.undotted, hlast.isLabel.undotted,
        List.forall_mem_nil _⟩
    rw [registrable?, split_intercalate (by simp) hundotted]
    simp [hcount, hlabel.nonempty]

end PublicSuffix

namespace Address

variable {registrable? : List Char → Option (List Char)} {host other : List Char}

theorem Quad.exists_lastTwoLabels (h : Quad host) : ∃ labels label last,
    (∀ part ∈ labels, IsLabel part) ∧ IsLabel label ∧ IsNumber last ∧
      host = ['.'].intercalate (labels ++ [label, last]) ∧
      lastTwoLabels host = ['.'].intercalate [label, last] := by
  obtain @⟨first, second, third, last, hf, hs, ht, hl⟩ := h
  have hsplit : split '.' (['.'].intercalate [first, second, third, last]) =
      [first, second, third, last] := by
    apply split_intercalate (by simp)
    simp [hf.undotted, hs.undotted, ht.undotted, hl.isLabel.undotted]
  refine ⟨[first, second], third, last, by simp [hf, hs], ht, hl, rfl, ?_⟩
  rw [lastTwoLabels, hsplit]
  rfl

theorem Quad.registrable?_eq (hrule : FollowsDefaultRule registrable?) (h : Quad host) :
    registrable? host = some (lastTwoLabels host) := by
  obtain ⟨labels, label, last, hlabels, hlabel, hlast, hhost, htwo⟩ := h.exists_lastTwoLabels
  rw [htwo, hhost]
  exact hrule.number labels label last hlabels hlabel hlast

theorem Quad.count_lastTwoLabels (h : Quad host) : (lastTwoLabels host).count '.' = 1 := by
  obtain ⟨_, label, last, _, hlabel, hlast, _, htwo⟩ := h.exists_lastTwoLabels
  simp [htwo, List.count_append, List.count_eq_zero.mpr, hlabel.undotted, hlast.isLabel.undotted]

theorem Quad.count_eq (h : Quad host) : host.count '.' = 3 := by
  obtain ⟨hf, hs, ht, hl⟩ := h
  simp [List.count_append, List.count_eq_zero.mpr, hf.undotted, hs.undotted, ht.undotted,
    hl.isLabel.undotted]

theorem Quad.not_endsInDot (h : Quad host) : ¬EndsInDot host := by
  obtain @⟨first, second, third, last, _, _, _, hl⟩ := h
  have hlast : ['.'].intercalate [first, second, third, last] =
      (first ++ '.' :: second ++ '.' :: third ++ ['.']) ++ last := by simp
  rw [EndsInDot, hlast, List.getLast?_append_of_ne_nil _ hl.nonempty]
  intro hd
  exact hl.isLabel.undotted (List.mem_of_getLast? hd)

theorem DottedAtEnd.not_endsInDot (h : DottedAtEnd host) : ¬EndsInDot host := by
  rcases h with hundotted | hquad
  · intro hd
    exact hundotted (List.mem_of_getLast? hd)
  · exact hquad.not_endsInDot

-- An address with a dot behind it is taken for a name.
theorem DottedAtEnd.registrable?_getD (hrule : FollowsDefaultRule registrable?)
    (h : DottedAtEnd host) :
    (registrable? host).getD host = lastTwoLabels host := by
  rcases h with hundotted | hquad
  · rw [hrule.undotted host hundotted, lastTwoLabels_of_dot_not_mem hundotted, Option.getD_none]
  · rw [hquad.registrable?_eq hrule, Option.getD_some]

-- What is left of an address then is an address itself only if nothing was taken away.
theorem DottedAtEnd.lastTwoLabels_eq_iff (h : DottedAtEnd host) (ho : DottedAtEnd other) :
    lastTwoLabels host = other ↔ host = other ∧ '.' ∉ host := by
  rcases h with hundotted | hquad
  · rw [lastTwoLabels_of_dot_not_mem hundotted, and_iff_left hundotted]
  · have hcount := hquad.count_eq
    have hmem : '.' ∈ host := List.count_pos_iff.mp (by omega)
    refine ⟨?_, fun ⟨_, hm⟩ => absurd hmem hm⟩
    rintro rfl
    have hone := hquad.count_lastTwoLabels
    rcases ho with hundotted | hother
    · rw [List.count_eq_zero.mpr hundotted] at hone
      cases hone
    · rw [hother.count_eq] at hone
      cases hone

end Address

theorem dropTrailingDots_eq_self {host : List Char} (h : ¬EndsInDot host) :
    dropTrailingDots host = host := by
  have hkept : host.rdropWhile (· = '.') = host := by
    rw [List.rdropWhile_eq_self_iff]
    intro hne hd
    apply h
    rw [EndsInDot, List.getLast?_eq_some_getLast hne, of_decide_eq_true hd]
  exact hkept

theorem baseDomain?_of_isAddress {registrable? : List Char → Option (List Char)}
    (hrule : FollowsDefaultRule registrable?) {uri host : List Char} (hh : host? uri = some host)
    (ha : isAddress (dropTrailingDots host) = true) :
    baseDomain? registrable? uri =
      some (if EndsInDot host then lastTwoLabels (dropTrailingDots host)
        else dropTrailingDots host) := by
  have hshape := dottedAtEnd_of_isAddress ha
  rw [baseDomain?, hh]
  by_cases hdot : EndsInDot host
  · have hname : isAddress host = false := by
      rw [Bool.eq_false_iff]
      intro haddress
      exact (dottedAtEnd_of_isAddress haddress).not_endsInDot hdot
    have hne : dropTrailingDots host ≠ [] := by
      intro he
      rw [he] at ha
      revert ha
      decide
    simp [hname, hne, hshape.registrable?_getD hrule, hdot]
  · rw [dropTrailingDots_eq_self hdot] at ha ⊢
    simp [ha, hdot]

theorem uriMatches_domain [Services] {stored website : String} {host other : List Char}
    (hs : baseDomain? Services.registrable? (Text.trimList stored.toList) = some host)
    (hw : baseDomain? Services.registrable? (Text.trimList website.toList) = some other) :
    uriMatches stored website .domain = true ↔ host = other := by
  have hne {uri domain : List Char} (h : baseDomain? Services.registrable? uri = some domain) :
      uri.isEmpty = false := by
    cases uri with
    | nil => cases h
    | cons => rfl
  simp [uriMatches, hne hs, hne hw, Strategy.accepts, hs, hw, sameSome]

-- Two addresses match only if they are the same, unless dots stand behind both of them. Then they
-- match if their last two labels are the same. With dots behind one of them only an address that
-- has no dots itself matches.
theorem uriMatches_addresses [Services] (hrule : FollowsDefaultRule Services.registrable?)
    {stored website : String} {host other : List Char}
    (hs : host? (Text.trimList stored.toList) = some host)
    (hw : host? (Text.trimList website.toList) = some other)
    (ha : isAddress (dropTrailingDots host) = true)
    (hb : isAddress (dropTrailingDots other) = true) :
    uriMatches stored website .domain = true ↔
      if EndsInDot host ∧ EndsInDot other then
        lastTwoLabels (dropTrailingDots host) = lastTwoLabels (dropTrailingDots other)
      else
        dropTrailingDots host = dropTrailingDots other ∧
          (EndsInDot host ∨ EndsInDot other → '.' ∉ dropTrailingDots host) := by
  have hstored := dottedAtEnd_of_isAddress ha
  have hwebsite := dottedAtEnd_of_isAddress hb
  rw [uriMatches_domain (baseDomain?_of_isAddress hrule hs ha)
    (baseDomain?_of_isAddress hrule hw hb)]
  by_cases hd : EndsInDot host <;> by_cases ho : EndsInDot other
  · simp [hd, ho]
  · simp [hd, ho, hstored.lastTwoLabels_eq_iff hwebsite]
  · have hback : dropTrailingDots host = lastTwoLabels (dropTrailingDots other) ↔
        dropTrailingDots host = dropTrailingDots other ∧ '.' ∉ dropTrailingDots host := by
      rw [eq_comm, hwebsite.lastTwoLabels_eq_iff hstored, eq_comm]
      exact and_congr_right fun he => by rw [he]
    simp [hd, ho, hback]
  · simp [hd, ho]

-- A dot behind an IPv6 address does no harm. IPv4 addresses that differ in front do not match, as
-- long as one of them has no dot behind it.
theorem uriMatches_addresses_whole :
    FollowsDefaultRule PublicSuffix.registrable? ∧
    (host? (Text.trimList "http://me@[FE80::1.]:443/login".toList) = some "fe80::1.".toList ∧
      host? (Text.trimList " [fe80::1] ".toList) = some "fe80::1".toList ∧
      isAddress (dropTrailingDots "fe80::1.".toList) = true ∧
      isAddress (dropTrailingDots "fe80::1".toList) = true ∧
      uriMatches "http://me@[FE80::1.]:443/login" " [fe80::1] " .domain = true) ∧
    host? (Text.trimList "http://192.168.1.1/admin".toList) = some "192.168.1.1".toList ∧
      host? (Text.trimList "10.168.1.1.".toList) = some "10.168.1.1.".toList ∧
      isAddress (dropTrailingDots "192.168.1.1".toList) = true ∧
      isAddress (dropTrailingDots "10.168.1.1.".toList) = true ∧
      ¬uriMatches "http://192.168.1.1/admin" "10.168.1.1." .domain = true := by
  have hs : host? (Text.trimList "http://me@[FE80::1.]:443/login".toList) =
      some "fe80::1.".toList := by decide
  have hw : host? (Text.trimList " [fe80::1] ".toList) = some "fe80::1".toList := by decide
  have hs' : host? (Text.trimList "http://192.168.1.1/admin".toList) =
      some "192.168.1.1".toList := by decide
  have hw' : host? (Text.trimList "10.168.1.1.".toList) = some "10.168.1.1.".toList := by decide
  have ha : isAddress (dropTrailingDots "fe80::1.".toList) = true := by decide
  have hb : isAddress (dropTrailingDots "fe80::1".toList) = true := by decide
  have ha' : isAddress (dropTrailingDots "192.168.1.1".toList) = true := by decide
  have hb' : isAddress (dropTrailingDots "10.168.1.1.".toList) = true := by decide
  have hrule := PublicSuffix.followsDefaultRule
  refine ⟨hrule, ⟨hs, hw, ha, hb, ?_⟩, hs', hw', ha', hb', ?_⟩
  · rw [uriMatches_addresses hrule hs hw ha hb]
    decide
  · rw [uriMatches_addresses hrule hs' hw' ha' hb']
    decide

-- With dots behind both addresses the first two numbers do not count.
theorem uriMatches_dotted_addresses :
    host? (Text.trimList "http://1.2.3.4.".toList) = some "1.2.3.4.".toList ∧
      host? (Text.trimList "9.9.3.4.".toList) = some "9.9.3.4.".toList ∧
      isAddress (dropTrailingDots "1.2.3.4.".toList) = true ∧
      isAddress (dropTrailingDots "9.9.3.4.".toList) = true ∧
      dropTrailingDots "1.2.3.4.".toList ≠ dropTrailingDots "9.9.3.4.".toList ∧
      uriMatches "http://1.2.3.4." "9.9.3.4." .domain = true := by
  decide

end VaultQuery.Website
