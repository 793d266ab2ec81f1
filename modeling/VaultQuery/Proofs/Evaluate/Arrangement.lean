import VaultQuery.Proofs.Evaluate.Distinct
import VaultQuery.Proofs.Evaluate.Membership
import VaultQuery.Proofs.Evaluate.Order

namespace VaultQuery.Query

open Vault (Item)

section Arranges

variable {α : Type}

-- Some entries put in ascending order, where tied entries stand as they were given.
structure Arranges (le : α → α → Bool) (given result : List α) : Prop where
  ascending : result.Pairwise fun a b => le a b = true
  ties : ∀ a, result.filter (tied le a) = given.filter (tied le a)

-- By the second order first, and by the first one where it does not decide.
def thenLe (first second : α → α → Bool) (a b : α) : Bool :=
  second a b && (!second b a || first a b)

-- The entries that pass a test by one order, and behind them the others by another one.
def sidesLe (test : α → Bool) (left right : α → α → Bool) (a b : α) : Bool :=
  if test a then !test b || left a b else !test b && right a b

variable {le first second left right : α → α → Bool} {given middle result : List α}

theorem Arranges.self (h : result.Pairwise fun a b => le a b = true) : Arranges le result result :=
  ⟨h, fun _ => rfl⟩

theorem Arranges.mem_iff (hrefl : ∀ a, le a a = true) (h : Arranges le given result) (a : α) :
    a ∈ result ↔ a ∈ given :=
  mem_iff_of_same_ties hrefl h.ties a

theorem Arranges.unique (hrefl : ∀ a, le a a = true) {other : List α}
    (h : Arranges le given result) (ho : Arranges le given other) : result = other := by
  apply eq_of_same_ties hrefl h.ascending ho.ascending
  intro a
  rw [h.ties, ho.ties]

theorem Arranges.filter (h : Arranges le given result) (keep : α → Bool) :
    Arranges le (given.filter keep) (result.filter keep) := by
  refine ⟨h.ascending.filter keep, ?_⟩
  intro a
  rw [List.filter_comm, h.ties, List.filter_comm]

theorem tied_thenLe (a b : α) :
    tied (thenLe first second) a b = (tied first a b && tied second a b) := by
  unfold tied thenLe
  cases first a b <;> cases first b a <;> cases second a b <;> cases second b a <;> rfl

theorem thenLe_self (hf : ∀ a, first a a = true) (hs : ∀ a, second a a = true) (a : α) :
    thenLe first second a a = true := by
  simp [thenLe, hf, hs]

theorem sidesLe_self {test : α → Bool} (hl : ∀ a, left a a = true) (hr : ∀ a, right a a = true)
    (a : α) : sidesLe test left right a a = true := by
  cases h : test a <;> simp [sidesLe, h, hl, hr]

-- Entries that the second order leaves as they stand have been put in order before.
theorem Arranges.then (hrefl : ∀ a, second a a = true) (hf : Arranges first given middle)
    (hs : Arranges second middle result) : Arranges (thenLe first second) given result := by
  constructor
  · rw [List.pairwise_iff_forall_sublist]
    intro a b hab
    have hsecond : second a b = true := List.pairwise_iff_forall_sublist.mp hs.ascending hab
    cases hba : second b a with
    | false => simp [thenLe, hsecond, hba]
    | true =>
        have hsub : [a, b].Sublist middle := by
          have htied := hab.filter (tied second a)
          rw [List.filter_eq_self.mpr (by simp [tied, hrefl, hsecond, hba]), hs.ties] at htied
          exact htied.trans List.filter_sublist
        have hfirst : first a b = true := List.pairwise_iff_forall_sublist.mp hf.ascending hsub
        simp [thenLe, hsecond, hfirst]
  · intro a
    have htied : tied (thenLe first second) a =
        fun b => tied first a b && tied second a b := funext (tied_thenLe a)
    rw [htied, ← List.filter_filter, hs.ties, List.filter_comm, hf.ties, List.filter_comm,
      List.filter_filter]

-- Sorting by keys leaves entries of equal keys as they stand.
theorem arranges_mergeSort {κ : Type} [DecidableEq κ] {keyLe : κ → κ → Bool}
    (htrans : ∀ a b c, keyLe a b = true → keyLe b c = true → keyLe a c = true)
    (htotal : ∀ a b, keyLe a b = true ∨ keyLe b a = true)
    (hanti : ∀ a b, keyLe a b = true → keyLe b a = true → a = b) (key : α → κ)
    (entries : List α) :
    Arranges (fun a b => keyLe (key a) (key b)) entries
      (entries.mergeSort fun a b => keyLe (key a) (key b)) := by
  constructor
  · apply List.pairwise_mergeSort
    · intro a b c
      exact htrans (key a) (key b) (key c)
    · intro a b
      simpa using htotal (key a) (key b)
  · intro a
    rw [tied_key htotal hanti]
    exact filter_mergeSort_key htrans htotal entries (key a)

theorem tied_sidesLe (test : α → Bool) (left right : α → α → Bool) (a b : α) :
    tied (sidesLe test left right) a b =
      if test a then test b && tied left a b else !test b && tied right a b := by
  unfold tied sidesLe
  cases test a <;> cases test b <;> simp

-- Entries of different sides are not tied.
theorem filter_tied_sidesLe {test : α → Bool} {rest : List α}
    (htest : ∀ b ∈ result, test b = true) (a : α) :
    (result ++ rest.filter fun b => !test b).filter (tied (sidesLe test left right) a) =
      if test a then result.filter (tied left a)
      else (rest.filter (tied right a)).filter fun b => !test b := by
  have htied := funext (tied_sidesLe test left right a)
  rw [List.filter_append, htied, List.filter_filter]
  cases ha : test a with
  | true =>
      have hnone : (rest.filter fun b => (test b && tied left a b) && !test b) = [] := by
        rw [List.filter_eq_nil_iff]
        intro b _
        cases test b <;> simp
      have hall : result.filter (fun b => test b && tied left a b) =
          result.filter (tied left a) := by
        apply List.filter_congr
        intro b hb
        rw [htest b hb, Bool.true_and]
      simp only [if_true, hnone, hall, List.append_nil]
  | false =>
      have hnone : result.filter (fun b => !test b && tied right a b) = [] := by
        rw [List.filter_eq_nil_iff]
        intro b hb
        simp [htest b hb]
      have hall : (rest.filter fun b => (!test b && tied right a b) && !test b) =
          (rest.filter (tied right a)).filter fun b => !test b := by
        rw [List.filter_filter]
        apply List.filter_congr
        intro b _
        cases test b <;> simp
      simp only [Bool.false_eq_true, if_false, hnone, hall, List.nil_append]

-- What the second side adds to the first comes behind it.
theorem Arranges.sides {test other : α → Bool} {rest : List α} (hrefl : ∀ a, left a a = true)
    (hl : Arranges left (given.filter test) result)
    (hr : Arranges right (given.filter other) rest) :
    Arranges (sidesLe test left right) (given.filter fun a => test a || other a)
      (result ++ rest.filter fun a => !test a) := by
  have htest : ∀ a ∈ result, test a = true := by
    intro a ha
    exact (List.mem_filter.mp ((hl.mem_iff hrefl a).mp ha)).2
  have hrest : ∀ a ∈ rest.filter (fun a => !test a), test a = false := by
    intro a ha
    simpa using (List.mem_filter.mp ha).2
  constructor
  · rw [List.pairwise_append]
    refine ⟨?_, ?_, ?_⟩
    · refine hl.ascending.imp_of_mem ?_
      intro a b ha hb hab
      simp [sidesLe, htest a ha, hab]
    · refine (hr.ascending.filter _).imp_of_mem ?_
      intro a b ha hb hab
      simp [sidesLe, hrest a ha, hrest b hb, hab]
    · intro a ha b hb
      simp [sidesLe, htest a ha, hrest b hb]
  · intro a
    have htied := funext (tied_sidesLe test left right a)
    rw [filter_tied_sidesLe htest, htied]
    cases ha : test a with
    | true =>
        simp only [if_true, hl.ties, List.filter_filter]
        apply List.filter_congr
        intro b _
        cases test b <;> simp
    | false =>
        simp only [Bool.false_eq_true, if_false, hr.ties, List.filter_filter]
        apply List.filter_congr
        intro b _
        cases test b <;> cases other b <;> simp

end Arranges

theorem arranges_orderItems (field : String) (direction : Direction) (items : List Item) :
    Arranges (fun first second => keyLe direction (sortKey field first) (sortKey field second))
      items (orderItems field direction items) :=
  arranges_mergeSort (keyLe_trans direction) (keyLe_total direction) (keyLe_antisymm direction)
    (sortKey field) items

-- Where no id comes twice, only the ids that have been seen are dropped.
theorem unseen_of_nodup {seen : List String} {items : List Item}
    (hn : (items.map (·.id)).Nodup) :
    unseen seen items = items.filter fun item => !seen.contains item.id := by
  induction items generalizing seen with
  | nil => rfl
  | cons first rest ih =>
      obtain ⟨hfirst, hrest⟩ := List.nodup_cons.mp hn
      by_cases hs : first.id ∈ seen
      · rw [unseen_cons_of_mem hs, ih hrest, List.filter_cons_of_neg (by simpa using hs)]
      · have hsame : unseen (first.id :: seen) rest = unseen seen rest := by
          apply unseen_congr
          intro item hi
          have hne : item.id ≠ first.id := by
            intro he
            exact hfirst (List.mem_map.mpr ⟨item, hi, he⟩)
          rw [List.mem_cons, or_iff_right hne]
        rw [unseen_cons_of_notMem hs, hsame, ih hrest,
          List.filter_cons_of_pos (by simpa using hs)]

section Queries

variable [Website.Services]

-- Whether a query may put one item before another. What the left side of an alternative asks for
-- comes first, and the last order of a conjunction counts most.
def mayPrecede (options : Options) (vault : Vault) : Query → Item → Item → Bool
  | .search _ body => mayPrecede options vault body
  | .parens _ body => mayPrecede options vault body
  | .or _ left right =>
    sidesLe (holds options vault · left) (mayPrecede options vault left)
      (mayPrecede options vault right)
  | .and _ left right => thenLe (mayPrecede options vault left) (mayPrecede options vault right)
  | .not _ _ => fun _ _ => true
  | .leaf _ (.test _) => fun _ _ => true
  | .leaf _ (.order field direction) =>
    fun first second => keyLe direction (sortKey field first) (sortKey field second)

theorem mayPrecede_self (options : Options) (vault : Vault) (query : Query) (item : Item) :
    mayPrecede options vault query item item = true := by
  induction query generalizing item with
  | search _ body ih => exact ih item
  | parens _ body ih => exact ih item
  | or _ left right ihl ihr => exact sidesLe_self ihl ihr item
  | and _ left right ihl ihr => exact thenLe_self ihl ihr item
  | not _ body _ => rfl
  | leaf _ clause =>
      cases clause with
      | test predicate => rfl
      | order field direction =>
          simpa [mayPrecede] using keyLe_total direction (sortKey field item) (sortKey field item)

theorem mayPrecede_narrow (options : Options) (vault : Vault) (items : List Item) (query : Query) :
    mayPrecede options (vault.narrow items) query = mayPrecede options vault query := by
  induction query with
  | search _ body ih => exact ih
  | parens _ body ih => exact ih
  | or _ left right ihl ihr => simp only [mayPrecede, ihl, ihr, holds_narrow]
  | and _ left right ihl ihr => simp only [mayPrecede, ihl, ihr]
  | not _ body _ => rfl
  | leaf _ clause => cases clause <;> rfl

-- The normal form of a result, for each kind of node. The right side of a conjunction orders what
-- the left side has put in order, so the induction is over all vaults.
theorem arranges_evaluate (options : Options) (hd : options.deduplicateUnions = true)
    (query : Query) {vault : Vault} (hn : vault.ids.Nodup) :
    Arranges (mayPrecede options vault query)
      (vault.items.filter (holds options vault · query))
      (evaluate options query vault).items := by
  have hid := Vault.identified_of_nodup hn
  induction query generalizing vault with
  | search _ body ih => exact ih hn hid
  | parens _ body ih => exact ih hn hid
  | or _ left right ihl ihr =>
      have hsides := (ihl hn hid).sides (mayPrecede_self options vault left) (ihr hn hid)
      have hadded : unseen (evaluate options left vault).ids (evaluate options right vault).items =
          (evaluate options right vault).items.filter fun item =>
            !holds options vault item left := by
        rw [unseen_of_nodup (nodup_evaluate options hd right hn)]
        apply List.filter_congr
        intro item hi
        rw [contains_ids_evaluate options left hid (mem_of_mem_evaluate hi)]
      rw [evaluate, Vault.narrow_items, unite, if_pos hd]
      rw [Vault.ids] at hadded
      rw [hadded]
      exact hsides
  | and _ left right ihl ihr =>
      have hleft := ihl hn hid
      have hright := ihr (nodup_evaluate options hd left hn) (identified_evaluate options left hid)
      have hfilter := hleft.filter (holds options vault · right)
      rw [evaluate_eq_narrow options left vault, mayPrecede_narrow] at hright
      simp only [holds_narrow, Vault.narrow_items] at hright
      have hthen := hfilter.then (mayPrecede_self options vault right) hright
      rw [List.filter_filter] at hthen
      rw [evaluate, evaluate_eq_narrow options left vault]
      simpa only [holds, mayPrecede, Bool.and_comm] using hthen
  | not _ body _ =>
      have hkept : (evaluate options (.not ‹_› body) vault).items =
          vault.items.filter (holds options vault · (.not ‹_› body)) := by
        rw [evaluate, Vault.filter_items]
        apply List.filter_congr
        intro item hi
        rw [contains_ids_evaluate options body hid hi, holds]
      rw [hkept]
      exact .self (List.pairwise_of_forall fun _ _ => rfl)
  | leaf _ clause =>
      cases clause with
      | test predicate => exact .self (List.pairwise_of_forall fun _ _ => rfl)
      | order field direction =>
          have hall : (vault.items.filter fun item =>
              holds options vault item (.leaf ‹_› (.order field direction))) = vault.items :=
            List.filter_eq_self.mpr fun _ _ => rfl
          rw [hall]
          exact arranges_orderItems field direction vault.items

-- A query run on its own result gives the same result in the same order.
theorem evaluate_again (options : Options) (hd : options.deduplicateUnions = true) (query : Query)
    (vault : Vault) (hn : vault.ids.Nodup) :
    evaluate options query (evaluate options query vault) = evaluate options query vault := by
  have hid := Vault.identified_of_nodup hn
  have hfirst := arranges_evaluate options hd query hn
  have hagain := arranges_evaluate options hd query (nodup_evaluate options hd query hn)
  have hkept : (evaluate options query vault).items.filter (holds options vault · query) =
      (evaluate options query vault).items := by
    rw [List.filter_eq_self]
    intro item hi
    exact ((mem_evaluate_iff options query hid item).mp hi).2
  -- Both runs decide alike what is asked for and what comes first.
  have horder : mayPrecede options (evaluate options query vault) query =
      mayPrecede options vault query := by
    rw [evaluate_eq_narrow, mayPrecede_narrow]
  have hholds : ∀ item, holds options (evaluate options query vault) item query =
      holds options vault item query := by
    intro item
    rw [evaluate_eq_narrow, holds_narrow]
  simp only [horder, hholds, hkept] at hagain
  have hitems := hagain.unique (mayPrecede_self options vault query) (.self hfirst.ascending)
  rw [evaluate_eq_narrow options query (evaluate options query vault), hitems]
  rfl

end Queries

-- The alternative puts the item in the folder before the favorites, and an order by name follows.
theorem evaluate_again_reordered :
    let mail : Item := { Item.blank "a" with name := "Mail", favorite := true }
    let bank : Item := { Item.blank "b" with name := "Bank", favorite := true }
    let shop : Item := { Item.blank "c" with name := "Shop", folderId := some "f" }
    let vault : Vault := ⟨[mail, Item.blank "d", bank, shop], [], [], []⟩
    let either : Query :=
      .or default (.leaf default (.test .hasFolder))
        (.not default (.not default (.leaf default (.test .isFavorite))))
    let query : Query := .and default either (.leaf default (.order "name" .ascending))
    vault.ids.Nodup ∧ (evaluate .default either vault).items = [shop, mail, bank] ∧
      evaluate .default query (evaluate .default query vault) =
        evaluate .default query vault := by
  intro mail bank shop vault either query
  have hn : vault.ids.Nodup := by decide
  exact ⟨hn, by decide, evaluate_again .default rfl query vault hn⟩

end VaultQuery.Query
