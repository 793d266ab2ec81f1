import VaultQuery.Proofs.Evaluate.Arrangement
import VaultQuery.Proofs.Text.Utf8

namespace VaultQuery.Query

open Vault (Item)

-- An order by the texts under a name.
structure Ranking where
  field : String
  direction : Direction
deriving Repr, DecidableEq

-- A conjunction of orders, folded to the left.
inductive RanksBy : Query → List Ranking → Prop where
  | one (span : Span) (ranking : Ranking) :
      RanksBy (.leaf span (.order ranking.field ranking.direction)) [ranking]
  | more (outer inner : Span) {query : Query} {rankings : List Ranking} (ranking : Ranking)
      (h : RanksBy query rankings) :
      RanksBy (.and outer query (.leaf inner (.order ranking.field ranking.direction)))
        (rankings ++ [ranking])

namespace Ranking

-- The lowercase form of the first text under the name, in any case.
def text? (ranking : Ranking) (item : Item) : Option String :=
  (item.fieldTexts.find? fun field =>
    Text.lowercase ranking.field == Text.lowercase field.name).map fun field =>
      Text.lowercase field.value

-- The items with a text come first, in the order of its bytes in one direction or the other.
def Allows (ranking : Ranking) (first second : Item) : Prop :=
  match ranking.text? first, ranking.text? second with
  | _, none => True
  | none, some _ => False
  | some left, some right =>
    match ranking.direction with
    | .ascending => Text.bytes left ≤ Text.bytes right
    | .descending => Text.bytes right ≤ Text.bytes left

def le (ranking : Ranking) (first second : Item) : Bool :=
  keyLe ranking.direction (sortKey ranking.field first) (sortKey ranking.field second)

theorem sortKey_eq_text? (ranking : Ranking) (item : Item) :
    sortKey ranking.field item = ranking.text? item := by
  rw [sortKey, textsNamed, List.head?_filter]
  rfl

theorem le_self (ranking : Ranking) (item : Item) : ranking.le item item = true := by
  rw [le]
  simpa using keyLe_total ranking.direction (sortKey ranking.field item)
    (sortKey ranking.field item)

theorem le_iff_allows (ranking : Ranking) (first second : Item) :
    ranking.le first second = true ↔ ranking.Allows first second := by
  rw [le, sortKey_eq_text?, sortKey_eq_text?, Allows]
  cases ranking.text? second with
  | none => simp
  | some right =>
      cases ranking.text? first with
      | none => simp
      | some left =>
          cases ranking.direction with
          | ascending => simp only [keyLe_ascending, Text.bytes_le_iff]
          | descending => simp only [keyLe_descending, Text.bytes_le_iff]

theorem allows_total (ranking : Ranking) (first second : Item) :
    ranking.Allows first second ∨ ranking.Allows second first := by
  simp only [← le_iff_allows]
  exact keyLe_total ..

theorem allows_trans (ranking : Ranking) {first second third : Item}
    (hfs : ranking.Allows first second) (hst : ranking.Allows second third) :
    ranking.Allows first third := by
  simp only [← le_iff_allows] at hfs hst ⊢
  exact keyLe_trans _ _ _ _ hfs hst

end Ranking

-- Whether an item with its position in the vault comes before another, by rankings of which the
-- first one counts most.
def Precedes : List Ranking → Item × Nat → Item × Nat → Prop
  | [], first, second => first.2 < second.2
  | ranking :: rest, first, second =>
    ranking.Allows first.1 second.1 ∧
      (ranking.Allows second.1 first.1 → Precedes rest first second)

def precedesLe : List Ranking → Item × Nat → Item × Nat → Bool
  | [] => fun first second => decide (first.2 < second.2)
  | ranking :: rest => thenLe (precedesLe rest) fun first second => ranking.le first.1 second.1

theorem precedesLe_iff (rankings : List Ranking) (first second : Item × Nat) :
    precedesLe rankings first second = true ↔ Precedes rankings first second := by
  induction rankings with
  | nil => exact decide_eq_true_iff
  | cons ranking rest ih =>
      rw [precedesLe, thenLe, Precedes, Bool.and_eq_true, Bool.or_eq_true, ih,
        ranking.le_iff_allows, ← ranking.le_iff_allows second.1, Bool.not_eq_true',
        Bool.eq_false_iff, imp_iff_not_or]

-- The items of a vault in the order of rankings that have been applied one after the other.
structure Placed (rankings : List Ranking) (items : List Item) (placed : List (Item × Nat)) : Prop
    where
  perm : placed.Perm items.zipIdx
  arranges : Arranges (precedesLe rankings) items.zipIdx placed

theorem placed_zipIdx (items : List Item) : Placed [] items items.zipIdx := by
  refine ⟨.refl _, .self ?_⟩
  have hpositions : (items.zipIdx.map Prod.snd).Pairwise (· < ·) := by
    rw [List.zipIdx_map_snd]
    exact List.pairwise_lt_range'
  exact (List.pairwise_map.mp hpositions).imp fun hlt => decide_eq_true hlt

theorem Placed.sort {rankings : List Ranking} {items : List Item} {placed : List (Item × Nat)}
    (h : Placed rankings items placed) (ranking : Ranking) :
    Placed (ranking :: rankings) items
      (placed.mergeSort fun first second => ranking.le first.1 second.1) := by
  have hsort := arranges_mergeSort (keyLe_trans ranking.direction) (keyLe_total ranking.direction)
    (keyLe_antisymm ranking.direction) (fun entry => sortKey ranking.field entry.1) placed
  exact ⟨(List.mergeSort_perm ..).trans h.perm,
    h.arranges.then (fun entry => ranking.le_self entry.1) hsort⟩

theorem orderItems_map_fst (ranking : Ranking) (placed : List (Item × Nat)) :
    orderItems ranking.field ranking.direction (placed.map Prod.fst) =
      (placed.mergeSort fun first second => ranking.le first.1 second.1).map Prod.fst := by
  rw [orderItems, List.map_mergeSort]
  intro _ _ _ _
  rfl

theorem exists_placed [Website.Services] (options : Options) (vault : Vault) {query : Query}
    {rankings : List Ranking} (h : RanksBy query rankings) :
    ∃ placed, Placed rankings.reverse vault.items placed ∧
      evaluate options query vault = vault.narrow (placed.map Prod.fst) := by
  induction h with
  | one span ranking =>
      refine ⟨_, (placed_zipIdx vault.items).sort ranking, ?_⟩
      rw [← orderItems_map_fst, List.zipIdx_map_fst, evaluate]
  | more outer inner ranking _ ih =>
      obtain ⟨placed, hplaced, heval⟩ := ih
      rw [List.reverse_append, List.reverse_singleton, List.singleton_append]
      refine ⟨_, hplaced.sort ranking, ?_⟩
      rw [← orderItems_map_fst, evaluate, heval, evaluate, Vault.narrow_narrow, Vault.narrow_items]

-- Orders in a row put the items of the vault in order by the last one first, then by those before
-- it, and at last by the positions they had.
theorem evaluate_ranking [Website.Services] (options : Options) (vault : Vault) {query : Query}
    {rankings : List Ranking} (h : RanksBy query rankings) :
    (∃ placed : List (Item × Nat), placed.Perm vault.items.zipIdx ∧
      placed.Pairwise (Precedes rankings.reverse) ∧
      evaluate options query vault = vault.narrow (placed.map Prod.fst)) ∧
    ∀ ranking : Ranking,
      (∀ first second, ranking.Allows first second ∨ ranking.Allows second first) ∧
      ∀ first second third, ranking.Allows first second → ranking.Allows second third →
        ranking.Allows first third := by
  constructor
  · obtain ⟨placed, hplaced, heval⟩ := exists_placed options vault h
    refine ⟨placed, hplaced.perm, ?_, heval⟩
    exact hplaced.arranges.ascending.imp fun hab => (precedesLe_iff ..).mp hab
  · intro ranking
    exact ⟨ranking.allows_total, fun _ _ _ => ranking.allows_trans⟩

-- The notes in descending order count most. They tie the first item, its copy and the third one,
-- of which the names are tied as well, and the item without notes comes last.
theorem evaluate_ranking_notes :
    let bank : Item := { Item.blank "a" with name := "Bank", notes := some "x" }
    let mail : Item := { Item.blank "b" with name := "Alpha" }
    let copy : Item := { Item.blank "c" with name := "BANK", notes := some "X" }
    let safe : Item := { Item.blank "d" with name := "Safe", notes := some "É" }
    let vault : Vault := ⟨[bank, mail, copy, bank, safe], [], [], []⟩
    let query : Query := .and default (.leaf default (.order "name" .ascending))
      (.leaf default (.order "Notes" .descending))
    let rankings : List Ranking := [⟨"name", .ascending⟩, ⟨"Notes", .descending⟩]
    RanksBy query rankings ∧
      (evaluate .default query vault).items = [safe, bank, copy, bank, mail] ∧
      ∃ placed : List (Item × Nat), placed.Perm vault.items.zipIdx ∧
        placed.Pairwise (Precedes rankings.reverse) ∧
        evaluate .default query vault = vault.narrow (placed.map Prod.fst) := by
  intro bank mail copy safe vault query rankings
  have h : RanksBy query rankings :=
    .more default default ⟨"Notes", .descending⟩ (.one default ⟨"name", .ascending⟩)
  have hnames : sortKey "name" bank = some "bank" ∧ sortKey "name" mail = some "alpha" ∧
      sortKey "name" copy = some "bank" ∧ sortKey "name" safe = some "safe" := by
    decide +kernel
  have hnotes : sortKey "Notes" bank = some "x" ∧ sortKey "Notes" mail = none ∧
      sortKey "Notes" copy = some "x" ∧ sortKey "Notes" safe = some "é" := by
    decide +kernel
  refine ⟨h, ?_, (evaluate_ranking .default vault h).1⟩
  simp +decide [query, vault, evaluate, orderItems, List.mergeSort,
    List.MergeSort.Internal.splitInTwo, hnames, hnotes]

end VaultQuery.Query
