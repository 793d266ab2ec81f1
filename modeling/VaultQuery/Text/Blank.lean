import VaultQuery.Text.CodeRange

namespace VaultQuery.Text

-- The code points of the White_Space property.
def blankRanges : List CodeRange :=
  [⟨0x9, 0xd⟩, ⟨0x20, 0x20⟩, ⟨0x85, 0x85⟩, ⟨0xa0, 0xa0⟩, ⟨0x1680, 0x1680⟩, ⟨0x2000, 0x200a⟩,
   ⟨0x2028, 0x2029⟩, ⟨0x202f, 0x202f⟩, ⟨0x205f, 0x205f⟩, ⟨0x3000, 0x3000⟩]

def isBlank (c : Char) : Bool :=
  blankRanges.any (·.contains c)

-- No character between two code points is a blank if no blank range reaches in between.
theorem isBlank_of_between (low high : Nat) {c : Char}
    (hapart : ∀ range ∈ blankRanges, range.last < low ∨ high < range.first)
    (hlow : low ≤ c.toNat) (hhigh : c.toNat ≤ high) : isBlank c = false := by
  rw [isBlank, List.any_eq_false]
  intro range hr
  have hr := hapart range hr
  simp only [CodeRange.contains, Bool.and_eq_true, decide_eq_true_eq]
  omega

def isAscii (c : Char) : Bool :=
  c.toNat < 0x80

-- Removes blanks from both ends.
def trimList (cs : List Char) : List Char :=
  ((cs.dropWhile isBlank).reverse.dropWhile isBlank).reverse

def trim (s : String) : String :=
  String.ofList (trimList s.toList)

-- Nothing but blanks.
def isBlankText (s : String) : Bool :=
  (trim s).isEmpty

end VaultQuery.Text
