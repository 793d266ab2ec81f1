namespace VaultQuery.Text

-- An interval of code points, both ends included.
structure CodeRange where
  first : Nat
  last : Nat
deriving Repr, DecidableEq

namespace CodeRange

def contains (range : CodeRange) (c : Char) : Bool :=
  range.first ≤ c.toNat && c.toNat ≤ range.last

-- Membership in an ascending list of disjoint ranges: only the first range that does not end
-- before the character can hold it.
def covers (ranges : List CodeRange) (c : Char) : Bool :=
  match ranges.find? (c.toNat ≤ ·.last) with
  | some range => range.first ≤ c.toNat
  | none => false

end CodeRange

end VaultQuery.Text
