namespace VaultQuery.Text

-- A run of code points `first, first + step, …, last` that moves as a whole, `first` to `image`.
structure CodeShift where
  first : Nat
  last : Nat
  step : Nat
  image : Nat
deriving Repr, DecidableEq

namespace CodeShift

def moves (shift : CodeShift) (code : Nat) : Bool :=
  shift.first ≤ code && code ≤ shift.last && (code - shift.first) % shift.step == 0

-- The character of the run that moves to the given one.
def source? (shift : CodeShift) (c : Char) : Option Char :=
  let code := shift.first + (c.toNat - shift.image)
  if shift.image ≤ c.toNat && shift.moves code then some (Char.ofNat code) else none

-- Moves a character by the one run of an ascending list that holds it.
def applyAll (shifts : List CodeShift) (c : Char) : Char :=
  match shifts.find? (c.toNat ≤ ·.last) with
  | some shift =>
    if shift.moves c.toNat then Char.ofNat (shift.image + (c.toNat - shift.first)) else c
  | none => c

end CodeShift

end VaultQuery.Text
