import VaultQuery.Text.Blank

namespace VaultQuery.Text

-- Whether the needle stands somewhere in the text.
def occurs (needle : List Char) : List Char → Bool
  | [] => needle.isEmpty
  | c :: cs => needle.isPrefixOf (c :: cs) || occurs needle cs

theorem occurs_iff (needle text : List Char) : occurs needle text = true ↔ needle <:+: text := by
  induction text with
  | nil => simp [occurs]
  | cons c cs ih =>
      simp only [occurs, Bool.or_eq_true, ih, List.isPrefixOf_iff_prefix]
      exact List.infix_cons_iff.symm

-- A text that ends here or goes on with a blank.
def atEdge (cs : List Char) : Bool :=
  cs.head?.all isBlank

-- Walks the occurrences of a nonempty needle from the left, each one starting after the previous
-- one has ended, and looks for one with an edge on both sides. `edge` says whether the text so far
-- ends with an edge, `covered` how many of the coming characters the last occurrence still takes.
def alignedFrom (needle : List Char) : Bool → Nat → List Char → Bool
  | _, _, [] => false
  | _, covered + 1, c :: cs => alignedFrom needle (isBlank c) covered cs
  | edge, 0, c :: cs =>
    if needle.isPrefixOf (c :: cs) then
      (edge && atEdge ((c :: cs).drop needle.length)) ||
        alignedFrom needle (isBlank c) (needle.length - 1) cs
    else
      alignedFrom needle (isBlank c) 0 cs

-- The needle as a whole token of the text.
def occursAligned (needle text : List Char) : Bool :=
  alignedFrom needle true 0 text

end VaultQuery.Text
