import VaultQuery.Text.Blank
import VaultQuery.Text.Case.Fold
import VaultQuery.Text.Word

namespace VaultQuery.Pattern

-- The classes that have an escape of their own.
inductive Shorthand where
  | digit
  | space
  | word
deriving Repr, DecidableEq

def Shorthand.contains : Shorthand → Char → Bool
  | .digit, c => Text.isDecimalDigit c
  | .space, c => Text.isBlank c
  | .word, c => Text.isWordChar c

-- A set of characters as a pattern describes it. A bracket is where a class is negated and where
-- letters are widened to their case variants.
inductive CharSet where
  | empty
  | range (first last : Char)
  | shorthand (kind : Shorthand) (negated : Bool)
  | union (left right : CharSet)
  | intersection (left right : CharSet)
  | difference (left right : CharSet)
  | symmetricDifference (left right : CharSet)
  | bracket (negated : Bool) (body : CharSet)
deriving Repr, DecidableEq

namespace CharSet

-- Whether a character is in a set, or one of its case variants is where case does not count.
def widen (anyCase : Bool) (contains : Char → Bool) (c : Char) : Bool :=
  contains c || (anyCase && (Text.caseVariants c).any contains)

def contains (anyCase : Bool) : CharSet → Char → Bool
  | .empty => fun _ => false
  | .range first last => fun c => first ≤ c && c ≤ last
  | .shorthand kind negated => fun c => kind.contains c != negated
  | .union left right => fun c => left.contains anyCase c || right.contains anyCase c
  | .intersection left right => fun c =>
    widen anyCase (left.contains anyCase) c && widen anyCase (right.contains anyCase) c
  | .difference left right => fun c =>
    widen anyCase (left.contains anyCase) c && !widen anyCase (right.contains anyCase) c
  | .symmetricDifference left right => fun c =>
    widen anyCase (left.contains anyCase) c != widen anyCase (right.contains anyCase) c
  | .bracket negated body => fun c => widen anyCase (body.contains anyCase) c != negated

def char (c : Char) : CharSet :=
  .range c c

def ofRanges (ranges : List (Char × Char)) : CharSet :=
  ranges.foldl (fun set (first, last) => .union set (.range first last)) .empty

-- The named classes inside a bracket.
def named? (name : String) : Option CharSet :=
  ([("alnum", [('0', '9'), ('A', 'Z'), ('a', 'z')]),
    ("alpha", [('A', 'Z'), ('a', 'z')]),
    ("ascii", [('\x00', '\x7f')]),
    ("blank", [('\t', '\t'), (' ', ' ')]),
    ("cntrl", [('\x00', '\x1f'), ('\x7f', '\x7f')]),
    ("digit", [('0', '9')]),
    ("graph", [('!', '~')]),
    ("lower", [('a', 'z')]),
    ("print", [(' ', '~')]),
    ("punct", [('!', '/'), (':', '@'), ('[', '\x60'), ('\x7b', '~')]),
    ("space", [('\t', '\r'), (' ', ' ')]),
    ("upper", [('A', 'Z')]),
    ("word", [('0', '9'), ('A', 'Z'), ('_', '_'), ('a', 'z')]),
    ("xdigit", [('0', '9'), ('A', 'F'), ('a', 'f')])].lookup name).map ofRanges

end CharSet

end VaultQuery.Pattern
