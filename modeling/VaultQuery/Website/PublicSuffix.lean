import VaultQuery.Website.Address

namespace VaultQuery.Website

namespace PublicSuffix

-- A label of a rule, or any label at all.
inductive Label where
  | exactly (label : String)
  | any
deriving Repr, DecidableEq

-- The labels of a rule stand from right to left, as they are looked up. An exception takes the name
-- that a wildcard would make a suffix out again.
structure Rule where
  labels : List Label
  isException : Bool
deriving Repr, DecidableEq

def plain (labels : List String) : Rule :=
  ⟨labels.map .exactly, false⟩

def under (labels : List String) : Rule :=
  ⟨labels.map .exactly ++ [.any], false⟩

def except (labels : List String) : Rule :=
  ⟨labels.map .exactly, true⟩

-- A part of the list. Under other suffixes of several labels, such as `co.nz`, every name counts as
-- registered under the last two labels.
def rules : List Rule :=
  [plain ["com"], plain ["org"], plain ["net"], plain ["de"], plain ["app"],
   plain ["jp"], plain ["jp", "ac"], under ["jp", "kobe"], except ["jp", "kobe", "city"],
   plain ["uk"], plain ["uk", "co"],
   plain ["au"], plain ["au", "com"],
   plain ["io"], plain ["io", "github"],
   plain ["cn"], plain ["cn", "公司"],
   plain ["рф"],
   under ["ck"], except ["ck", "www"]]

def Label.accepts : Label → List Char → Bool
  | .exactly label, text => label.toList == text
  | .any, _ => true

-- Whether a rule applies to a name, both read from the right.
def applies : List Label → List (List Char) → Bool
  | [], _ => true
  | _ :: _, [] => false
  | label :: rule, text :: name => label.accepts text && applies rule name

-- The number of labels of the public suffix. An exception wins over all other rules, then the
-- longest rule does. Without a rule the last label is the suffix.
def labelCount (name : List (List Char)) : Nat :=
  let matching := rules.filter fun rule => applies rule.labels name
  match matching.find? (·.isException) with
  | some rule => rule.labels.length - 1
  | none => matching.foldl (fun longest rule => max longest rule.labels.length) 1

-- The public suffix of a host name and one label more, unless the name has no more.
def registrable? (host : List Char) : Option (List Char) :=
  let name := (Address.split '.' host).reverse
  let count := labelCount name
  match name.drop count with
  | [] | [[]] => none
  | label :: _ => some (['.'].intercalate (label :: (name.take count).reverse))

end PublicSuffix

end VaultQuery.Website
