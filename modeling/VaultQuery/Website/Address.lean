import VaultQuery.Text.Hexadecimal

namespace VaultQuery.Website

namespace Address

-- The parts of a text between single separators. An empty text has one empty part.
def split (separator : Char) : List Char → List (List Char)
  | [] => [[]]
  | c :: cs =>
    if c = separator then [] :: split separator cs
    else
      match split separator cs with
      | [] => [[c]]
      | part :: parts => (c :: part) :: parts

-- A number up to 255 without leading zeros.
def isOctet (cs : List Char) : Bool :=
  !cs.isEmpty && cs.length ≤ 3 && cs.all Text.isDigit && Text.ofDigits cs ≤ 255 &&
    (cs.head? != some '0' || cs.length == 1)

-- Four octets with dots between them.
def isV4 (cs : List Char) : Bool :=
  let octets := split '.' cs
  octets.length == 4 && octets.all isOctet

-- Sixteen bits in one to four hexadecimal digits.
def isGroup (cs : List Char) : Bool :=
  1 ≤ cs.length && cs.length ≤ 4 && cs.all Text.isHexDigit

-- The number of groups in parts between colons. The last part may be an IPv4 address, which takes
-- two groups.
def groupCount? : List (List Char) → Option Nat
  | [] => some 0
  | [part] => if isGroup part then some 1 else if isV4 part then some 2 else none
  | part :: parts => if isGroup part then (groupCount? parts).map (· + 1) else none

-- The same for a text that may be empty.
def groupsOf? (cs : List Char) : Option Nat :=
  if cs.isEmpty then some 0 else groupCount? (split ':' cs)

-- The text before and after the first double colon.
def cutAtGap : List Char → Option (List Char × List Char)
  | ':' :: ':' :: cs => some ([], cs)
  | c :: cs => (cutAtGap cs).map fun (head, tail) => (c :: head, tail)
  | [] => none

-- Eight groups, or fewer around one double colon. An IPv4 address can only stand at the very end.
def isV6 (cs : List Char) : Bool :=
  match cutAtGap cs with
  | none => groupsOf? cs == some 8
  | some (head, tail) =>
    !head.contains '.' &&
      match groupsOf? head, groupsOf? tail with
      | some before, some after => before + after ≤ 7
      | _, _ => false

def isAddress (cs : List Char) : Bool :=
  isV4 cs || isV6 cs

end Address

end VaultQuery.Website
