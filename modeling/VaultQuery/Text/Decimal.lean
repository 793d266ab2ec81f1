namespace VaultQuery.Text

-- Decimal digits here are 0 to 9 only.
def isDigit (c : Char) : Bool :=
  '0' ≤ c && c ≤ '9'

def digitValue (c : Char) : Nat :=
  c.toNat - '0'.toNat

def digitChar (n : Nat) : Char :=
  Char.ofNat ('0'.toNat + n % 10)

-- The last `width` digits of a number.
def fixedDigits : Nat → Nat → List Char
  | 0, _ => []
  | width + 1, n => fixedDigits width (n / 10) ++ [digitChar n]

-- All digits of a number, at least `width` of them.
def paddedDigits (width n : Nat) : List Char :=
  if n < Nat.pow 10 width then fixedDigits width n else Nat.toDigits 10 n

-- The number a run of digits stands for.
def ofDigits (cs : List Char) : Nat :=
  cs.foldl (fun n c => 10 * n + digitValue c) 0

-- Reads at most `most` digits and at least one.
def readDigits (most : Nat) (cs : List Char) : Option (Nat × List Char) :=
  let digits := (cs.take most).takeWhile isDigit
  if digits.isEmpty then none else some (ofDigits digits, cs.drop digits.length)

-- Reads as many digits as there are, at least one.
def readNumber (cs : List Char) : Option (Nat × List Char) :=
  readDigits cs.length cs

-- Reads exactly this character.
def readChar (c : Char) : List Char → Option (List Char)
  | [] => none
  | d :: cs => if d = c then some cs else none

end VaultQuery.Text
