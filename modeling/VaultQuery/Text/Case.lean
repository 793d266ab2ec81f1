import VaultQuery.Text.Case.Cased
import VaultQuery.Text.Case.Lower

namespace VaultQuery.Text

-- Whether a letter stands next, past whatever may stand inside a word.
def meetsLetter (cs : List Char) : Bool :=
  (cs.find? (!isCaseIgnorable ·)).any isCased

-- The lowercase form of one character between the text before it, read backwards, and the text
-- after it. A capital sigma becomes a final sigma at the end of a word.
def lowerAt (before : List Char) (c : Char) (after : List Char) : List Char :=
  if c = 'Σ' then
    [if meetsLetter before && !meetsLetter after then 'ς' else 'σ']
  else if c = 'İ' then
    ['i', '\u0307']
  else
    [lowerChar c]

def lowerFrom (before : List Char) : List Char → List Char
  | [] => []
  | c :: after => lowerAt before c after ++ lowerFrom (c :: before) after

def lowerList (cs : List Char) : List Char :=
  lowerFrom [] cs

-- The full lowercase form of a text, which can be longer than the text.
def lowercase (s : String) : String :=
  String.ofList (lowerList s.toList)

-- Lowercases A to Z only.
def asciiLowercase (s : String) : String :=
  String.ofList (s.toList.map Char.toLower)

-- The same name up to case.
def sameName (a b : String) : Bool :=
  lowercase a == lowercase b

end VaultQuery.Text
