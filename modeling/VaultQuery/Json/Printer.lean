import VaultQuery.Json.Basic
import VaultQuery.Text.Hexadecimal

namespace VaultQuery.Json

-- Only the quote, the backslash and control characters are escaped.
def escapeChar (c : Char) : List Char :=
  if c = '"' || c = '\\' then ['\\', c]
  else if c.toNat < 0x20 then
    ['\\', 'u', '0', '0', Text.hexDigitChar (c.toNat / 16), Text.hexDigitChar (c.toNat % 16)]
  else [c]

def printString (value : String) : String :=
  String.ofList ('"' :: value.toList.flatMap escapeChar ++ ['"'])

mutual

-- Writes a value on one line.
def print : Json → String
  | .null => "null"
  | .bool value => if value then "true" else "false"
  | .nat value => toString value
  | .decimal literal => literal
  | .str value => printString value
  | .arr elements => "[" ++ ",".intercalate (printElements elements) ++ "]"
  | .obj fields => "\x7b" ++ ",".intercalate (printFields fields) ++ "\x7d"

def printElements : List Json → List String
  | [] => []
  | element :: rest => print element :: printElements rest

def printFields : List (String × Json) → List String
  | [] => []
  | (key, value) :: rest => (printString key ++ ":" ++ print value) :: printFields rest

end

end VaultQuery.Json
