import VaultQuery.Query.Value
import VaultQuery.Text.Blank
import VaultQuery.Text.Bytes

namespace VaultQuery.Query

-- The families of predicates that are called by name, as in `has:uri`.
inductive Family where
  | has
  | inside
  | is
deriving Repr, DecidableEq

-- How a family is written, its colon included.
def Family.opening : Family → String
  | .has => "has:"
  | .inside => "in:"
  | .is => "is:"

namespace Token

inductive Kind where
  | and
  | or
  | not
  | blank
  | openParen
  | closeParen
  | family (family : Family)
  | colon
  | quoted
  | literal
deriving Repr, DecidableEq

end Token

-- A piece of query text with the byte position it starts at.
structure Token where
  kind : Token.Kind
  text : String
  offset : Nat
deriving Repr, DecidableEq

namespace Token

def stop (token : Token) : Nat :=
  token.offset + Text.byteLength token.text.toList

def isValue (token : Token) : Bool :=
  token.kind = .quoted || token.kind = .literal

def isFamily (token : Token) : Bool :=
  match token.kind with
  | .family _ => true
  | _ => false

-- What a value token stands for.
def value (token : Token) : Value :=
  if token.kind = .quoted then ⟨Value.unquote token.text, true⟩ else ⟨token.text, false⟩

-- Characters that may stand in a bare word.
def isBare (c : Char) : Bool :=
  !(Text.isBlank c || c = '(' || c = ')' || c = ':')

-- What follows an opening quote up to its closing quote. A backslash takes the next character with
-- it, but not a line feed.
def closing : List Char → Option (List Char)
  | [] => none
  | '"' :: _ => some ['"']
  | '\\' :: c :: cs => if c = '\n' then none else (closing cs).map ('\\' :: c :: ·)
  | c :: cs => (closing cs).map (c :: ·)

-- A connective is not recognised in front of a blank outside ASCII.
def connective? (word after : List Char) : Option Kind :=
  if after.head?.any fun c => Text.isBlank c && !Text.isAscii c then none
  else if word = ['A', 'N', 'D'] then some .and
  else if word = ['O', 'R'] then some .or
  else if word = ['N', 'O', 'T'] then some .not
  else none

-- A family name is one only with its colon.
def family? (word after : List Char) : Option Family :=
  if after.head? = some ':' then
    if word = ['h', 'a', 's'] then some .has
    else if word = ['i', 'n'] then some .inside
    else if word = ['i', 's'] then some .is
    else none
  else none

-- The token a maximal run of bare characters makes, given the text behind the run.
def ofRun (run after : List Char) : Kind × List Char :=
  match family? run after with
  | some family => (.family family, run ++ [':'])
  | none => ((connective? run after).getD .literal, run)

-- The token at the start of a text, as its kind and its characters. A quoted text yields to a bare
-- run that is longer.
def leading (c : Char) (cs : List Char) : Kind × List Char :=
  if Text.isBlank c then (.blank, c :: cs.takeWhile Text.isBlank)
  else if c = '(' then (.openParen, [c])
  else if c = ')' then (.closeParen, [c])
  else if c = ':' then (.colon, [c])
  else
    let run := c :: cs.takeWhile isBare
    let after := cs.dropWhile isBare
    if c = '"' then
      match closing cs with
      | some tail => if run.length ≤ tail.length + 1 then (.quoted, c :: tail) else (.literal, run)
      | none => (.literal, run)
    else ofRun run after

-- The tokens from a byte position on. `taken` counts the characters of the text that still belong
-- to the token before.
def scan : Nat → Nat → List Char → List Token
  | _, _, [] => []
  | offset, taken + 1, _ :: cs => scan offset taken cs
  | offset, 0, c :: cs =>
    let (kind, text) := leading c cs
    ⟨kind, String.ofList text, offset⟩ ::
      scan (offset + Text.byteLength text) (text.length - 1) cs

theorem scan_taken (offset taken : Nat) (cs : List Char) :
    scan offset taken cs = scan offset 0 (cs.drop taken) := by
  induction cs generalizing taken with
  | nil => cases taken <;> simp [scan]
  | cons c cs ih => cases taken <;> simp [scan, ih]

theorem closing_append {cs tail : List Char} (h : closing cs = some tail) :
    tail ++ cs.drop tail.length = cs := by
  fun_induction closing cs generalizing tail with
  | case1 => simp at h
  | case2 => simp at h; subst h; simp
  | case3 => simp at h
  | case4 c cs hc ih =>
      obtain ⟨rest, hr, rfl⟩ := Option.map_eq_some_iff.mp h
      simp [ih hr]
  | case5 c cs _ _ ih =>
      obtain ⟨rest, hr, rfl⟩ := Option.map_eq_some_iff.mp h
      simp [ih hr]

end Token

-- Splits a query text into tokens that cover it from end to end, blanks included.
def tokenize (text : String) : List Token :=
  Token.scan 0 0 text.toList

end VaultQuery.Query
