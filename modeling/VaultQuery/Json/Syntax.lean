import VaultQuery.Json.Basic
import VaultQuery.Text.Hexadecimal

namespace VaultQuery.Json

-- A document before its literals are given a meaning. Strings and keys are their raw inner text. A
-- well-formed literal need not have one: an escape may name half a surrogate pair, and a number may
-- be too large.
inductive Document where
  | null
  | bool (value : Bool)
  | number (literal : List Char)
  | string (raw : List Char)
  | arr (elements : List Document)
  | obj (fields : List (List Char × Document))

namespace Document

inductive Mark where
  | openArray
  | closeArray
  | openObject
  | closeObject
  | comma
  | colon
deriving DecidableEq

inductive Lexeme where
  | mark (mark : Mark)
  | null
  | bool (value : Bool)
  | number (literal : List Char)
  | string (raw : List Char)

-- The raw text of a string up to its closing quote.
def stringTail : List Char → Option (List Char)
  | [] => none
  | '"' :: _ => some []
  | '\\' :: 'u' :: a :: b :: c :: d :: cs =>
    if [a, b, c, d].all Text.isHexDigit then
      (stringTail cs).map ('\\' :: 'u' :: a :: b :: c :: d :: ·)
    else none
  | '\\' :: c :: cs =>
    if ['"', '\\', '/', 'b', 'f', 'n', 'r', 't'].contains c then
      (stringTail cs).map ('\\' :: c :: ·)
    else none
  | c :: cs => if c.toNat < 0x20 || c = '\\' then none else (stringTail cs).map (c :: ·)

-- The digits at the front of a text, and none at all if there are none.
def digits? (cs : List Char) : Option (List Char) :=
  let digits := cs.takeWhile Text.isDigit
  if digits.isEmpty then none else some digits

-- Zero, or digits that start with another one.
def integerPart? (cs : List Char) : Option (List Char) :=
  match cs with
  | '0' :: _ => some ['0']
  | cs => digits? cs

-- A point needs digits behind it.
def fractionPart? (cs : List Char) : Option (List Char) :=
  match cs with
  | '.' :: cs => (digits? cs).map ('.' :: ·)
  | _ => some []

def exponentPart? (cs : List Char) : Option (List Char) :=
  match cs with
  | e :: s :: cs =>
    if e = 'e' || e = 'E' then
      if s = '+' || s = '-' then (digits? cs).map (e :: s :: ·)
      else (digits? (s :: cs)).map (e :: ·)
    else some []
  | [e] => if e = 'e' || e = 'E' then none else some []
  | [] => some []

def unsigned? (cs : List Char) : Option (List Char) := do
  let whole ← integerPart? cs
  let fraction ← fractionPart? (cs.drop whole.length)
  let exponent ← exponentPart? (cs.drop (whole.length + fraction.length))
  return whole ++ fraction ++ exponent

-- The number literal at the front of a text.
def numeral? (cs : List Char) : Option (List Char) :=
  match cs with
  | '-' :: cs => (unsigned? cs).map ('-' :: ·)
  | cs => unsigned? cs

def isSpace (c : Char) : Bool :=
  c = ' ' || c = '\t' || c = '\n' || c = '\r'

-- The lexeme at the start of a text and how many characters it takes.
def leading? (c : Char) (cs : List Char) : Option (Lexeme × Nat) :=
  match c with
  | '[' => some (.mark .openArray, 1)
  | ']' => some (.mark .closeArray, 1)
  | '\x7b' => some (.mark .openObject, 1)
  | '\x7d' => some (.mark .closeObject, 1)
  | ',' => some (.mark .comma, 1)
  | ':' => some (.mark .colon, 1)
  | '"' => (stringTail cs).map fun raw => (.string raw, raw.length + 2)
  | _ =>
    if ['n', 'u', 'l', 'l'].isPrefixOf (c :: cs) then some (.null, 4)
    else if ['t', 'r', 'u', 'e'].isPrefixOf (c :: cs) then some (.bool true, 4)
    else if ['f', 'a', 'l', 's', 'e'].isPrefixOf (c :: cs) then some (.bool false, 5)
    else (numeral? (c :: cs)).map fun literal => (.number literal, literal.length)

-- All lexemes of a text. `taken` counts the characters that still belong to the lexeme before.
def scan? : Nat → List Char → Option (List Lexeme)
  | _, [] => some []
  | taken + 1, _ :: cs => scan? taken cs
  | 0, c :: cs =>
    if isSpace c then scan? 0 cs
    else do
      let (lexeme, taken) ← leading? c cs
      return lexeme :: (← scan? (taken - 1) cs)

-- A container that is still open, with what it holds so far in reverse.
inductive Frame where
  | arr (elements : List Document)
  | obj (fields : List (List Char × Document)) (key : List Char)

-- What the next lexeme is taken for. `first` says that the container may close instead.
inductive Expecting where
  | value (first : Bool)
  | key (fields : List (List Char × Document)) (first : Bool)
  | colon (fields : List (List Char × Document)) (key : List Char)
  | separator (value : Document)

structure State where
  enclosing : List Frame
  expecting : Expecting

namespace State

def initial : State :=
  ⟨[], .value false⟩

def stepValue? (state : State) (first : Bool) : Lexeme → Option State
  | .null => some { state with expecting := .separator .null }
  | .bool value => some { state with expecting := .separator (.bool value) }
  | .number literal => some { state with expecting := .separator (.number literal) }
  | .string raw => some { state with expecting := .separator (.string raw) }
  | .mark .openArray => some ⟨.arr [] :: state.enclosing, .value true⟩
  | .mark .openObject => some { state with expecting := .key [] true }
  | .mark .closeArray =>
    if first then some ⟨state.enclosing.tail, .separator (.arr [])⟩ else none
  | .mark _ => none

def stepSeparator? (state : State) (value : Document) (lexeme : Lexeme) : Option State :=
  match state.enclosing, lexeme with
  | .arr elements :: enclosing, .mark .comma =>
    some ⟨.arr (value :: elements) :: enclosing, .value false⟩
  | .arr elements :: enclosing, .mark .closeArray =>
    some ⟨enclosing, .separator (.arr (value :: elements).reverse)⟩
  | .obj fields key :: enclosing, .mark .comma =>
    some ⟨enclosing, .key ((key, value) :: fields) false⟩
  | .obj fields key :: enclosing, .mark .closeObject =>
    some ⟨enclosing, .separator (.obj ((key, value) :: fields).reverse)⟩
  | _, _ => none

def step? (state : State) (lexeme : Lexeme) : Option State :=
  match state.expecting, lexeme with
  | .value first, lexeme => state.stepValue? first lexeme
  | .key fields _, .string raw => some { state with expecting := .colon fields raw }
  | .key _ true, .mark .closeObject => some { state with expecting := .separator (.obj []) }
  | .colon fields key, .mark .colon => some ⟨.obj fields key :: state.enclosing, .value false⟩
  | .separator value, lexeme => state.stepSeparator? value lexeme
  | _, _ => none

def finish? (state : State) : Option Document :=
  match state.enclosing, state.expecting with
  | [], .separator value => some value
  | _, _ => none

end State

-- Reads a text that holds one document and nothing else.
def read? (text : String) : Option Document := do
  let lexemes ← scan? 0 text.toList
  (← lexemes.foldlM State.step? .initial).finish?

def simpleEscape (c : Char) : Char :=
  match c with
  | 'b' => '\x08'
  | 'f' => '\x0c'
  | 'n' => '\n'
  | 'r' => '\r'
  | 't' => '\t'
  | c => c

-- The text a raw string stands for. Escapes of surrogates must come in pairs.
def unescape? : List Char → Option (List Char)
  | [] => some []
  | '\\' :: 'u' :: a :: b :: c :: d :: cs =>
    let high := Text.ofHexDigits [a, b, c, d]
    if high < 0xd800 || 0xe000 ≤ high then (unescape? cs).map (Char.ofNat high :: ·)
    else if high < 0xdc00 then
      match cs with
      | '\\' :: 'u' :: e :: f :: g :: h :: rest =>
        let low := Text.ofHexDigits [e, f, g, h]
        if 0xdc00 ≤ low && low < 0xe000 then
          (unescape? rest).map
            (Char.ofNat (0x10000 + (high - 0xd800) * 0x400 + (low - 0xdc00)) :: ·)
        else none
      | _ => none
    else none
  | '\\' :: c :: cs => (unescape? cs).map (simpleEscape c :: ·)
  | c :: cs => (unescape? cs).map (c :: ·)

def string? (raw : List Char) : Option String :=
  (unescape? raw).map String.ofList

-- The exponent behind the `e` of a number literal.
def exponent (cs : List Char) : Int :=
  match cs with
  | '-' :: cs => -(Text.ofDigits cs : Int)
  | '+' :: cs => (Text.ofDigits cs : Int)
  | cs => (Text.ofDigits cs : Int)

-- Numbers from here on round to infinity in double precision.
def tooLarge : Nat :=
  Nat.pow 2 1024 - Nat.pow 2 970

-- Whether a literal denotes a finite number in double precision.
def isFinite (literal : List Char) : Bool :=
  let isExponentMark (c : Char) : Bool := c = 'e' || c = 'E'
  let mantissa := (literal.takeWhile (!isExponentMark ·)).filter (· ≠ '-')
  let power := exponent ((literal.dropWhile (!isExponentMark ·)).drop 1)
  let whole := mantissa.takeWhile (· ≠ '.')
  let fraction := (mantissa.dropWhile (· ≠ '.')).drop 1
  let digits := Text.ofDigits (whole ++ fraction)
  let scale := power - fraction.length
  let size := scale + (whole.length + fraction.length)
  if digits = 0 || size ≤ 308 then true
  else if 0 ≤ scale then scale ≤ 400 && digits * Nat.pow 10 scale.toNat < tooLarge
  else digits < tooLarge * Nat.pow 10 (-scale).toNat

-- Digits alone are an unsigned integer if they fit into 64 bits.
def number? (literal : List Char) : Option Json :=
  if literal.all Text.isDigit && Text.ofDigits literal < UInt64.size then
    some (.nat (Text.ofDigits literal))
  else if isFinite literal then some (.decimal (String.ofList literal))
  else none

mutual

-- The value of a document whose containers are nested at most `room` deep. Of several fields with
-- one key the last counts.
def value? (room : Nat) : Document → Option Json
  | .null => some .null
  | .bool value => some (.bool value)
  | .number literal => number? literal
  | .string raw => (string? raw).map .str
  | .arr elements => if room = 0 then none else (elements? (room - 1) elements).map .arr
  | .obj fields => if room = 0 then none else (fields? (room - 1) fields).map .obj

def elements? (room : Nat) : List Document → Option (List Json)
  | [] => some []
  | element :: rest => do return (← value? room element) :: (← elements? room rest)

def fields? (room : Nat) : List (List Char × Document) → Option (List (String × Json))
  | [] => some []
  | (raw, document) :: rest => do
    let key ← string? raw
    let value ← value? room document
    let rest ← fields? room rest
    return if (rest.lookup key).isSome then rest else (key, value) :: rest

end

-- The deepest nesting that is read.
def maxDepth : Nat := 127

end Document

-- Reads a text that holds one value and nothing else.
def parse? (text : String) : Option Json :=
  (Document.read? text).bind (Document.value? Document.maxDepth)

end VaultQuery.Json
