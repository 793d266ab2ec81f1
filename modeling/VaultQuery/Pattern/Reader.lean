import VaultQuery.Pattern.Basic
import VaultQuery.Text.Hexadecimal

namespace VaultQuery.Pattern

-- What inline flags switch.
structure Flags where
  anyCase : Bool
  dotAll : Bool
  multiline : Bool
deriving Repr, DecidableEq

-- What an escape stands for.
inductive Escape where
  | char (c : Char)
  | chars (chars : CharSet)
  | condition (condition : Assertion)

namespace Reader

-- The character with the code point in these hexadecimal digits.
def hexChar? (digits : List Char) : Option Char :=
  if digits.isEmpty || !digits.all Text.isHexDigit then none
  else if h : (Text.ofHexDigits digits).isValidChar then
    some (Char.ofNatAux (Text.ofHexDigits digits) h)
  else none

-- A code point in braces, or in exactly `width` digits.
def hex? (width : Nat) (cs : List Char) : Option (Char × List Char) :=
  match cs with
  | '\x7b' :: cs =>
    let digits := cs.takeWhile (· ≠ '\x7d')
    match cs.drop digits.length with
    | [] => none
    | _ :: rest => (hexChar? digits).map (·, rest)
  | cs => if cs.length < width then none else (hexChar? (cs.take width)).map (·, cs.drop width)

-- Characters that mean themselves behind a backslash: of ASCII, all but digits, letters and angle
-- brackets.
def isEscapable (c : Char) : Bool :=
  Text.isAscii c && !c.isAlphanum && c ≠ '<' && c ≠ '>'

-- A word edge may be narrowed down in braces. Braces that hold no name are left for a repetition.
def wordEdge? (cs : List Char) : Option (Assertion × List Char) :=
  let isNameChar (c : Char) : Bool := c = '-' || c.isAlpha
  match cs with
  | '\x7b' :: rest =>
    let name := rest.takeWhile isNameChar
    if name.isEmpty then if rest.isEmpty then none else some (.wordEdge, cs)
    else
      match rest.drop name.length with
      | '\x7d' :: rest =>
        ([("start", Assertion.wordStart), ("end", .wordEnd), ("start-half", .afterNoWord),
          ("end-half", .beforeNoWord)].lookup (String.ofList name)).map (·, rest)
      | _ => none
  | cs => some (.wordEdge, cs)

-- What stands behind a backslash.
def escape? : List Char → Option (Escape × List Char)
  | [] => none
  | c :: cs =>
    match c with
    | 'd' => some (.chars (.shorthand .digit false), cs)
    | 'D' => some (.chars (.shorthand .digit true), cs)
    | 's' => some (.chars (.shorthand .space false), cs)
    | 'S' => some (.chars (.shorthand .space true), cs)
    | 'w' => some (.chars (.shorthand .word false), cs)
    | 'W' => some (.chars (.shorthand .word true), cs)
    | 'x' => (hex? 2 cs).map fun (c, cs) => (.char c, cs)
    | 'u' => (hex? 4 cs).map fun (c, cs) => (.char c, cs)
    | 'U' => (hex? 8 cs).map fun (c, cs) => (.char c, cs)
    | 'a' => some (.char '\x07', cs)
    | 'f' => some (.char '\x0c', cs)
    | 't' => some (.char '\t', cs)
    | 'n' => some (.char '\n', cs)
    | 'r' => some (.char '\r', cs)
    | 'v' => some (.char '\x0b', cs)
    | 'A' => some (.condition .textStart, cs)
    | 'z' => some (.condition .textEnd, cs)
    | 'b' => (wordEdge? cs).map fun (edge, cs) => (.condition edge, cs)
    | 'B' => some (.condition .noWordEdge, cs)
    | '<' => some (.condition .wordStart, cs)
    | '>' => some (.condition .wordEnd, cs)
    | c => if isEscapable c then some (.char c, cs) else none

-- The binary operators of a class.
inductive Operator where
  | intersection
  | difference
  | symmetricDifference

def Operator.apply : Operator → CharSet → CharSet → CharSet
  | .intersection => .intersection
  | .difference => .difference
  | .symmetricDifference => .symmetricDifference

-- An open bracket around a class, with the set before it, or a left operand.
inductive ClassFrame where
  | bracket (negated : Bool) (outer : CharSet)
  | operand (left : CharSet) (operator : Operator)

-- The start of a bracket: a negation, then hyphens or a closing bracket that mean themselves.
def openBracket (cs : List Char) : Bool × CharSet × List Char :=
  let (negated, cs) :=
    match cs with
    | '^' :: cs => (true, cs)
    | cs => (false, cs)
  match cs with
  | '-' :: _ => (negated, .char '-', cs.dropWhile (· = '-'))
  | ']' :: rest => (negated, .char ']', rest)
  | _ => (negated, .empty, cs)

-- A named class behind its opening bracket.
def namedClass? : List Char → Option (CharSet × List Char)
  | ':' :: cs =>
    let (negated, cs) :=
      match cs with
      | '^' :: cs => (true, cs)
      | cs => (false, cs)
    let name := cs.takeWhile (· ≠ ':')
    match cs.drop name.length with
    | ':' :: ']' :: rest =>
      (CharSet.named? (String.ofList name)).map fun chars => (.bracket negated chars, rest)
    | _ => none
  | _ => none

-- One character or escape of a class.
def classItem? : List Char → Option (Escape × List Char)
  | '\\' :: cs => escape? cs
  | c :: cs => some (.char c, cs)
  | [] => none

-- One item of a class, or a range between two characters. A hyphen before a closing bracket or
-- another hyphen makes no range.
def classRange? (cs : List Char) : Option (CharSet × List Char) := do
  let (first, cs) ← classItem? cs
  let single : Option CharSet :=
    match first with
    | .char c => some (.char c)
    | .chars chars => some chars
    | .condition _ => none
  match cs with
  | [] | ['-'] => none
  | '-' :: ']' :: _ | '-' :: '-' :: _ => single.map (·, cs)
  | '-' :: cs =>
    let (last, cs) ← classItem? cs
    match first, last with
    | .char first, .char last => if first ≤ last then some (.range first last, cs) else none
    | _, _ => none
  | _ => single.map (·, cs)

-- Applies the operator that waits for its right operand.
def settle (chars : CharSet) : List ClassFrame → CharSet × List ClassFrame
  | .operand left operator :: frames => (operator.apply left chars, frames)
  | frames => (chars, frames)

-- Reads a class up to the bracket that closes it. Each round takes at least one character.
def class? : Nat → List ClassFrame → CharSet → List Char → Option (CharSet × List Char)
  | 0, _, _, _ => none
  | _ + 1, _, _, [] => none
  | rounds + 1, frames, chars, '[' :: cs =>
    match namedClass? cs with
    | some (named, cs) => class? rounds frames (.union chars named) cs
    | none =>
      let (negated, inner, cs) := openBracket cs
      class? rounds (.bracket negated chars :: frames) inner cs
  | rounds + 1, frames, chars, ']' :: cs =>
    match settle chars frames with
    | (chars, .bracket negated outer :: frames) =>
      let chars := .bracket negated chars
      if frames.isEmpty then some (chars, cs) else class? rounds frames (.union outer chars) cs
    | _ => none
  | rounds + 1, frames, chars, '&' :: '&' :: cs =>
    let (left, frames) := settle chars frames
    class? rounds (.operand left .intersection :: frames) .empty cs
  | rounds + 1, frames, chars, '-' :: '-' :: cs =>
    let (left, frames) := settle chars frames
    class? rounds (.operand left .difference :: frames) .empty cs
  | rounds + 1, frames, chars, '~' :: '~' :: cs =>
    let (left, frames) := settle chars frames
    class? rounds (.operand left .symmetricDifference :: frames) .empty cs
  | rounds + 1, frames, chars, cs =>
    match classRange? cs with
    | some (item, cs) => class? rounds frames (.union chars item) cs
    | none => none

-- The class behind an opening bracket.
def bracket? (cs : List Char) : Option (CharSet × List Char) :=
  let (negated, chars, rest) := openBracket cs
  class? (cs.length + 1) [.bracket negated .empty] chars rest

-- A part of a pattern text.
inductive Element where
  | atom (pattern : Pattern)
  | loop (least : Nat) (most : Option Nat)
  | bar
  | openGroup (flags : Flags) (name : Option (List Char))
  | closeGroup
  | setFlags (flags : Flags)

-- A repetition count may stand between blanks and has 32 bits.
def count? (cs : List Char) : Option (Nat × List Char) :=
  let cs := cs.dropWhile Text.isBlank
  let digits := cs.takeWhile Text.isDigit
  if digits.isEmpty || Nat.pow 2 32 ≤ Text.ofDigits digits then none
  else some (Text.ofDigits digits, (cs.drop digits.length).dropWhile Text.isBlank)

-- The bounds of a repetition behind the opening brace.
def bounds? (cs : List Char) : Option (Element × List Char) := do
  let (least, cs) ← count? cs
  match cs with
  | '\x7d' :: cs => some (.loop least (some least), cs)
  | ',' :: cs =>
    match cs with
    | '\x7d' :: cs => some (.loop least none, cs)
    | cs =>
      let (most, cs) ← count? cs
      match cs with
      | '\x7d' :: cs => if least ≤ most then some (.loop least (some most), cs) else none
      | _ => none
  | _ => none

-- A question mark behind a repetition only changes which match is preferred.
def dropLazy : List Char → List Char
  | '?' :: cs => cs
  | cs => cs

-- Flags up to a colon or a closing parenthesis. Each may be given once, and a hyphen turns off the
-- ones behind it.
def flags? (flags : Flags) (seen : List Char) (on : Bool) :
    List Char → Option (Flags × Char × List Char)
  | [] => none
  | c :: cs =>
    if c = ':' || c = ')' then
      if seen.head? = some '-' || (c = ')' && seen.isEmpty) then none else some (flags, c, cs)
    else if seen.contains c then none
    else
      match c with
      | '-' => flags? flags (c :: seen) false cs
      | 'i' => flags? { flags with anyCase := on } (c :: seen) on cs
      | 's' => flags? { flags with dotAll := on } (c :: seen) on cs
      | 'm' => flags? { flags with multiline := on } (c :: seen) on cs
      | 'U' => flags? flags (c :: seen) on cs
      | 'u' => if on then flags? flags (c :: seen) on cs else none
      | _ => none

def startsName (c : Char) : Bool :=
  c = '_' || (Text.isWordChar c && !Text.isDecimalDigit c && (c.isAlpha || !Text.isAscii c))

def continuesName (c : Char) : Bool :=
  Text.isWordChar c || c = '.' || c = '[' || c = ']'

-- The name of a group up to its closing angle bracket.
def name? (cs : List Char) : Option (List Char × List Char) :=
  let name := cs.takeWhile (· ≠ '>')
  match name, cs.drop name.length with
  | c :: rest, _ :: cs =>
    if startsName c && rest.all continuesName then some (name, cs) else none
  | _, _ => none

-- What stands behind an opening parenthesis. Look-around is not known.
def group? (flags : Flags) : List Char → Option (Element × List Char)
  | '?' :: 'P' :: '<' :: cs => (name? cs).map fun (name, cs) => (.openGroup flags (some name), cs)
  | '?' :: '<' :: cs => (name? cs).map fun (name, cs) => (.openGroup flags (some name), cs)
  | '?' :: cs => do
    let (inner, mark, cs) ← flags? flags [] true cs
    if mark = ':' then some (.openGroup inner none, cs) else some (.setFlags inner, cs)
  | cs => some (.openGroup flags none, cs)

-- The first element of a text.
def element? (flags : Flags) (c : Char) (cs : List Char) : Option (Element × List Char) :=
  match c with
  | '(' => group? flags cs
  | ')' => some (.closeGroup, cs)
  | '|' => some (.bar, cs)
  | '*' => some (.loop 0 none, dropLazy cs)
  | '+' => some (.loop 1 none, dropLazy cs)
  | '?' => some (.loop 0 (some 1), dropLazy cs)
  | '\x7b' => (bounds? cs).map fun (element, cs) => (element, dropLazy cs)
  | '[' => (bracket? cs).map fun (chars, cs) => (.atom (.set chars flags.anyCase), cs)
  | '.' => some (.atom (.any flags.dotAll), cs)
  | '^' => some (.atom (.assertion (if flags.multiline then .lineStart else .textStart)), cs)
  | '$' => some (.atom (.assertion (if flags.multiline then .lineEnd else .textEnd)), cs)
  | '\\' => do
    let (escape, cs) ← escape? cs
    match escape with
    | .char c => some (.atom (.char c flags.anyCase), cs)
    | .chars chars => some (.atom (.set chars flags.anyCase), cs)
    | .condition condition => some (.atom (.assertion condition), cs)
  | c => some (.atom (.char c flags.anyCase), cs)

-- A group while it is read: the alternatives before the present one, the sequence so far, and what
-- a repetition would apply to.
structure Level where
  alternatives : Option Pattern
  before : Pattern
  last : Option Pattern

namespace Level

def empty : Level :=
  ⟨none, .empty, none⟩

def sequence (level : Level) : Pattern :=
  match level.last with
  | none => level.before
  | some last => .seq level.before last

def push (level : Level) (last : Option Pattern) : Level :=
  { level with before := level.sequence, last := last }

def close (level : Level) : Pattern :=
  match level.alternatives with
  | none => level.sequence
  | some left => .alt left level.sequence

end Level

-- The groups around the present one with their flags, and the names in use.
structure State where
  enclosing : List (Level × Flags)
  level : Level
  flags : Flags
  names : List (List Char)

namespace State

def step? (state : State) : Element → Option State
  | .atom pattern => some { state with level := state.level.push (some pattern) }
  | .loop least most =>
    state.level.last.map fun body =>
      { state with level := { state.level with last := some (.loop body least most) } }
  | .bar => some { state with level := ⟨some state.level.close, .empty, none⟩ }
  | .openGroup flags name =>
    if name.any state.names.contains then none
    else
      some ⟨(state.level, state.flags) :: state.enclosing, .empty, flags,
        name.toList ++ state.names⟩
  | .closeGroup =>
    match state.enclosing with
    | [] => none
    | (outer, flags) :: enclosing =>
      some ⟨enclosing, outer.push (some state.level.close), flags, state.names⟩
  | .setFlags flags => some { state with level := state.level.push none, flags := flags }

def finish? (state : State) : Option Pattern :=
  if state.enclosing.isEmpty then some state.level.close else none

end State

-- Each round takes at least one character.
def read? : Nat → State → List Char → Option Pattern
  | _, state, [] => state.finish?
  | 0, _, _ :: _ => none
  | rounds + 1, state, c :: cs => do
    let (element, cs) ← element? state.flags c cs
    read? rounds (← state.step? element) cs

end Reader

-- Reads a pattern in which case counts only where a flag says so. Not read are the classes of a
-- Unicode property, `\p` and `\P`, the flags `x` and `R`, and patterns with Unicode turned off.
-- Patterns are of any size.
def parse? (text : List Char) : Option Pattern :=
  Reader.read? text.length ⟨[], .empty, ⟨true, false, false⟩, []⟩ text

end VaultQuery.Pattern
