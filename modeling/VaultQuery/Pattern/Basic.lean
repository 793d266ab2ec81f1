import VaultQuery.Pattern.CharSet

namespace VaultQuery

namespace Pattern

-- Conditions on the characters around a position.
inductive Assertion where
  | textStart
  | textEnd
  | lineStart
  | lineEnd
  | wordEdge
  | noWordEdge
  | wordStart
  | wordEnd
  | afterNoWord
  | beforeNoWord
deriving Repr, DecidableEq

def Assertion.holds (before after : Option Char) : Assertion → Bool
  | .textStart => before.isNone
  | .textEnd => after.isNone
  | .lineStart => before.all (· = '\n')
  | .lineEnd => after.all (· = '\n')
  | .wordEdge => before.any Text.isWordChar != after.any Text.isWordChar
  | .noWordEdge => before.any Text.isWordChar == after.any Text.isWordChar
  | .wordStart => !before.any Text.isWordChar && after.any Text.isWordChar
  | .wordEnd => before.any Text.isWordChar && !after.any Text.isWordChar
  | .afterNoWord => !before.any Text.isWordChar
  | .beforeNoWord => !after.any Text.isWordChar

end Pattern

inductive Pattern where
  | empty
  | char (c : Char) (anyCase : Bool)
  | any (lineFeed : Bool)
  | set (chars : Pattern.CharSet) (anyCase : Bool)
  | assertion (condition : Pattern.Assertion)
  | seq (first second : Pattern)
  | alt (left right : Pattern)
  | loop (body : Pattern) (least : Nat) (most : Option Nat)
deriving Repr, DecidableEq

namespace Pattern

-- Positions without repeats.
def union (left right : List Nat) : List Nat :=
  left ++ right.filter (!left.contains ·)

-- The positions behind those whose character passes a test.
def advance (text : Array Char) (accepts : Char → Bool) (starts : List Nat) : List Nat :=
  (starts.filter fun i => text[i]?.any accepts).map (· + 1)

def charAt? (text : Array Char) : Nat → Option Char
  | 0 => none
  | i + 1 => text[i]?

-- The positions reached from `latest` in at most `rounds` steps, added to those reached before.
def reach (step : List Nat → List Nat) : Nat → List Nat → List Nat → List Nat
  | 0, reached, _ => reached
  | rounds + 1, reached, latest =>
    let fresh := (step latest).filter (!reached.contains ·)
    if fresh.isEmpty then reached else reach step rounds (reached ++ fresh) fresh

-- Where a match that starts at one of the given positions can end. In a loop more rounds than the
-- text has positions repeat one without moving, and so add nothing.
def ends (text : Array Char) : Pattern → List Nat → List Nat
  | .empty => id
  | .char c anyCase => advance text fun d => d = c || (anyCase && Text.fold d = Text.fold c)
  | .any lineFeed => advance text fun c => lineFeed || c ≠ '\n'
  | .set chars anyCase => advance text (CharSet.widen anyCase (chars.contains anyCase))
  | .assertion condition => fun starts =>
    starts.filter fun i => condition.holds (charAt? text i) text[i]?
  | .seq first second => fun starts => second.ends text (first.ends text starts)
  | .alt left right => fun starts => union (left.ends text starts) (right.ends text starts)
  | .loop body least most => fun starts =>
    let rounds := text.size + 1
    let required := Nat.repeat (body.ends text) (min least rounds) starts
    let optional :=
      match most with
      | none => rounds
      | some most => min (most - least) rounds
    reach (body.ends text) optional required required

-- Whether the pattern matches somewhere in the text. No match is preferred over another.
def occursIn (pattern : Pattern) (text : List Char) : Bool :=
  !(pattern.ends text.toArray (List.range (text.length + 1))).isEmpty

end Pattern

end VaultQuery
