import VaultQuery.Query.Error
import VaultQuery.Query.Tree

namespace VaultQuery.Query

-- An operand as written: values glued with colons, or a call of a named predicate.
inductive Atom where
  | values (head : Value) (qualifiers : List Value)
  | call (family : Family) (name : Value) (arguments : List Value)
deriving Repr, DecidableEq

-- One more value glued to the end of an atom.
def Atom.extend : Atom → Value → Atom
  | .values head qualifiers, value => .values head (qualifiers ++ [value])
  | .call family name arguments, value => .call family name (arguments ++ [value])

namespace Grammar

-- What stands to the left of the next operand of a group: the alternatives already closed by OR,
-- the conjunction the operand joins, and a NOT that waits for it.
structure Level where
  alternatives : Option (Tree Atom)
  conjunction : Option (Tree Atom)
  negation : Option Nat
deriving Repr, DecidableEq

namespace Level

def empty : Level :=
  ⟨none, none, none⟩

def joinOr : Option (Tree Atom) → Tree Atom → Tree Atom
  | none, right => right
  | some left, right => .or (left.span.cover right.span) left right

def joinAnd : Option (Tree Atom) → Tree Atom → Tree Atom
  | none, right => right
  | some left, right => .and (left.span.cover right.span) left right

def negate : Option Nat → Tree Atom → Tree Atom
  | none, body => body
  | some start, body => .not ⟨start, body.span.stop⟩ body

-- The conjunction once the operand has been read.
def absorb (level : Level) (operand : Tree Atom) : Tree Atom :=
  joinAnd level.conjunction (negate level.negation operand)

-- The whole group once its last conjunction has been read.
def close (level : Level) (conjunction : Tree Atom) : Tree Atom :=
  joinOr level.alternatives conjunction

end Level

-- Where an operand is expected: at the start of the query, right after an opening parenthesis, or
-- anywhere else.
inductive Place where
  | start
  | opening
  | joined
deriving Repr, DecidableEq

-- An atom that a glued colon can still extend.
structure OpenAtom where
  span : Span
  atom : Atom
deriving Repr, DecidableEq

def OpenAtom.tree (reading : OpenAtom) : Tree Atom :=
  .leaf reading.span reading.atom

def OpenAtom.extend (reading : OpenAtom) (token : Token) : OpenAtom :=
  ⟨⟨reading.span.start, token.stop⟩, reading.atom.extend token.value⟩

-- What the next token is taken for.
inductive Expecting where
  | operand (place : Place)
  | name (family : Family) (start : Nat)
  | colon (reading : OpenAtom)
  | value (reading : OpenAtom) (colon : Nat)
  | connective (conjunction : Tree Atom)
deriving Repr, DecidableEq

-- The groups around the present one, innermost first, each with the position of its parenthesis.
structure State where
  enclosing : List (Level × Nat)
  level : Level
  expecting : Expecting
deriving Repr, DecidableEq

namespace State

def initial : State :=
  ⟨[], .empty, .operand .start⟩

def fail (cause : SyntaxError.Cause) (position : Nat) : Except SyntaxError State :=
  .error ⟨cause, position⟩

-- A token where an operand is due.
def stepOperand (state : State) (place : Place) (token : Token) : Except SyntaxError State :=
  match token.kind with
  | .blank => .ok { state with expecting := .operand place }
  | .not =>
    match state.level.negation with
    | some _ => fail .doubleNegation token.offset
    | none =>
      .ok { state with
        level := { state.level with negation := some token.offset }
        expecting := .operand .joined }
  | .openParen =>
    .ok ⟨(state.level, token.offset) :: state.enclosing, .empty, .operand .opening⟩
  | .literal | .quoted =>
    .ok { state with
      expecting := .colon ⟨⟨token.offset, token.stop⟩, .values token.value []⟩ }
  | .family family => .ok { state with expecting := .name family token.offset }
  | .closeParen =>
    if place = .opening then fail .emptyParens token.offset
    else fail (.unexpected token.text) token.offset
  | .and | .or | .colon => fail (.unexpected token.text) token.offset

-- A token behind a complete operand. Whatever can start an operand joins it by AND.
def stepConnective (state : State) (conjunction : Tree Atom) (token : Token) :
    Except SyntaxError State :=
  let joined := { state with level := ⟨state.level.alternatives, some conjunction, none⟩ }
  match token.kind with
  | .blank => .ok { state with expecting := .connective conjunction }
  | .and => .ok { joined with expecting := .operand .joined }
  | .or =>
    .ok { state with
      level := ⟨some (state.level.close conjunction), none, none⟩
      expecting := .operand .joined }
  | .not | .openParen | .literal | .quoted | .family _ => joined.stepOperand .joined token
  | .closeParen =>
    match state.enclosing with
    | [] => fail (.unexpected token.text) token.offset
    | (outer, start) :: enclosing =>
      let group := .parens ⟨start, token.stop⟩ (state.level.close conjunction)
      .ok ⟨enclosing, outer, .connective (outer.absorb group)⟩
  | .colon =>
    match state.enclosing with
    | [] => fail (.unexpected token.text) token.offset
    | _ :: _ => fail (.unclosedBefore token.text) token.offset

-- Tokens are taken strictly from left to right:
--   or    := and (OR and)*
--   and   := not ((AND | nothing) not)*
--   not   := NOT group | group
--   group := '(' or ')' | atom
--   atom  := value (':' value)* | family name (':' value)*
-- Blanks may stand between operands, connectives and parentheses, and nowhere inside an atom.
def step (state : State) (token : Token) : Except SyntaxError State :=
  match state.expecting with
  | .operand place => state.stepOperand place token
  | .name family start =>
    if token.kind = .literal then
      .ok { state with
        expecting := .colon ⟨⟨start, token.stop⟩, .call family token.value []⟩ }
    else fail (.missingName family false) token.offset
  | .colon reading =>
    if token.kind = .colon then .ok { state with expecting := .value reading token.offset }
    else state.stepConnective (state.level.absorb reading.tree) token
  | .value reading colon =>
    if token.isValue then .ok { state with expecting := .colon (reading.extend token) }
    else fail .missingValue colon
  | .connective conjunction => state.stepConnective conjunction token

-- The tree of the tokens read, if the query may end here.
def finish (state : State) (length : Nat) : Except SyntaxError (Tree Atom) :=
  match state.expecting with
  | .operand .start => .error ⟨.emptyQuery, 0⟩
  | .operand _ => .error ⟨.missingTerm, length⟩
  | .name family _ => .error ⟨.missingName family true, length⟩
  | .value _ colon => .error ⟨.missingValue, colon⟩
  | .colon reading => closeWith (state.level.absorb reading.tree)
  | .connective conjunction => closeWith conjunction
where
  closeWith (conjunction : Tree Atom) : Except SyntaxError (Tree Atom) :=
    match state.enclosing with
    | [] => .ok (state.level.close conjunction)
    | _ :: _ => .error ⟨.unclosed, length⟩

end State

def run (state : State) (tokens : List Token) : Except SyntaxError State :=
  tokens.foldlM State.step state

-- The shape of a token list that comes from a text of the given length in bytes.
def read (tokens : List Token) (length : Nat) : Except SyntaxError (Tree Atom) := do
  (← run .initial tokens).finish length

end Grammar

end VaultQuery.Query
