import VaultQuery.Text.Bytes

namespace VaultQuery.Query

-- A stretch of query text in byte positions, `stop` excluded.
structure Span where
  start : Nat
  stop : Nat
deriving Repr, DecidableEq, Inhabited

namespace Span

def length (span : Span) : Nat :=
  span.stop - span.start

-- From the start of one stretch to the end of another.
def cover (first last : Span) : Span :=
  ⟨first.start, last.stop⟩

-- The text a span stands for.
def slice (text : String) (span : Span) : String :=
  Text.slice text span.start span.stop

end Span

end VaultQuery.Query
