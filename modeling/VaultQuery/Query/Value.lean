namespace VaultQuery.Query

-- A value written in a query. Quoting survives as a flag because it asks for whole-token search.
structure Value where
  text : String
  quoted : Bool
deriving Repr, DecidableEq, Inhabited

namespace Value

-- Inside quotes only the quote and the backslash need an escape.
def escapeList : List Char → List Char
  | [] => []
  | c :: cs => if c = '\\' || c = '"' then '\\' :: c :: escapeList cs else c :: escapeList cs

-- A backslash before any other character stands for itself.
def unescapeList : List Char → List Char
  | [] => []
  | ['\\'] => ['\\']
  | '\\' :: c :: cs =>
    if c = '\\' || c = '"' then c :: unescapeList cs else '\\' :: c :: unescapeList cs
  | c :: cs => c :: unescapeList cs

theorem unescapeList_escapeList (cs : List Char) : unescapeList (escapeList cs) = cs := by
  induction cs with
  | nil => rfl
  | cons c cs ih =>
      by_cases h : c = '\\' ∨ c = '"'
      · rcases h with h | h <;> subst h <;> simp [escapeList, unescapeList, ih]
      · simp only [not_or] at h
        simp only [escapeList, h, Bool.or_false, decide_false, Bool.false_eq_true, if_false]
        rw [unescapeList.eq_4 _ _ (by simp [h]) (by simp [h]), ih]

-- Quoted query text that reads back as the given value.
def quote (text : String) : String :=
  String.ofList ('"' :: escapeList text.toList ++ ['"'])

-- The value of a text between its two quotes.
def unquote (raw : String) : String :=
  String.ofList (unescapeList raw.toList.tail.dropLast)

-- The exact words without quotes, whatever they spell.
def isWord (value : Value) (word : String) : Bool :=
  !value.quoted && value.text == word

-- Values are shown with their quotes but without escapes.
def render (value : Value) : String :=
  if value.quoted then "\"" ++ value.text ++ "\"" else value.text

end Value

end VaultQuery.Query
