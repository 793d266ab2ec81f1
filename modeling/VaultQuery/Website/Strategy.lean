import VaultQuery.Text.Case

namespace VaultQuery.Website

-- How a stored address is compared with a website.
inductive Strategy where
  | domain
  | host
  | startsWith
  | exact
  | regex
  | never
deriving Repr, DecidableEq

namespace Strategy

def all : List Strategy :=
  [.domain, .host, .startsWith, .exact, .regex, .never]

def name : Strategy → String
  | .domain => "domain"
  | .host => "host"
  | .startsWith => "starts_with"
  | .exact => "exact"
  | .regex => "regex"
  | .never => "never"

-- Other spellings a query may use.
def aliases : List (String × Strategy) :=
  [("base_domain", .domain), ("startswith", .startsWith), ("prefix", .startsWith),
   ("regular_expression", .regex)]

-- The strategy with exactly this name.
def ofName? (name : String) : Option Strategy :=
  all.find? (·.name == name)

-- The strategy a query means by a word, in any case and by any spelling.
def ofWord? (word : String) : Option Strategy :=
  let word := Text.asciiLowercase word
  (ofName? word).or (aliases.lookup word)

end Strategy

end VaultQuery.Website
