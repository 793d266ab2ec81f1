import VaultQuery.Text.Blank
import VaultQuery.Website.Host
import VaultQuery.Website.Services
import VaultQuery.Website.Strategy

namespace VaultQuery.Website

-- Both are there and equal.
def sameSome (left right : Option (List Char)) : Bool :=
  match left, right with
  | some left, some right => left == right
  | _, _ => false

variable [Services]

-- How two texts without blanks around them compare. An ill-formed pattern matches nothing.
def Strategy.accepts (stored website : List Char) : Strategy → Bool
  | .domain =>
    sameSome (baseDomain? Services.registrable? stored)
      (baseDomain? Services.registrable? website)
  | .host => sameSome (hostAndPort? stored) (hostAndPort? website)
  | .startsWith => (Text.lowerList stored).isPrefixOf (Text.lowerList website)
  | .exact => Text.lowerList website == Text.lowerList stored
  | .regex => (Services.pattern? stored).any fun occursIn => occursIn website
  | .never => false

-- Whether a stored address is meant by a website. Blank texts match nothing.
def uriMatches (stored website : String) (strategy : Strategy) : Bool :=
  let stored := Text.trimList stored.toList
  let website := Text.trimList website.toList
  !stored.isEmpty && !website.isEmpty && strategy.accepts stored website

end VaultQuery.Website
