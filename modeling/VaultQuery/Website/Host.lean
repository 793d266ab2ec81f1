import VaultQuery.Text.Case
import VaultQuery.Website.Address

namespace VaultQuery.Website

-- The text behind the first scheme separator, or all of it if there is none.
def dropScheme (uri : List Char) : List Char :=
  (behind uri).getD uri
where
  behind : List Char → Option (List Char)
    | [] => none
    | ':' :: '/' :: '/' :: cs => some cs
    | _ :: cs => behind cs

-- What ends the authority of a URI.
def endsAuthority (c : Char) : Bool :=
  c = '/' || c = '?' || c = '#'

-- The text behind the last such character, or all of it if there is none.
def behindLast (c : Char) (cs : List Char) : List Char :=
  (cs.reverse.takeWhile (· ≠ c)).reverse

-- The host of a URI in lowercase, with its port if it has one. The scheme may be missing.
def hostAndPort? (uri : List Char) : Option (List Char) :=
  let authority := behindLast '@' ((dropScheme uri).takeWhile (!endsAuthority ·))
  if authority.isEmpty then none else some (Text.lowerList authority)

-- The host without its port. Brackets around an address are dropped.
def host? (uri : List Char) : Option (List Char) := do
  match ← hostAndPort? uri with
  | '[' :: cs => some (cs.takeWhile (· ≠ ']'))
  | authority =>
    let host := authority.takeWhile (· ≠ ':')
    if host.isEmpty then none else some host

def dropTrailingDots (host : List Char) : List Char :=
  (host.reverse.dropWhile (· = '.')).reverse

-- What a host is registered under. Addresses and names without a registrable part stand for
-- themselves.
def baseDomain? (registrable? : List Char → Option (List Char)) (uri : List Char) :
    Option (List Char) := do
  let host ← host? uri
  if Address.isAddress host then some host
  else
    let host := dropTrailingDots host
    if host.isEmpty then none else some ((registrable? host).getD host)

end VaultQuery.Website
