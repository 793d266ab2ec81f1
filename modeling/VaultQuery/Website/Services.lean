namespace VaultQuery.Website

-- What comparing addresses takes from elsewhere: the name that a host is registered under by the
-- list of public suffixes, if there is one, and the texts a pattern is found in, if its own text is
-- well-formed. Nothing is assumed of either.
class Services where
  registrable? (host : List Char) : Option (List Char)
  pattern? (text : List Char) : Option (List Char → Bool)

end VaultQuery.Website
