import VaultQuery.Pattern.Reader
import VaultQuery.Website.PublicSuffix
import VaultQuery.Website.Services

namespace VaultQuery.Website

-- Services without the whole list of public suffixes and without the whole syntax of patterns.
-- `PublicSuffix.rules` and `Pattern.parse?` say what they know.
instance Services.builtin : Services where
  registrable? := PublicSuffix.registrable?
  pattern? text := (Pattern.parse? text).map Pattern.occursIn

end VaultQuery.Website
