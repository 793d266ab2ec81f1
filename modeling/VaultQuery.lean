import VaultQuery.Filter.Reader
import VaultQuery.Json.Printer
import VaultQuery.Proofs.Evaluate.Deduplication
import VaultQuery.Proofs.Evaluate.Locality
import VaultQuery.Proofs.Evaluate.Membership
import VaultQuery.Proofs.Filter.Selection
import VaultQuery.Proofs.Filter.Theorems
import VaultQuery.Proofs.Grammar.Theorems
import VaultQuery.Proofs.Secrecy.Theorems
import VaultQuery.Session
import VaultQuery.Proofs.Token.Shape
import VaultQuery.Proofs.Token.Tiling
import VaultQuery.Proofs.Evaluate.Arrangement
import VaultQuery.Proofs.Evaluate.Ranking
import VaultQuery.Proofs.Grammar.Shift
import VaultQuery.Proofs.Session.BlankText
import VaultQuery.Proofs.Session.History
import VaultQuery.Proofs.Highlight.Literals
import VaultQuery.Proofs.Highlight.Results
import VaultQuery.Proofs.Matching.BytePositions
import VaultQuery.Proofs.Matching.CustomFields
import VaultQuery.Proofs.Matching.Parts
import VaultQuery.Proofs.Matching.WholeTokens
import VaultQuery.Proofs.Text.Delimiters
import VaultQuery.Proofs.Text.Lowercase
import VaultQuery.Proofs.Text.Trim
import VaultQuery.Proofs.Text.Utf8
import VaultQuery.Proofs.Website.Authority
import VaultQuery.Proofs.Grammar.Conjunction
import VaultQuery.Proofs.Filter.Shape
import VaultQuery.Proofs.Grammar.Positions
import VaultQuery.Proofs.Grammar.Slices
import VaultQuery.Proofs.Vault.Properties
import VaultQuery.Proofs.Vault.RoundTrip
import VaultQuery.Proofs.Website.Strictness
import VaultQuery.Proofs.Evaluate.Regrouping
import VaultQuery.Proofs.Grammar.ImplicitAnd
import VaultQuery.Proofs.Grammar.Viability
import VaultQuery.Proofs.Token.Kinds
import VaultQuery.Proofs.Token.Quoting
import VaultQuery.Proofs.Website.Addresses
