import SearchRelay.Main
import SearchRelay.Proofs.Batch
import SearchRelay.Proofs.Json.Fields
import SearchRelay.Proofs.Envelope
import SearchRelay.Proofs.Exchange
import SearchRelay.Proofs.Search
import SearchRelay.Proofs.Gateway.Status
import SearchRelay.Proofs.Alias
import SearchRelay.Proofs.Binary64.Decimal
import SearchRelay.Proofs.Json.Quote
import SearchRelay.Proofs.Json.Number
import SearchRelay.Proofs.Json.Text
import SearchRelay.Proofs.Json.Relabel
import SearchRelay.Proofs.Alias.Quoted
import SearchRelay.Proofs.Translation
import SearchRelay.Proofs.Rule
import SearchRelay.Proofs.Rule.Outcome
import SearchRelay.Proofs.Json.Ordered
import SearchRelay.Proofs.Hiding
import SearchRelay.Proofs.Alias.Plan
import SearchRelay.Proofs.Alias.Inverse
import SearchRelay.Proofs.Retry
import SearchRelay.Proofs.Suggestion.Gather
import SearchRelay.Proofs.Reordering
import SearchRelay.Proofs.Html.Tree
import SearchRelay.Proofs.Html.Marked
import SearchRelay.Proofs.Html.Plain
import SearchRelay.Proofs.Text.Lowercase
import SearchRelay.Proofs.Suggestion.Completion
import SearchRelay.Proofs.Refusal
import SearchRelay.Proofs.Frame
import SearchRelay.Proofs.Isolation
import SearchRelay.Proofs.Text.Split
import SearchRelay.Proofs.Url.Path
import SearchRelay.Proofs.Backend.Target
import SearchRelay.Proofs.Suggestion.Distinct
import SearchRelay.Proofs.Text.Lossy
import SearchRelay.Proofs.Backend.Deadline
import SearchRelay.Proofs.Gateway.Rejection
import SearchRelay.Proofs.Gateway.RuleBook
import SearchRelay.Proofs.Hit
import SearchRelay.Proofs.Envelope.Fault
import SearchRelay.Proofs.Envelope.Disclosure
import SearchRelay.Proofs.Envelope.Acceptance
import SearchRelay.Proofs.Suggestion.Predictive
import SearchRelay.Proofs.Batch.Framing
import SearchRelay.Proofs.Binary64.Nearest
import SearchRelay.Proofs.Toml.Quoted
import SearchRelay.Proofs.Toml.Scalar
import SearchRelay.Proofs.Toml.Token
import SearchRelay.Proofs.Toml.Key
import SearchRelay.Proofs.Toml.Value
import SearchRelay.Proofs.Toml.Line
import SearchRelay.Proofs.Toml.Block
import SearchRelay.Proofs.Toml.Document
import SearchRelay.Proofs.Json.Range
import SearchRelay.Proofs.Toml.Range
import SearchRelay.Proofs.Toml.Meaning
import SearchRelay.Proofs.Json.Decoder
import SearchRelay.Proofs.Json.Record
import SearchRelay.Proofs.Gateway.Settings
import SearchRelay.Proofs.Gateway.Persistence
import SearchRelay.Proofs.Text.Search
import SearchRelay.Proofs.Text.ByteRange
import SearchRelay.Proofs.Text.Canonical
import SearchRelay.Proofs.Text.Fold
import SearchRelay.Proofs.Suggestion.Phrase
import SearchRelay.Proofs.Suggestion.Extension
import SearchRelay.Proofs.Suggestion.Boundary
import SearchRelay.Proofs.Suggestion.Longest
import SearchRelay.Proofs.FieldPath
import SearchRelay.Proofs.FieldPath.Origin
import SearchRelay.Proofs.Batch.Acceptance
import SearchRelay.Proofs.Alias.Table
import SearchRelay.Proofs.Gateway.Startup
import SearchRelay.Proofs.Suggestion.Blank
import SearchRelay.Proofs.Backend.Silence
import SearchRelay.Proofs.Backend.Budget
import SearchRelay.Proofs.Hit.Overlay
import SearchRelay.Proofs.Html.Piece
import SearchRelay.Proofs.Query.Wire
import SearchRelay.Proofs.Hit.Wire
