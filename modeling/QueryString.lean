import QueryString.Charset.Utf8.RoundTrip
import QueryString.Handlers
import QueryString.Proofs.Charset.Codec
import QueryString.Proofs.Charset.Repair
import QueryString.Proofs.Charset.Utf8
import QueryString.Proofs.Coding.Form
import QueryString.Proofs.Coding.Grammar
import QueryString.Proofs.Coding.Octets
import QueryString.Proofs.Coding.RoundTrip
import QueryString.Proofs.Gate
import QueryString.Proofs.Gate.Rejection
import QueryString.Proofs.Interleaving
import QueryString.Proofs.Percent.Escapes
import QueryString.Proofs.Percent.Pieces
import QueryString.Proofs.Percent.Repair
import QueryString.Proofs.Query.Append
import QueryString.Proofs.Query.Faults
import QueryString.Proofs.Query.Form
import QueryString.Proofs.Query.Raw
import QueryString.Proofs.Query.Readings
import QueryString.Proofs.Query.Reordering
import QueryString.Proofs.Query.Rewritable
import QueryString.Proofs.Query.RoundTrip
import QueryString.Proofs.Query.Segments
import QueryString.Proofs.Request.Built
import QueryString.Proofs.Request.Decimals
import QueryString.Proofs.Request.Display
import QueryString.Proofs.Request.Integers
import QueryString.Proofs.Request.Parameters
import QueryString.Proofs.Request.Path
import QueryString.Proofs.Request.Same
import QueryString.Proofs.Request.Scope
import QueryString.Proofs.Request.Serialisation
import QueryString.Proofs.Request.Sources
import QueryString.Proofs.Request.Transport
import QueryString.Proofs.Request.Views
import QueryString.Proofs.Results
import QueryString.Proofs.Store.Grouping
import QueryString.Proofs.Store.Merge
import QueryString.Proofs.Store.Renaming
import QueryString.Proofs.Store.Same
import QueryString.Proofs.Store.WellFormed
import QueryString.Proofs.Text
import QueryString.Proofs.Text.Lower
import QueryString.Proofs.Uri.Parts
import QueryString.Proofs.Value.Boolean
import QueryString.Proofs.Value.Decimal
import QueryString.Proofs.Json.Literal
import QueryString.Proofs.Json.RoundTrip
import QueryString.Proofs.Handlers
import QueryString.Proofs.Session
