import Callsign.Encoding.Decode
import Callsign.Endpoint.Location
import Callsign.Endpoint.Settling
import Callsign.Time.Parse
import Callsign.Proofs.Resolver.Advance
import Callsign.Proofs.Resolver.Flights
import Callsign.Proofs.Resolver.SingleFlight
import Callsign.Proofs.Resolver.History
import Callsign.Proofs.Resolver.Sharing
import Callsign.Proofs.Table
import Callsign.Proofs.Text.Utf8
import Callsign.Proofs.Encoding.Percent
import Callsign.Proofs.Encoding.Form
import Callsign.Proofs.Http.Uri
import Callsign.Proofs.Signing.Params
import Callsign.Proofs.Signing.Verify
import Callsign.Proofs.Canonical.Roa
import Callsign.Proofs.Resolver.Gating
import Callsign.Proofs.Resolver.Waiting
import Callsign.Proofs.Signing.Headers
import Callsign.Proofs.Encoding.Query
import Callsign.Proofs.Canonical.Resource
import Callsign.Proofs.Signing.Resource
import Callsign.Proofs.Resolver.Stability
import Callsign.Proofs.Canonical.Rpc
import Callsign.Proofs.Canonical.Lines
import Callsign.Proofs.Signing.Cache
import Callsign.Proofs.Text.Lowercase
import Callsign.Proofs.Resolver.Identity
import Callsign.Proofs.Signing.Host
import Callsign.Endpoint.Located
import Callsign.Proofs.Resolver.Fruitless
import Callsign.Proofs.Resolver.Sequential
import Callsign.Proofs.Resolver.Settling
import Callsign.Proofs.Signing.Missing
import Callsign.Proofs.Signing.Config
import Callsign.Proofs.Canonical.Doubled
import Callsign.Proofs.Signing.Overwritten
import Callsign.Proofs.Signing.Reserved
import Callsign.Proofs.Http.Headers
import Callsign.Proofs.Canonical.Layout
import Callsign.Proofs.Chain
import Callsign.Proofs.Text.Bytes
import Callsign.Proofs.Encoding.Places
import Callsign.Proofs.Encoding.Substitution
import Callsign.Proofs.Time.Calendar
import Callsign.Proofs.Time.Front
import Callsign.Proofs.Time.Written
import Callsign.Proofs.Text.Redacted
import Callsign.Proofs.Credential
import Callsign.Proofs.Call
