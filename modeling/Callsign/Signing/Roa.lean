import Callsign.Algorithm
import Callsign.Call
import Callsign.Canonical.Roa
import Callsign.Credential
import Callsign.Encoding.Pattern
import Callsign.Encoding.Percent

/-!
# Signing in ROA style

The signature travels in the `Authorization` header and covers the headers of the service. The path
is the pattern of the call with its parameters put in.
-/

namespace Callsign.Roa

/-- A call with what it is signed with, and the headers that do not depend on the time. -/
structure Signing where
  credential : Credential
  algorithm : Algorithm
  call : Call
  time : Time.Instant
  base : Http.Headers

namespace Signing

/-- The headers with the digest of the body, if there is one. -/
def setDigest (h : Http.Headers) : Option (List UInt8) → Except Error Http.Headers
  | some body => h.setText "content-md5" (Digest.Base64.encode (Digest.md5 body))
  | none => .ok h

/-- The headers of the call with those that signing sets before the time is known. -/
def baseHeaders (call : Call) (c : Credential) (region : String) : Except Error Http.Headers := do
  let h ← call.headers.setText "x-acs-version" call.version
  let h ← h.setText "x-acs-region-id" region
  let h ← setDigest h call.body
  let h ← h.setHidden "x-acs-security-token" c.securityToken
  h.setHidden "x-acs-bearer-token" c.bearerToken

/-- Binds a call to a credential, which has to be there. -/
def ofCall (call : Call) (credential : Option Credential) (region : String)
    (algorithm : Algorithm) (now : Time.Instant) : Except Error Signing := do
  match credential with
  | none => .error (.ofProblem (.noCredential "roa"))
  | some c => return ⟨c, algorithm, call, now, ← baseHeaders call c region⟩

/-- The path, with the part behind a question mark that the pattern may have. -/
def uri (s : Signing) : String := Encoding.resolve s.call.uriPattern s.call.pathParams

/-- The headers that the signature covers. -/
def signedHeaders (s : Signing) : Except Error Http.Headers := do
  let h ← s.base.setText "date" (Time.httpDate s.time)
  let h ← h.setText "accept" s.call.format.accept
  let h ← h.setText "x-acs-signature-method" s.algorithm.name
  h.setText "x-acs-signature-version" s.algorithm.version

/-- The text to sign. -/
def text (s : Signing) : Except Error String := do
  Canonical.roaText s.call.method (← s.signedHeaders) s.uri s.call.queryParams

/-- The value of `Authorization` for a text to sign. -/
def authorization (s : Signing) (text : String) : String :=
  "acs " ++ s.credential.keyId ++ ":" ++ s.algorithm.sign text s.credential.keySecret

/-- The headers to send, signature included. -/
def headers (s : Signing) : Except Error Http.Headers := do
  let h ← s.signedHeaders
  let text ← Canonical.roaText s.call.method h s.uri s.call.queryParams
  h.setHidden "authorization" (some (s.authorization text))

/-- A path with query pairs behind it, and without a question mark at its end. -/
def withQuery (uri query : List Char) : List Char :=
  let joined :=
    if query.isEmpty then uri
    else if !uri.contains '?' then uri ++ '?' :: query
    else if uri.getLast? = some '?' || uri.getLast? = some '&' then uri ++ query
    else uri ++ '&' :: query
  if joined.getLast? = some '?' then joined.dropLast else joined

/-- The path and query to send. -/
def target (s : Signing) : Except Error String :=
  .ok (String.ofList (withQuery s.uri.toList (Encoding.query s.call.queryParams)))

end Signing

end Callsign.Roa
