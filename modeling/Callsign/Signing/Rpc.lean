import Callsign.Algorithm
import Callsign.Call
import Callsign.Canonical.Rpc
import Callsign.Credential

/-!
# Signing in RPC style

The signature travels as one more query parameter. Of two values for one name, the query yields to
the names that signing itself sets, these to the body, and all to the tokens of the credential.
-/

namespace Callsign.Rpc

/-- A call with what it is signed with. A missing credential shows only when something needs it. -/
structure Signing where
  credential : Option Credential
  algorithm : Algorithm
  call : Call
  time : Time.Instant
  nonce : String

namespace Signing

def required (s : Signing) : Except Error Credential :=
  match s.credential with
  | some c => .ok c
  | none => .error (.ofProblem (.noCredential "rpc"))

/-- The parameters that signing sets, whatever the call says. -/
def systemParams (s : Signing) (c : Credential) : List (String × String) :=
  [("Version", s.call.version), ("Action", s.call.action), ("Format", "JSON"),
    ("Timestamp", Time.iso8601 s.time), ("SignatureMethod", s.algorithm.name),
    ("SignatureType", s.algorithm.signatureType), ("SignatureVersion", s.algorithm.version),
    ("SignatureNonce", s.nonce), ("AccessKeyId", c.keyId)]

/-- The parameters that carry tokens. -/
def tokenParams (c : Credential) : List (String × String) :=
  (c.securityToken.map ("SecurityToken", ·)).toList ++ (c.bearerToken.map ("BearerToken", ·)).toList

/-- All parameters that the signature covers; the last of a name counts. -/
def params (s : Signing) : Except Error (Table String) := do
  let c ← s.required
  return .ofList (s.call.queryParams.map (fun (k, v) => (k, v.getD "")) ++ s.systemParams c ++
    s.call.bodyParams.entries ++ tokenParams c)

/-- The text to sign. -/
def text (s : Signing) : Except Error String :=
  return Canonical.rpcText s.call.method (← s.params)

/-- The query to send, signature included, behind its question mark. -/
def target (s : Signing) : Except Error String := do
  let c ← s.required
  let params ← s.params
  let signature := s.algorithm.sign (Canonical.rpcText s.call.method params) (c.keySecret ++ "&")
  return "?" ++ String.ofList (Encoding.form (params.insert "Signature" signature).entries)

/-- The headers to send: those of the call. -/
def headers (s : Signing) : Except Error Http.Headers := .ok s.call.headers

end Signing

end Callsign.Rpc
