import Callsign.Nonce
import Callsign.Signing.Roa
import Callsign.Signing.Rpc

/-!
# A call bound to its signature

Both styles give headers, a path with its query, and the text to sign; they differ in which of the
two carries the signature.
-/

namespace Callsign

inductive Signing
  | rpc (s : Rpc.Signing)
  | roa (s : Roa.Signing)

/-- The part of a request that carries the signature. -/
inductive Carrier
  | query (q : String)
  | headers (h : Http.Headers)

namespace Signing

/-- Binds a call to a credential at a time. In RPC style this takes a nonce. -/
def ofCall (call : Call) (credential : Option Credential) (region : String)
    (algorithm : Algorithm) (now : Time.Instant) (nonces : NonceSupply) :
    Except Error Signing × NonceSupply :=
  match call.style with
  | .rpc =>
    let (nonce, nonces) := Nonce.draw nonces
    (.ok (.rpc ⟨credential, algorithm, call, now, nonce⟩), nonces)
  | .roa => (.roa <$> Roa.Signing.ofCall call credential region algorithm now, nonces)

def style : Signing → Style
  | rpc _ => .rpc
  | roa _ => .roa

/-- The headers to send. -/
def headers : Signing → Except Error Http.Headers
  | rpc s => s.headers
  | roa s => s.headers

/-- The path and query to send; in RPC style the query alone. -/
def target : Signing → Except Error String
  | rpc s => s.target
  | roa s => s.target

/-- The text to sign. -/
def text : Signing → Except Error String
  | rpc s => s.text
  | roa s => s.text

/-- The part that carries the signature. -/
def carrier : Signing → Except Error Carrier
  | rpc s => .query <$> s.target
  | roa s => .headers <$> s.headers

end Signing

end Callsign
