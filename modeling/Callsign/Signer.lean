import Callsign.Http.Message
import Callsign.Provider
import Callsign.Signing.Basic

/-!
# Signers

A signer keeps the last credential that its provider offered and asks again only when that one is
missing or no longer good. All copies of a signer share one memory.
-/

namespace Callsign

/-- How calls are signed, and where they go. -/
structure Signer where
  env : Env
  region : String
  algorithm : Algorithm := .standard
  scheme : String := "https"

/-- What the copies of a signer share: the provider, its last offer, and the nonces to come. -/
structure Memory where
  provider : Provider
  cached : Option Credential := none
  nonces : NonceSupply := []

namespace Signer

/-- The signer that a config describes, with its provider. -/
def ofConfig (config : Config) (env : Env) : Except Error (Signer × Provider) := do
  let config := config.fromEnv env
  let region ← match config.region with
    | some region => .ok region
    | none => .error (.ofProblem .noRegion)
  let algorithm ← match config.signatureMethod with
    | some name => Algorithm.ofName name
    | none => .ok .standard
  return (⟨env, region, algorithm, config.protocol⟩, .ofChain (Provider.standard config))

variable (s : Signer) (now : Time.Instant)

/-- The credential to sign with: the last offer while it is good, a new one otherwise. An error of
the provider leaves the last offer in place. -/
def credential (m : Memory) : Except Error (Option Credential) × Memory :=
  if m.cached.any (·.isValid now) then (.ok m.cached, m)
  else
    match m.provider.ask s.env with
    | (.ok c, p) => (.ok c, { m with provider := p, cached := c })
    | (.error e, p) => (.error e, { m with provider := p })

/-- The call bound to its credential. -/
def signing (call : Call) (m : Memory) : Except Error Signing × Memory :=
  match s.credential now m with
  | (.error e, m) => (.error e, m)
  | (.ok c, m) =>
    let (signing, nonces) := Signing.ofCall call c s.region s.algorithm now m.nonces
    (signing, { m with nonces })

/-- What a signed call says in its target and its headers. -/
def targetAndHeaders (signing : Signing) : Except Error (String × Http.Headers) := do
  match ← signing.carrier with
  | .query query => return ("/" ++ query, ← signing.headers)
  | .headers headers => return (← signing.target, headers)

/-- The request for a signed call to a host. Body parameters take the place of a body. -/
def request (host : String) (call : Call) (signing : Signing) : Except Error Http.Request := do
  let (target, headers) ← targetAndHeaders signing
  let (headers, body) ←
    if call.bodyParams.isEmpty then pure (headers, call.body.getD [])
    else do
      let headers ← headers.setText "content-type" "application/x-www-form-urlencoded"
      pure (headers, Text.utf8 (String.ofList (Encoding.form call.bodyParams.entries)))
  let uri ← Http.uri (s.scheme ++ "://" ++ host ++ target)
  return ⟨call.method, uri, headers, body⟩

/-- Signs a call to a host. -/
def sign (host : String) (call : Call) (m : Memory) : Except Error Http.Request × Memory :=
  let (signing, m) := s.signing now call m
  (signing.bind (s.request host call), m)

end Signer

end Callsign
