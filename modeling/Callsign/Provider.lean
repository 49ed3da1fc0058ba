import Callsign.Chain
import Callsign.Config
import Callsign.Credential

/-!
# Providers of credentials

Where a credential comes from: it is given, read from the environment or a config, offered by the
first of several providers that has one, or comes from a provider of the caller's own.
-/

namespace Callsign

inductive Provider
  | given (c : Credential)
  | environment
  | config (c : Config)
  | chain (ps : List Provider)
  | script (s : Script Credential)

namespace Provider

/-- The key pair, if both keys are there, with the tokens there are. -/
def keyPair (keyId keySecret securityToken bearerToken : Option String) : Option Credential :=
  match keyId, keySecret with
  | some id, some secret => some ⟨id, secret, securityToken, bearerToken, none⟩
  | _, _ => none

/-- The credential set in the environment. -/
def ofEnv (env : Env) : Option Credential :=
  let vars := env.vars
  keyPair (vars.get? Variable.keyId.name) (vars.get? Variable.keySecret.name)
    (vars.get? Variable.securityToken.name) (vars.get? Variable.bearerToken.name)

/-- The credential set in a config. -/
def ofConfig (c : Config) : Option Credential :=
  keyPair c.keyId c.keySecret c.securityToken c.bearerToken

mutual

/-- What the provider offers in an environment, and the provider as it is then. -/
def ask (env : Env) : Provider → Offer Credential × Provider
  | given c => (.ok (some c), given c)
  | environment => (.ok (ofEnv env), environment)
  | config c => (.ok (ofConfig c), config c)
  | chain ps =>
    let (a, ps) := askAll env ps
    (.ok a, chain ps)
  | script s =>
    let (a, s) := s.ask
    (a, script s)

/-- Asks providers in order up to the first that offers something. -/
def askAll (env : Env) : List Provider → Option Credential × List Provider
  | [] => (none, [])
  | p :: ps =>
    match ask env p with
    | (.ok (some a), p) => (some a, p :: ps)
    | (_, p) =>
      let (a, ps) := askAll env ps
      (a, p :: ps)

end

/-- Providers are asked as any chain asks. -/
theorem askAll_eq (env : Env) (ps : List Provider) : askAll env ps = Chain.askAll (ask env) ps := by
  induction ps with
  | nil => simp [askAll, Chain.askAll]
  | cons p ps ih =>
    rw [askAll, Chain.askAll, ih]
    rcases ask env p with ⟨_ | _ | _, q⟩ <;> rfl

/-- The providers used unless told otherwise: the config, then the environment. -/
def standard (c : Config) : Chain Provider := ⟨[config c, environment]⟩

/-- A chain as one provider. -/
def ofChain (c : Chain Provider) : Provider := chain c.providers

mutual

/-- How often the caller's own providers have been asked. -/
def calls : Provider → Nat
  | chain ps => callsAll ps
  | script s => s.calls
  | _ => 0

def callsAll : List Provider → Nat
  | [] => 0
  | p :: ps => calls p + callsAll ps

end

end Provider

end Callsign
