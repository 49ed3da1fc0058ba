import Callsign.Signer

/-!
# Signers in use

A signer and the copies made of it, used one after the other in any order while the clock moves as it
likes. A copy may get an algorithm and a scheme of its own; the memory is that of all.
-/

namespace Callsign

/-- What a signer is used for. -/
inductive Use
  | credential
  | authenticator (call : Call)
  | sign (host : String) (call : Call)

/-- What a signer answers. -/
inductive Answer
  | credential (r : Except Error (Option Credential))
  | authenticator (r : Except Error Signing)
  | sign (r : Except Error Http.Request)
  | info (region : String) (algorithm : Algorithm) (env : Env)

namespace Signer

def use (s : Signer) (now : Time.Instant) (m : Memory) : Use → Answer × Memory
  | .credential =>
    let (r, m) := s.credential now m
    (.credential r, m)
  | .authenticator call =>
    let (r, m) := s.signing now call m
    (.authenticator r, m)
  | .sign host call =>
    let (r, m) := s.sign now host call m
    (.sign r, m)

def info (s : Signer) : Answer := .info s.region s.algorithm s.env

end Signer

/-- A signer and its copies, which go by their number, with what they share and the time it is. -/
structure Session where
  copies : List Signer
  memory : Memory
  now : Time.Instant

namespace Session

/-- What can happen in a session. -/
inductive Step
  | clone (i : Nat)
  | withAlgorithm (i : Nat) (a : Algorithm)
  | withScheme (i : Nat) (scheme : String)
  | info (i : Nat)
  | use (i : Nat) (u : Use)
  | setTime (t : Time.Instant)

/-- What a step is answered with, and the session then. Nothing happens with a copy that is not there. -/
def step (σ : Session) : Step → Option Answer × Session
  | .clone i => (none, { σ with copies := σ.copies ++ σ.copies[i]?.toList })
  | .withAlgorithm i a => (none, { σ with copies := σ.copies.modify i ({ · with algorithm := a }) })
  | .withScheme i scheme => (none, { σ with copies := σ.copies.modify i ({ · with scheme }) })
  | .info i => (σ.copies[i]?.map Signer.info, σ)
  | .use i u =>
    match σ.copies[i]? with
    | none => (none, σ)
    | some s =>
      let (a, memory) := s.use σ.now σ.memory u
      (some a, { σ with memory })
  | .setTime now => (none, { σ with now })

/-- The session after these steps. -/
def run (σ : Session) (steps : List Step) : Session := steps.foldl (fun σ x => (σ.step x).2) σ

/-- The session of a signer that nobody has used. -/
def start (s : Signer) (provider : Provider) (nonces : NonceSupply) (now : Time.Instant) : Session :=
  ⟨[s], ⟨provider, none, nonces⟩, now⟩

end Session

end Callsign
