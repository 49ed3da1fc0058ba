import Callsign.Proofs.Signing.Request
import Callsign.Session

/-!
# The credential that the copies of a signer share

`Session.cache_follows_offers`: whatever is done with a signer and its copies, and wherever the clock moves, the
cache holds the most recent offer of the provider that was no error; and the provider is asked once by each use
that finds nothing good there, and by nothing else. What a use makes of the credential comes after that
(`Signer.use_eq`), so that one that fails has asked like any other.
-/

namespace Callsign
open Time

/-! ### Credentials -/

/-- Nothing to sign with, or not more than two minutes left. -/
def Credential.Unusable (c : Credential) (now : Instant) : Prop :=
  (c.bearerToken = none ∧ (c.keyId = "" ∨ c.keySecret = "")) ∨
    ∃ t, c.expires = some t ∧ (now.plusSeconds 120).isBefore t = false

theorem Credential.isValid_eq_false {c : Credential} {now : Instant} : c.isValid now = false ↔ c.Unusable now := by
  unfold isValid isComplete
  rw [Bool.and_eq_false_iff]
  refine or_congr ?_ ?_
  · cases c.bearerToken with
    | none => by_cases hk : c.keyId = "" <;> simp [hk]
    | some t => simp
  · cases c.expires <;> simp

/-- The most recent of the first `n` offers that was no error, nothing if all of them were. -/
def MostRecent (offer : Nat → Offer Credential) (n : Nat) (c : Option Credential) : Prop :=
  (c = none ∧ ∀ i < n, ∃ e, offer i = .error e) ∨
    ∃ i < n, offer i = .ok c ∧ ∀ j, i < j → j < n → ∃ e, offer j = .error e

namespace MostRecent
variable {offer : Nat → Offer Credential} {n : Nat} {c : Option Credential} {e : Error}

theorem of_ok (hc : offer n = .ok c) : MostRecent offer (n + 1) c := by
  refine .inr ⟨n, Nat.lt_succ_self n, hc, ?_⟩
  intro j hj hn
  omega

theorem of_error (h : MostRecent offer n c) (he : offer n = .error e) : MostRecent offer (n + 1) c := by
  rcases h with ⟨rfl, h⟩ | ⟨i, hi, hc, h⟩
  · refine .inl ⟨rfl, ?_⟩
    intro j hj
    rcases Nat.lt_succ_iff_lt_or_eq.1 hj with hj | rfl
    · exact h j hj
    · exact ⟨e, he⟩
  · refine .inr ⟨i, by omega, hc, ?_⟩
    intro j hij hj
    rcases Nat.lt_succ_iff_lt_or_eq.1 hj with hj | rfl
    · exact h j hij hj
    · exact ⟨e, he⟩

end MostRecent

namespace Memory
variable {m : Memory} {now : Instant} {offer : Nat → Offer Credential} {n : Nat}

/-- The cache has no credential, or one that cannot be used. -/
def Stale (m : Memory) (now : Instant) : Prop := ∀ c, m.cached = some c → c.Unusable now

theorem any_isValid_eq_false : m.cached.any (·.isValid now) = false ↔ m.Stale now := by
  unfold Stale
  cases m.cached with
  | none => simp
  | some c => simp [Credential.isValid_eq_false]

/-- The provider has been asked `n` times, and the cache holds what came of it. -/
structure Follows (offer : Nat → Offer Credential) (n : Nat) (m : Memory) : Prop where
  provider : m.provider = .script ⟨offer, n⟩
  cached : MostRecent offer n m.cached

end Memory

/-! ### Uses -/

def Use.failed (e : Error) : Use → Answer
  | .credential => .credential (.error e)
  | .authenticator _ => .authenticator (.error e)
  | .sign _ _ => .sign (.error e)

namespace Signer
variable {s : Signer} {now : Instant} {m : Memory} {offer : Nat → Offer Credential} {n : Nat}

/-- The answer of a signer that got this for a credential. -/
def answer (s : Signer) (now : Instant) (nonces : NonceSupply) (c : Offer Credential) : Use → Answer
  | .credential => .credential c
  | .authenticator call => .authenticator (c.bind fun c => (Signing.ofCall call c s.region s.algorithm now nonces).1)
  | .sign host call =>
    .sign ((c.bind fun c => (Signing.ofCall call c s.region s.algorithm now nonces).1).bind (s.request host call))

theorem answer_error (nonces : NonceSupply) (e : Error) (u : Use) : s.answer now nonces (.error e) u = u.failed e := by
  cases u <;> rfl

theorem credential_of_fresh (h : ¬ m.Stale now) : s.credential now m = (.ok m.cached, m) := by
  rw [← Memory.any_isValid_eq_false, Bool.not_eq_false] at h
  rw [credential, if_pos h]

theorem credential_of_ask {c : Option Credential} {p : Provider} (h : m.Stale now)
    (ha : m.provider.ask s.env = (.ok c, p)) : s.credential now m = (.ok c, { m with provider := p, cached := c }) := by
  rw [← Memory.any_isValid_eq_false, ← Bool.not_eq_true] at h
  rw [credential, if_neg h, ha]

theorem credential_of_stale (hf : m.Follows offer n) (h : m.Stale now) : (s.credential now m).1 = offer n ∧
    (s.credential now m).2.Follows offer (n + 1) ∧
    ∀ e, offer n = .error e → (s.credential now m).2.cached = m.cached := by
  rw [← Memory.any_isValid_eq_false, ← Bool.not_eq_true] at h
  have hask : m.provider.ask s.env = (offer n, .script ⟨offer, n + 1⟩) := by
    rw [hf.provider]
    rfl
  rw [credential, if_neg h, hask]
  cases hoffer : offer n with
  | error e => exact ⟨rfl, ⟨rfl, hf.cached.of_error hoffer⟩, fun _ _ => rfl⟩
  | ok c =>
    refine ⟨rfl, ⟨rfl, .of_ok hoffer⟩, fun _ he => ?_⟩
    cases he

/-- All that a use does to the provider and to the cache it does by getting its credential. -/
theorem use_eq (s : Signer) (now : Instant) (m : Memory) (u : Use) : ∃ nonces,
    s.use now m u = (s.answer now m.nonces (s.credential now m).1 u, { (s.credential now m).2 with nonces }) := by
  have hsigning : ∀ call, ∃ nonces, (s.signing now call m).2 = { (s.credential now m).2 with nonces } := by
    intro call
    rw [signing]
    rcases s.credential now m with ⟨_ | _, _⟩ <;> exact ⟨_, rfl⟩
  cases u with
  | credential => exact ⟨_, rfl⟩
  | authenticator call =>
    obtain ⟨nonces, hm⟩ := hsigning call
    rw [answer, ← signing_fst]
    exact ⟨nonces, congrArg (Prod.mk _) hm⟩
  | sign host call =>
    obtain ⟨nonces, hm⟩ := hsigning call
    rw [answer, ← signing_fst]
    exact ⟨nonces, congrArg (Prod.mk _) hm⟩

end Signer

/-! ### Sessions -/

namespace Session
variable {σ : Session} {s : Signer} {i n : Nat} {offer : Nat → Offer Credential}

theorem step_use (hs : σ.copies[i]? = some s) (u : Use) : ∃ nonces, σ.step (.use i u) =
    (some (s.answer σ.now σ.memory.nonces (s.credential σ.now σ.memory).1 u),
      { σ with memory := { (s.credential σ.now σ.memory).2 with nonces } }) := by
  obtain ⟨nonces, hu⟩ := s.use_eq σ.now σ.memory u
  rw [step, hs]
  dsimp only
  rw [hu]
  exact ⟨nonces, rfl⟩

theorem step_of_not_use {x : Step} (hx : ∀ i u, x ≠ .use i u) : (σ.step x).2.memory = σ.memory := by
  cases x with
  | use i u => exact absurd rfl (hx i u)
  | _ => rfl

theorem step_stale (h : σ.memory.Follows offer n) (hs : σ.copies[i]? = some s) (hc : σ.memory.Stale σ.now) (u : Use) :
    ∃ τ, σ.step (.use i u) = (some (s.answer σ.now σ.memory.nonces (offer n) u), τ) ∧
      τ.memory.Follows offer (n + 1) ∧ ∀ e, offer n = .error e → τ.memory.cached = σ.memory.cached := by
  obtain ⟨nonces, hstep⟩ := step_use hs u
  obtain ⟨hr, hf, he⟩ := s.credential_of_stale h hc
  rw [hr] at hstep
  exact ⟨_, hstep, ⟨hf.provider, hf.cached⟩, he⟩

theorem step_fresh (h : σ.memory.Follows offer n) (hs : σ.copies[i]? = some s) (hc : ¬ σ.memory.Stale σ.now)
    (u : Use) : ∃ τ, σ.step (.use i u) = (some (s.answer σ.now σ.memory.nonces (.ok σ.memory.cached) u), τ) ∧
      τ.memory.Follows offer n ∧ τ.memory.cached = σ.memory.cached := by
  obtain ⟨nonces, hstep⟩ := step_use hs u
  rw [s.credential_of_fresh hc] at hstep
  exact ⟨_, hstep, ⟨h.provider, h.cached⟩, rfl⟩

theorem step_follows (h : σ.memory.Follows offer n) (x : Step) : ∃ n, (σ.step x).2.memory.Follows offer n := by
  -- Only a use of a copy that is there touches the memory.
  by_cases hx : ∀ i u, x ≠ .use i u
  · rw [step_of_not_use hx]
    exact ⟨n, h⟩
  · obtain ⟨i, u, rfl⟩ : ∃ i u, x = .use i u := by simpa using hx
    cases hs : σ.copies[i]? with
    | none =>
      rw [step, hs]
      exact ⟨n, h⟩
    | some s =>
      by_cases hc : σ.memory.Stale σ.now
      · obtain ⟨τ, hτ, hf, -⟩ := step_stale h hs hc u
        rw [hτ]
        exact ⟨n + 1, hf⟩
      · obtain ⟨τ, hτ, hf, -⟩ := step_fresh h hs hc u
        rw [hτ]
        exact ⟨n, hf⟩

theorem run_follows (h : σ.memory.Follows offer n) (steps : List Step) : ∃ n, (σ.run steps).memory.Follows offer n := by
  induction steps generalizing σ n with
  | nil => exact ⟨n, h⟩
  | cons x steps ih =>
    obtain ⟨n', h'⟩ := step_follows h x
    exact ih h'

/-- In whatever session of a signer: the cache holds the most recent offer that was no error. A use that finds
the cache stale asks once, takes the offer as it is, and passes an error on without touching the cache; any other
use takes what is in the cache, and neither it nor any other step asks. -/
theorem cache_follows_offers (s : Signer) (offer : Nat → Offer Credential) (nonces : NonceSupply) (now : Instant)
    (steps : List Step) : ∃ σ n, (start s (.script ⟨offer, 0⟩) nonces now).run steps = σ ∧
      σ.memory.Follows offer n ∧
      (∀ i t u, σ.copies[i]? = some t → σ.memory.Stale σ.now → ∃ τ,
        σ.step (.use i u) = (some (t.answer σ.now σ.memory.nonces (offer n) u), τ) ∧
        τ.memory.Follows offer (n + 1) ∧
        ∀ e, offer n = .error e → (σ.step (.use i u)).1 = some (u.failed e) ∧ τ.memory.cached = σ.memory.cached) ∧
      (∀ i t u, σ.copies[i]? = some t → ¬ σ.memory.Stale σ.now → ∃ τ,
        σ.step (.use i u) = (some (t.answer σ.now σ.memory.nonces (.ok σ.memory.cached) u), τ) ∧
        τ.memory.Follows offer n ∧ τ.memory.cached = σ.memory.cached) ∧
      ∀ x, (∀ i u, x ≠ .use i u) → (σ.step x).2.memory = σ.memory := by
  have hstart : (start s (.script ⟨offer, 0⟩) nonces now).memory.Follows offer 0 := ⟨rfl, .inl ⟨rfl, nofun⟩⟩
  obtain ⟨n, h⟩ := run_follows hstart steps
  refine ⟨_, n, rfl, h, ?_, ?_, fun x => step_of_not_use⟩
  · intro i t u ht hc
    obtain ⟨τ, hτ, hf, he⟩ := step_stale h ht hc u
    refine ⟨τ, hτ, hf, ?_⟩
    intro e hoffer
    rw [hτ, hoffer, Signer.answer_error]
    exact ⟨rfl, he e hoffer⟩
  · intro i t u ht hc
    exact step_fresh h ht hc u

-- A credential with 100 seconds left is asked for once more, and is good again when the clock is set back.
example : let kept : Credential := { keyId := "id", keySecret := "secret", expires := some ⟨300, 0⟩ }
    ((start { env := .absent, region := "cn-hangzhou" } (.script ⟨fun _ => .ok (some kept), 0⟩) [] ⟨0, 0⟩).run
      [.use 0 .credential, .clone 0, .setTime ⟨200, 0⟩, .use 1 .credential, .setTime ⟨100, 0⟩,
        .use 0 .credential]).memory.provider.calls = 2 := by rfl

end Session

end Callsign
