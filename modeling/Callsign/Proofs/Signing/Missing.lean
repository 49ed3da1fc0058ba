import Callsign.Proofs.Resolver.Fruitless
import Callsign.Proofs.Resolver.Sequential
import Callsign.Proofs.Signing.Cache

/-!
# Nothing happens without a credential

`Located.nothing_without_credential`: a signer whose provider has nothing to offer signs no call, and a resolver
whose client signs with it sends no request and remembers nothing. In both styles the signature is what asks for
the credential, before anything else of the request can fail (`Signer.sign_of_missing`). So every reply that the
resolver gets is one and the same error, which is not remembered (`Resolver.Fruitless`). Look-ups that are run one
after the other all come to their end so (`Located.Idle.resolveAll_tasks`).
-/

namespace Callsign
open Time (Instant)

/-! ### Signing -/

/-- The error of a call that has no credential to be signed with. -/
def Style.missing : Style → Error
  | rpc => .ofProblem (.noCredential "rpc")
  | roa => .ofProblem (.noCredential "roa")

theorem Style.missing_kind (style : Style) : style.missing.kind = .credentialMissing := by
  cases style <;> rfl

theorem Style.missing_plain (style : Style) : style.missing.Plain := by
  cases style <;> exact ⟨rfl, rfl⟩

namespace Provider
variable {env : Env} {p : Provider}

/-- The provider after it has been asked so many times. -/
def after (env : Env) : Nat → Provider → Provider
  | 0, p => p
  | n + 1, p => after env n (p.ask env).2

/-- However often it is asked, the provider has nothing to offer. -/
def Barren (env : Env) (p : Provider) : Prop := ∀ n, ((p.after env n).ask env).1 = .ok none

theorem Barren.ask (h : p.Barren env) : ∃ q, p.ask env = (.ok none, q) ∧ q.Barren env :=
  ⟨(p.ask env).2, Prod.ext (h 0) rfl, fun n => h (n + 1)⟩

theorem after_environment (env : Env) (n : Nat) : after env n .environment = .environment := by
  induction n with
  | zero => rfl
  | succ n ih => exact ih

/-- Without variables there is no credential among them. -/
theorem environment_barren : environment.Barren .absent := by
  intro n
  rw [after_environment]
  rfl

end Provider

namespace Signer
variable {s : Signer} {now : Instant} {m : Memory} {p : Provider}

/-- In RPC style a missing credential shows when the query is made, in ROA style when the call is bound. -/
theorem ofCall_none (s : Signer) (host : String) (call : Call) (now : Instant) (nonces : NonceSupply) :
    (Signing.ofCall call none s.region s.algorithm now nonces).1.bind (s.request host call) =
      .error call.style.missing := by
  cases h : call.style with
  | rpc =>
    -- The query is the first thing that the request is made of.
    simp only [Signing.ofCall, h]
    rfl
  | roa =>
    simp only [Signing.ofCall, h]
    rfl

theorem sign_of_missing (h : m.Stale now) (ha : m.provider.ask s.env = (.ok none, p)) (host : String) (call : Call) :
    ∃ nonces, s.sign now host call m =
      (.error call.style.missing, { m with provider := p, cached := none, nonces }) := by
  refine ⟨(Signing.ofCall call none s.region s.algorithm now m.nonces).2, ?_⟩
  rw [sign, signing, credential_of_ask h ha]
  exact congrArg (·, _) (s.ofCall_none host call now m.nonces)

end Signer

/-! ### Asking the location service -/

/-- The provider has nothing to offer, and the cache is empty or as it was at first. -/
structure Memory.Bare (env : Env) (m₀ m : Memory) : Prop where
  provider : m.provider.Barren env
  cached : m.cached = none ∨ m.cached = m₀.cached

variable {s : Signer} {now : Instant} {m₀ : Memory} {http : Http.Client} {kept : EndpointCache}

theorem Memory.Bare.stale {env : Env} {m : Memory} (h : m₀.Bare env m) (hs : m₀.Stale now) : m.Stale now := by
  rcases h.cached with hc | hc <;> rw [Stale, hc]
  · nofun
  · exact hs

theorem LocationClient.describe_of_bare {c : LocationClient} (q : Inquiry) (h : m₀.Bare s.env c.memory)
    (hs : m₀.Stale now) : ∃ memory, describe s now q c = (.error Style.rpc.missing, { c with memory }) ∧
      m₀.Bare s.env memory := by
  obtain ⟨p, ha, hp⟩ := h.provider.ask
  obtain ⟨nonces, hsign⟩ := Signer.sign_of_missing (h.stale hs) ha q.host q.call
  refine ⟨{ c.memory with provider := p, cached := none, nonces }, ?_, hp, .inl rfl⟩
  rw [describe, hsign]
  rfl

namespace Located
variable {x : Located}

/-- Nothing has been sent, and nothing remembered. -/
structure Idle (s : Signer) (m₀ : Memory) (http : Http.Client) (kept : EndpointCache) (x : Located) : Prop where
  flights : x.resolver.FlightsOk
  fruitless : x.resolver.Fruitless Style.rpc.missing kept
  http : x.client.http = http
  memory : m₀.Bare s.env x.client.memory

theorem Idle.step (h : x.Idle s m₀ http kept) (ev : Event) (hev : ∀ c now, ev = .describe c now → m₀.Stale now) :
    (x.step s ev).Idle s m₀ http kept := by
  have event : ∀ e : Resolver.Event, (∀ c r, e = .reply c r → r = .error Style.rpc.missing) →
      (x.resolver.step e).Fruitless Style.rpc.missing kept := fun e he =>
    h.fruitless.step (Style.missing_plain .rpc) h.flights (h.flights.happens e) he
  cases ev with
  | start l => exact ⟨h.flights.step (.start l), event (.start l) nofun, h.http, h.memory⟩
  | poll t => exact ⟨h.flights.step (.poll t), event (.poll t) nofun, h.http, h.memory⟩
  | drop t => exact ⟨h.flights.step (.drop t), event (.drop t) nofun, h.http, h.memory⟩
  | describe c now =>
    rw [Located.step]
    split
    · next l inquiry hq =>
      obtain ⟨memory, hd, hm⟩ := LocationClient.describe_of_bare inquiry h.memory (hev c now rfl)
      rw [hd]
      refine ⟨h.flights.step (.reply c _), event (.reply c (.error Style.rpc.missing)) ?_, h.http, hm⟩
      rintro _ _ he
      exact (Resolver.Event.reply.inj he).2.symm
    · exact h

theorem Idle.run (h : x.Idle s m₀ http kept) (es : List Event)
    (hes : ∀ c now, .describe c now ∈ es → m₀.Stale now) : (x.run s es).Idle s m₀ http kept := by
  induction es generalizing x with
  | nil => exact h
  | cons ev es ih =>
    refine ih (h.step ev fun c now he => hes c now ?_) fun c now he => hes c now (List.mem_cons_of_mem _ he)
    exact he ▸ List.mem_cons_self

/-! ### One look-up after the other -/

theorem Idle.resolve (h : x.Idle s m₀ http kept) (hs : m₀.Stale now) (l : Lookup) :
    (x.resolve s now l).Idle s m₀ http kept := by
  obtain ⟨es, he, hes⟩ := resolve_eq_run h.flights s now l
  rw [he]
  exact h.run es fun c now' hm => hes c now' hm ▸ hs

theorem Idle.resolveAll (h : x.Idle s m₀ http kept) (ls : List (Instant × Lookup))
    (hls : ∀ q ∈ ls, m₀.Stale q.1) : (x.resolveAll s ls).Idle s m₀ http kept := by
  induction ls generalizing x with
  | nil => exact h
  | cons q ls ih =>
    obtain ⟨hq, hls⟩ := List.forall_mem_cons.1 hls
    exact ih (h.resolve hq q.2) hls

/-- Every look-up comes to what the cache says to it, or to the error. -/
theorem Idle.resolveAll_tasks (h : x.Idle s m₀ http kept) (hx : x.resolver.Quiet) (ls : List (Instant × Lookup))
    (hls : ∀ q ∈ ls, m₀.Stale q.1) : (x.resolveAll s ls).resolver.tasks =
      x.resolver.tasks ++ ls.map fun q => ⟨q.2, .finished (kept.verdict Style.rpc.missing q.2)⟩ := by
  induction ls generalizing x with
  | nil => exact (List.append_nil _).symm
  | cons q ls ih =>
    obtain ⟨hq, hls⟩ := List.forall_mem_cons.1 hls
    obtain ⟨r, hr⟩ := resolve_tasks h.flights hx s q.1 q.2
    have hi := h.resolve hq q.2
    obtain rfl : r = kept.verdict Style.rpc.missing q.2 :=
      hi.fruitless.tasks x.resolver.tasks.length q.2 (.finished r) (by rw [hr]; exact List.getElem?_concat_length)
    show ((x.resolve s q.1 q.2).resolveAll s ls).resolver.tasks = _
    rw [ih hi (hx.snoc hr) hls, hr, List.append_assoc]
    rfl

/-- A signer without a credential that is still good, and whose provider has none to offer, signs no call. If the
provider never has one, then whatever happens to a resolver whose client signs with it, nothing is sent and nothing
is remembered; a look-up comes to what the cache has for it, or to the error of a missing credential. Each one does
come to its end when they are run one after the other. -/
theorem nothing_without_credential (s : Signer) :
    (∀ (m : Memory) (now : Instant) (host : String) (call : Call), m.Stale now →
      (m.provider.ask s.env).1 = .ok none →
      ∃ e m', s.sign now host call m = (.error e, m') ∧ e.kind = .credentialMissing ∧ m'.cached = none) ∧
    ∀ (m : Memory) (host : String) (cache : EndpointCache) (http : Http.Client), m.provider.Barren s.env →
      let x₀ : Located := ⟨{ host, cache }, ⟨m, http⟩⟩
      ∃ e, e.kind = .credentialMissing ∧
        (∀ es : List Event, (∀ c now, .describe c now ∈ es → m.Stale now) →
          (x₀.run s es).client.http = http ∧ (x₀.run s es).resolver.cache = cache ∧
          ∀ (t : Nat) (l : Lookup) (r : Except Error Resolution),
            (x₀.run s es).resolver.tasks[t]? = some ⟨l, .finished r⟩ → r = cache.verdict e l) ∧
        ∀ ls : List (Instant × Lookup), (∀ q ∈ ls, m.Stale q.1) →
          (x₀.resolveAll s ls).client.http = http ∧ (x₀.resolveAll s ls).resolver.cache = cache ∧
          (x₀.resolveAll s ls).resolver.tasks = ls.map fun q => ⟨q.2, .finished (cache.verdict e q.2)⟩ := by
  refine ⟨fun m now host call hs ha => ?_, fun m host cache http hm => ?_⟩
  · obtain ⟨nonces, h⟩ := Signer.sign_of_missing hs (Prod.ext ha rfl) host call
    exact ⟨_, _, h, call.style.missing_kind, rfl⟩
  intro x₀
  have h₀ : x₀.Idle s m http cache := ⟨.initial host cache, .initial host _ cache, rfl, hm, .inr rfl⟩
  refine ⟨_, Style.rpc.missing_kind, fun es hes => ?_, fun ls hls => ?_⟩
  · have h := h₀.run es hes
    exact ⟨h.http, h.fruitless.cache, fun t l r => h.fruitless.tasks t l (.finished r)⟩
  · have h := h₀.resolveAll ls hls
    exact ⟨h.http, h.fruitless.cache, h₀.resolveAll_tasks (fun _ => nofun) ls hls⟩

/-- A signer in an environment without variables. -/
def bareSigner : Signer := { env := .absent, region := "cn-hangzhou" }

def bareLookup : Lookup := { product := "Ecs", region := "cn-hangzhou", code := some "ecs" }

/-- A look-up that waits for another one while the question is put. -/
def bareRun : List Event :=
  [.start bareLookup, .poll 0, .start bareLookup, .poll 1, .describe 0 ⟨0, 0⟩, .poll 0, .poll 1]

def bareLocated : Located := ⟨{}, ⟨{ provider := .environment }, .present (fun _ => .error .formatting) []⟩⟩

/-- The call would fail for its version and its host as well. -/
theorem nothing_without_credential_bare :
    (∃ e m', bareSigner.sign ⟨0, 0⟩ "no host" (Call.roa "CS" "\n" "Act" "") { provider := .environment } =
      (.error e, m') ∧ e.kind = .credentialMissing) ∧
    (bareLocated.run bareSigner bareRun).client.http.sent = [] ∧
    (bareLocated.run bareSigner bareRun).resolver.cache.size = 0 ∧
    ∃ e, e.kind = .credentialMissing ∧ (bareLocated.run bareSigner bareRun).resolver.result? 1 = some (.error e) := by
  have hstale : ∀ now, Memory.Stale { provider := .environment } now := fun _ => nofun
  obtain ⟨hsign, hrun⟩ := nothing_without_credential bareSigner
  obtain ⟨e, he, hevents, -⟩ := hrun { provider := .environment } publicLocationEndpoint {}
    (.present (fun _ => .error .formatting) []) Provider.environment_barren
  obtain ⟨hhttp, hcache, hresult⟩ := hevents bareRun fun _ _ _ => hstale _
  obtain ⟨e', m', h, hkind, -⟩ := hsign _ ⟨0, 0⟩ "no host" (Call.roa "CS" "\n" "Act" "") (hstale _) rfl
  obtain ⟨r, hr⟩ : ∃ r, (bareLocated.run bareSigner bareRun).resolver.tasks[1]? = some ⟨bareLookup, .finished r⟩ :=
    ⟨_, rfl⟩
  refine ⟨⟨e', m', h, hkind⟩, congrArg Http.Client.sent hhttp, congrArg EndpointCache.size hcache, e, he, ?_⟩
  obtain rfl := hresult 1 bareLookup r hr
  rw [Resolver.result?, hr]
  rfl

end Located

end Callsign
