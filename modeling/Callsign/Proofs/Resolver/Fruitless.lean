import Callsign.Proofs.Resolver.Stability

/-!
# A resolver that gets nothing but one error

`Fruitless e c σ`: all replies that a resolver with the cache `c` got are the error `e`, and `e` is not one that is
remembered. Then nothing that happens to it changes the cache (`Fruitless.step`), and what a look-up comes to is
what the cache says to it, or else the error (`EndpointCache.verdict`), for its leader and for all that wait.
-/

namespace Callsign

namespace EndpointCache

/-- What a look-up comes to without an answer of the location service: what the cache has for it, or the error. -/
def verdict (c : EndpointCache) (e : Error) (l : Lookup) : Except Error Resolution :=
  match l.code? with
  | none => .ok .skipped
  | some code =>
    if c.rejects l then .ok .notFound
    else
      match c.lookup (l.key code) with
      | some r => .ok r
      | none => .error e

/-- The cache has nothing for the look-up. -/
def Lacks (c : EndpointCache) (l : Lookup) : Prop :=
  ∃ code, l.code? = some code ∧ c.rejects l = false ∧ c.lookup (l.key code) = none

variable {c : EndpointCache} {e : Error} {l : Lookup}

theorem Lacks.verdict_eq (h : c.Lacks l) (e : Error) : c.verdict e l = .error e := by
  obtain ⟨code, hc, hr, hk⟩ := h
  simp only [verdict, hc, hr, hk, Bool.false_eq_true, ↓reduceIte]

theorem conclude_error (h : e.service? = none) (key : EndpointKey) : c.conclude l key (.error e) = (.error e, c) := by
  simp [conclude, h]

end EndpointCache

/-- An error that is not remembered, and goes through a flight as it is. -/
structure Error.Plain (e : Error) : Prop where
  service : e.service? = none
  shared : (SharedError.ofError e).toError = e

namespace Resolver
variable {σ σ' : Resolver} {t f c : Nat} {l : Lookup} {s g : Stage} {e : Error} {ev : Event} {q : LocationCall}
  {r : Reply} {o : Outcome} {kept : EndpointCache}

/-- What a task that stands at this stage has come to. -/
def ComesTo (kept : EndpointCache) (e : Error) (l : Lookup) : Stage → Prop
  | .leading .. | .waiting _ => kept.Lacks l
  | .finished r => r = kept.verdict e l
  | .fresh | .dropped => True

/-- All replies are the error, and so is whatever did not come from the cache. -/
structure Fruitless (e : Error) (kept : EndpointCache) (σ : Resolver) : Prop where
  cache : σ.cache = kept
  replies : ∀ (c : Nat) (q : LocationCall) (r : Reply), σ.calls[c]? = some q → q.status = .answered r → r = .error e
  outcomes : ∀ (f : Nat) (o : Outcome), σ.flights[f]? = some (.landed o) → o = .error (.ofError e)
  tasks : ∀ (t : Nat) (l : Lookup) (s : Stage), σ.tasks[t]? = some ⟨l, s⟩ → ComesTo kept e l s

theorem Fruitless.initial (host : String) (e : Error) (cache : EndpointCache) : Fruitless e cache { host, cache } := by
  refine ⟨rfl, ?_, ?_, ?_⟩ <;> intros <;> simp_all

/-- A reply that is there after a step was there before, or came in the step. -/
theorem Happens.answered (he : Happens σ ev σ') (hq : σ'.calls[c]? = some q)
    (hs : q.status = .answered r) : σ.calls[c]? = some q ∨ ev = .reply c r := by
  -- Of a call whose status is set, this is the status.
  have set : ∀ {d : Nat} {st : CallStatus}, (σ.setCall d st).calls[c]? = some q →
      σ.calls[c]? = some q ∨ c = d ∧ st = .answered r := by
    intro d st hq
    rw [calls_setCall] at hq
    split at hq
    · obtain ⟨p, -, rfl⟩ := Option.map_eq_some_iff.1 hq
      exact .inr ⟨‹_›, hs⟩
    · exact .inl hq
  cases he with
  | start | leave | pollNone | dropNone | replyNone => exact .inl hq
  | answer =>
    refine (set hq).imp_right ?_
    rintro ⟨rfl, hst⟩
    rw [CallStatus.answered.inj hst]
  | cancel =>
    rw [depart_calls] at hq
    exact (set hq).imp_right fun h => nomatch h.2
  | advance ht ha =>
    cases ha with
    | skip | refuse | known | join | share | wait | idle => exact .inl hq
    | ask =>
      rw [ask_calls_eq, List.getElem?_append] at hq
      split at hq
      · exact .inl hq
      · obtain ⟨_, rfl⟩ := List.getElem?_eq_some_iff.1 hq
        simp at hs
    | land =>
      rw [land_eq, depart_calls] at hq
      exact (set hq).imp_right fun h => nomatch h.2

/-- A flight that has landed after a step had landed before, or its leader saw a reply in the step. -/
theorem Happens.landed (he : Happens σ ev σ') (h : FlightsOk σ) (hf : σ'.flights[f]? = some (.landed o)) :
    σ.flights[f]? = some (.landed o) ∨ ∃ (c : Nat) (q : LocationCall) (r : Reply) (l : Lookup) (key : EndpointKey),
      σ.calls[c]? = some q ∧ q.status = .answered r ∧ o = (σ.cache.conclude l key r).1.mapError .ofError := by
  cases he with
  | start | leave | answer | pollNone | dropNone | replyNone => exact .inl hf
  | cancel ht =>
    rw [depart_flights f (h.flight_lt ht)] at hf
    split at hf
    · cases hf
    · exact .inl hf
  | advance ht ha =>
    cases ha with
    | skip | refuse | known | join | share | wait | idle => exact .inl hf
    | ask =>
      have hf' : (σ.flights ++ [.opened])[f]? = some (.landed o) := hf
      rw [List.getElem?_append] at hf'
      split at hf'
      · exact .inl hf'
      · obtain ⟨_, he⟩ := List.getElem?_eq_some_iff.1 hf'
        simp at he
    | @land v c code q reply hc hq hp =>
      rw [land_flights f (h.flight_lt ht)] at hf
      split at hf
      · exact .inr ⟨c, q, reply, _, _, hq, hp, (Flight.landed.inj (Option.some.inj hf)).symm⟩
      · exact .inl hf

theorem Advance.comesTo (ha : Advance σ t l s σ') (hf : Fruitless e kept σ) (hp : e.Plain)
    (ht : σ.tasks[t]? = some ⟨l, s⟩) (hu : σ'.tasks[t]? = some ⟨l, g⟩) : ComesTo kept e l g := by
  have hs : ComesTo kept e l s := hf.tasks t l s ht
  obtain rfl := hf.cache
  cases ha with
  | skip hc =>
    obtain rfl := stage_eq hu (tasks_setStage_self ht _)
    simp only [ComesTo, EndpointCache.verdict, hc]
  | refuse _ hc hr =>
    obtain rfl := stage_eq hu (tasks_setStage_self ht _)
    simp only [ComesTo, EndpointCache.verdict, hc, hr, ↓reduceIte]
  | known _ hc hr hk =>
    obtain rfl := stage_eq hu (tasks_setStage_self ht _)
    simp only [ComesTo, EndpointCache.verdict, hc, hr, hk, Bool.false_eq_true, ↓reduceIte]
  | join _ hc hr hk =>
    obtain rfl := stage_eq hu (tasks_setStage_self ht _)
    exact ⟨_, hc, hr, hk⟩
  | ask _ hc hr hk =>
    obtain rfl := stage_eq hu (ask_tasks_self ht)
    exact ⟨_, hc, hr, hk⟩
  | wait | idle =>
    obtain rfl := stage_eq hu ht
    exact hs
  | share ho =>
    obtain rfl := stage_eq hu (tasks_setStage_self ht _)
    obtain rfl := hf.outcomes _ _ ho
    show Except.error _ = _
    rw [hp.shared, EndpointCache.Lacks.verdict_eq hs e]
  | land _ hq hr =>
    obtain rfl := stage_eq hu (land_tasks_self ht _ _)
    obtain rfl := hf.replies _ _ _ hq hr
    rw [EndpointCache.conclude_error hp.service]
    exact (EndpointCache.Lacks.verdict_eq hs e).symm

theorem Fruitless.cache_step (hf : Fruitless e kept σ) (hp : e.Plain) (he : Happens σ ev σ') : σ'.cache = kept := by
  cases he with
  | start | leave | answer | pollNone | dropNone | replyNone => exact hf.cache
  | cancel => exact depart_cache.trans hf.cache
  | advance _ ha =>
    cases ha with
    | skip | refuse | known | join | ask | share | wait | idle => exact hf.cache
    | land _ hq hr =>
      obtain rfl := hf.replies _ _ _ hq hr
      rw [land_eq, depart_cache, EndpointCache.conclude_error hp.service]
      exact hf.cache

theorem Fruitless.step (hf : Fruitless e kept σ) (hp : e.Plain) (h : FlightsOk σ) (he : Happens σ ev σ')
    (hev : ∀ c r, ev = .reply c r → r = .error e) : Fruitless e kept σ' := by
  refine ⟨hf.cache_step hp he, fun c q r hq hs => ?_, fun f o ho => ?_, fun t l g hu => ?_⟩
  · exact (he.answered hq hs).elim (fun hq => hf.replies c q r hq hs) (hev c r)
  · obtain ho | ⟨c, q, r, l, key, hq, hr, rfl⟩ := he.landed h ho
    · exact hf.outcomes f o ho
    · obtain rfl := hf.replies c q r hq hr
      rw [EndpointCache.conclude_error hp.service]
      rfl
  · rcases he.fate_of_task hu with rfl | ⟨s, ht, hfate⟩
    · trivial
    cases hfate with
    | keeps hk =>
      obtain rfl := stage_eq hu hk
      exact hf.tasks t l g ht
    | advances ha => exact ha.comesTo hf hp ht hu
    | leaves =>
      obtain rfl := stage_eq hu (tasks_setStage_self ht _)
      trivial
    | cancels =>
      obtain rfl := stage_eq hu (depart_tasks_self ht)
      trivial

end Resolver

end Callsign
