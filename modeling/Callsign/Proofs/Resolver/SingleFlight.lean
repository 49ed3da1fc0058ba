import Callsign.Proofs.Resolver.Flights

/-!
# One question at a time for each key

`single_flight`: whatever has happened to a resolver, at most one question about a key is out, the
register holds the key as long as a task leads for it and no longer, and it is empty when no task is
live. A question that is out has a leader (`FlightsOk.out`), and all leaders for a key are registered
for it with the one flight that the register can hold.
-/

namespace Callsign.Resolver
variable {σ : Resolver} {c d : Nat} {key : EndpointKey}

/-- The call asks for the key, and is out. -/
def OutFor (σ : Resolver) (c : Nat) (key : EndpointKey) : Prop :=
  ∃ q, σ.calls[c]? = some q ∧ q.status.isOut = true ∧ q.key = key

/-- The task leads for the key: it has put its question, and has neither ended nor been dropped. -/
def LeadsFor (σ : Resolver) (t : Nat) (key : EndpointKey) : Prop :=
  ∃ l f c code, σ.tasks[t]? = some ⟨l, .leading f c⟩ ∧ l.code? = some code ∧ l.key code = key

namespace FlightsOk

/-- A question that is out is its leader's, and about its leader's key. -/
theorem leader_of_out (h : FlightsOk σ) (hc : σ.OutFor c key) :
    ∃ (t : Nat) (l : Lookup) (f : Nat) (code : String),
      σ.tasks[t]? = some ⟨l, .leading f c⟩ ∧ l.code? = some code ∧ l.key code = key := by
  obtain ⟨⟨l, i, st⟩, hq, ho, rfl⟩ := hc
  obtain ⟨t, f, ht⟩ := h.out c _ hq ho
  obtain ⟨code, hc, -, -, st', hq', -⟩ := h.leads t l f c ht
  obtain ⟨-, rfl, -⟩ := LocationCall.mk.inj (Option.some.inj (hq.symm.trans hq'))
  exact ⟨t, l, f, code, ht, hc, rfl⟩

theorem outFor_unique (h : FlightsOk σ) (hc : σ.OutFor c key) (hd : σ.OutFor d key) : c = d := by
  obtain ⟨t, l, f, code, ht, hlc, hk⟩ := h.leader_of_out hc
  obtain ⟨u, m, v, code', hu, hmc, hk'⟩ := h.leader_of_out hd
  obtain ⟨rfl, -⟩ := h.leader_unique ht hu hlc hmc (hk.trans hk'.symm)
  exact (Stage.leading.inj (Task.mk.inj (Option.some.inj (ht.symm.trans hu))).2).2

theorem registered_iff (h : FlightsOk σ) (key : EndpointKey) :
    (σ.inflight.get? key.text).isSome ↔ ∃ t, σ.LeadsFor t key := by
  constructor
  · intro hk
    obtain ⟨f, hf⟩ := Option.isSome_iff_exists.1 hk
    obtain ⟨t, l, c, code, ht, hc, he⟩ := h.registered key.text f hf
    exact ⟨t, l, f, c, code, ht, hc, congrArg EndpointKey.mk he⟩
  · rintro ⟨t, l, f, c, code, ht, hc, rfl⟩
    rw [h.registered_of_leads ht hc]
    rfl

theorem inflight_empty (h : FlightsOk σ) (hl : ∀ t, σ.isLive t = false) : σ.inflight = .empty := by
  refine Table.ext_get? fun k => ?_
  cases hk : σ.inflight.get? k with
  | none => rfl
  | some f =>
    obtain ⟨t, l, c, -, ht, -⟩ := h.registered k f hk
    have := hl t
    simp [isLive, ht, Stage.isLive] at this

end FlightsOk

/-- Whatever has been started, advanced, dropped and replied to: at most one question about a key is
out, a key is registered exactly while a live task leads for it, and with no live task none is. -/
theorem single_flight (host : String) (cache : EndpointCache) (es : List Event) (key : EndpointKey) :
    (∀ c d, (run { host, cache } es).OutFor c key → (run { host, cache } es).OutFor d key → c = d) ∧
    (((run { host, cache } es).inflight.get? key.text).isSome ↔ ∃ t, (run { host, cache } es).LeadsFor t key) ∧
    ((∀ t, (run { host, cache } es).isLive t = false) → (run { host, cache } es).inflight = .empty) := by
  have h : FlightsOk (run { host, cache } es) := (FlightsOk.initial host cache).run es
  exact ⟨fun _ _ => h.outFor_unique, h.registered_iff key, h.inflight_empty⟩

end Callsign.Resolver
