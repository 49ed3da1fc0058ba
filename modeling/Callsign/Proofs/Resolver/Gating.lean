import Callsign.Proofs.Resolver.History
import Callsign.Proofs.Resolver.SingleFlight

/-!
# What is remembered is not asked again

`questions_gated`: a question is put only for a look-up with a code whose product and region have not been
rejected and whose key is unknown. So no key has two questions that left something in the memory, and a code
that was rejected is in no later question.

`Origin` says where a question comes from over one step: it was there before, or was put in the step, and then
nothing that is remembered would have answered it (`Allowed`) and no task led for its key. `Spent` is what this
leaves true of the older of two questions about one key.
-/

namespace Callsign

theorem Lookup.code?_eq_some {l : Lookup} {code : String} (h : l.code? = some code) :
    l.code = some code ∧ code ≠ "" := by
  obtain ⟨hc, hne⟩ := Option.filter_eq_some_iff.1 h
  refine ⟨hc, ?_⟩
  rintro rfl
  cases hne

namespace EndpointCache
variable {c : EndpointCache} {l : Lookup}

theorem isProductValid_congr {a b : String} (h : Text.lowercase a = Text.lowercase b) :
    c.isProductValid a = c.isProductValid b := by
  rw [isProductValid, isProductValid, CodeSet.has, CodeSet.has, h]

theorem isRegionValid_congr {a b : String} (h : Text.lowercase a = Text.lowercase b) :
    c.isRegionValid a = c.isRegionValid b := by
  rw [isRegionValid, isRegionValid, CodeSet.has, CodeSet.has, h]

theorem rejects_eq_false (h : c.rejects l = false) :
    c.isProductValid l.product = true ∧ c.isRegionValid l.region = true := by
  simpa [rejects] using h

end EndpointCache

/-- The reply is one that is remembered. -/
def Remembered (r : Reply) : Prop := Succeeds r ∨ RejectsRegion r ∨ RejectsProduct r

theorem Remembered.leaves {r : Reply} (h : Remembered r) (l : Lookup) : ∃ res, Leaves l r res := by
  rcases h with ⟨listing, rfl⟩ | h
  · exact ⟨_, leaves_ok_iff.2 rfl⟩
  · exact ⟨.notFound, .rejected h⟩

namespace Resolver
variable {σ σ' : Resolver} {c d : Nat} {e : Event} {p q : LocationCall} {r : Reply}

/-- The question is the one for its look-up, and nothing that is remembered would have answered it. -/
structure Allowed (σ : Resolver) (q : LocationCall) : Prop where
  code : q.lookup.code = some q.inquiry.code
  nonempty : q.inquiry.code ≠ ""
  inquiry : q.inquiry = σ.inquiry q.lookup q.inquiry.code
  product : ∀ product, Text.lowercase product = Text.lowercase q.lookup.product →
    σ.cache.isProductValid product = true
  region : ∀ region, Text.lowercase region = Text.lowercase q.lookup.region →
    σ.cache.isRegionValid region = true
  unknown : σ.cache.lookup q.key = none

/-- Where a question comes from that is there after a step. -/
inductive Origin (σ : Resolver) (c : Nat) (q : LocationCall) : Prop
  | stays (h : σ.calls[c]? = some q)
  | moves {p : LocationCall} (h : σ.calls[c]? = some p) (ho : p.status.isOut = true)
      (hl : p.lookup = q.lookup) (hi : p.inquiry = q.inquiry)
  | put (h : c = σ.calls.length) (ha : Allowed σ q) (hf : σ.inflight.get? q.key.text = none)

theorem allowed_of_ask {l : Lookup} {code : String} (hc : l.code? = some code)
    (hr : σ.cache.rejects l = false) (hk : σ.cache.lookup (l.key code) = none) :
    Allowed σ ⟨l, σ.inquiry l code, .pending⟩ := by
  obtain ⟨hcode, hne⟩ := Lookup.code?_eq_some hc
  obtain ⟨hp, hg⟩ := EndpointCache.rejects_eq_false hr
  exact ⟨hcode, hne, rfl, fun _ he => (EndpointCache.isProductValid_congr he).trans hp,
    fun _ he => (EndpointCache.isRegionValid_congr he).trans hg, hk⟩

theorem origin_of_setCall {st : CallStatus} {d : Nat} (hp : σ.calls[d]? = some p) (ho : p.status.isOut = true)
    (hq : (σ.setCall d st).calls[c]? = some q) : Origin σ c q := by
  rw [calls_setCall] at hq
  split at hq
  · subst c
    rw [hp] at hq
    obtain rfl := Option.some.inj hq
    exact .moves hp ho rfl rfl
  · exact .stays hq

theorem Happens.origin (he : Happens σ e σ') (h : FlightsOk σ) (hq : σ'.calls[c]? = some q) : Origin σ c q := by
  cases he with
  | start | leave | pollNone | dropNone | replyNone => exact .stays hq
  | answer hp hs => exact origin_of_setCall hp (by rw [hs]; rfl) hq
  | @cancel t f d l code ht hc =>
    obtain ⟨_, -, -, -, st, hp, ho⟩ := h.leads t l f d ht
    rw [depart_calls] at hq
    exact origin_of_setCall hp ho hq
  | @advance t l s _ ht ha =>
    cases ha with
    | skip | refuse | known | join | share | wait | idle => exact .stays hq
    | land hc hp hs =>
      rw [land_eq, depart_calls] at hq
      exact origin_of_setCall hp (by rw [hs]; rfl) hq
    | ask hs hc hr hk hf =>
      rw [ask_calls_eq, List.getElem?_append] at hq
      split at hq
      · exact .stays hq
      · obtain ⟨hlt, rfl⟩ := List.getElem?_eq_some_iff.1 hq
        simp only [List.length_singleton] at hlt
        rw [List.getElem_singleton]
        exact .put (by omega) (allowed_of_ask hc hr hk) hf

theorem Origin.lookup_eq (ho : Origin σ c q) (h : σ.calls[c]? = some p) :
    p.lookup = q.lookup ∧ p.key = q.key := by
  cases ho with
  | stays hq =>
    obtain rfl := Option.some.inj (h.symm.trans hq)
    exact ⟨rfl, rfl⟩
  | moves hq _ hl hi =>
    obtain rfl := Option.some.inj (h.symm.trans hq)
    exact ⟨hl, by rw [LocationCall.key, hl, hi]; rfl⟩
  | put hc => exact absurd (List.getElem?_eq_some_iff.1 h).1 (by omega)

/-- A question that is not there before a step is put in it. -/
theorem Origin.allowed (ho : Origin σ c q) (h : σ.calls[c]? = none) : Allowed σ q := by
  cases ho with
  | stays hq | moves hq => rw [h] at hq; cases hq
  | put _ ha => exact ha

/-! ### Two questions about one key -/

/-- Of two questions about one key the older is over, and nothing is remembered of its reply. -/
def Spent (σ : Resolver) : Prop :=
  ∀ (c d : Nat) (p q : LocationCall), c < d → σ.calls[c]? = some p → σ.calls[d]? = some q → p.key = q.key →
    p.status.isOut = false ∧ ∀ r, p.status = .concluded r → ¬ Remembered r

/-- A question about a key that is free and unknown finds the older ones over. -/
theorem over_of_free (h : FlightsOk σ) (hm : Remembers σ) (hf : σ.inflight.get? q.key.text = none)
    (hu : σ.cache.lookup q.key = none) (hp : σ.calls[c]? = some p) (hk : p.key = q.key) :
    p.status.isOut = false ∧ ∀ r, p.status = .concluded r → ¬ Remembered r := by
  refine ⟨Bool.eq_false_iff.2 fun ho => ?_, fun r hs hr => ?_⟩
  · have hout : σ.OutFor c p.key := ⟨p, hp, ho, rfl⟩
    obtain ⟨t, l, f, code, ht, hc, he⟩ := h.leader_of_out hout
    have hin := h.registered_of_leads ht hc
    rw [he, hk, hf] at hin
    cases hin
  · obtain ⟨res, hl⟩ := hr.leaves p.lookup
    have hsome := (hm.entries q.key res).2 ⟨p, r, ⟨List.mem_of_getElem? hp, hs⟩, hk, hl⟩
    rw [hu] at hsome
    cases hsome

theorem Spent.step (hs : Spent σ) (h : FlightsOk σ) (hm : Remembers σ) (he : Happens σ e σ') : Spent σ' := by
  intro c d p q hcd hp hq hkey
  have hlen : ∀ {b : Nat} {x : LocationCall}, σ.calls[b]? = some x → b < σ.calls.length :=
    fun hx => (List.getElem?_eq_some_iff.1 hx).1
  cases he.origin h hq with
  | put hd ha hf =>
    -- the younger question is new, so the older one was there before
    cases he.origin h hp with
    | stays hp' => exact over_of_free h hm hf ha.unknown hp' hkey
    | moves hp' ho hl hi =>
      have hk : _ = q.key := ((he.origin h hp).lookup_eq hp').2.trans hkey
      have hover := (over_of_free h hm hf ha.unknown hp' hk).1
      rw [ho] at hover
      cases hover
    | put hc => omega
  | stays hq' | moves hq' =>
    have hkq := ((he.origin h hq).lookup_eq hq').2
    cases he.origin h hp with
    | stays hp' => exact hs c d p _ hcd hp' hq' (hkey.trans hkq.symm)
    | moves hp' ho =>
      have hkp := ((he.origin h hp).lookup_eq hp').2
      have hover := (hs c d _ _ hcd hp' hq' (hkp.trans (hkey.trans hkq.symm))).1
      rw [ho] at hover
      cases hover
    | put hc => have := hlen hq'; omega

theorem Spent.run (hs : Spent σ) (h : FlightsOk σ) (hm : Remembers σ) (es : List Event) : Spent (σ.run es) :=
  hm.run_induction (P := Spent) h hs (fun h hm hs he => hs.step h hm he) es

theorem Spent.unique (hs : Spent σ) {r' : Reply} (hc : σ.calls[c]? = some p) (hd : σ.calls[d]? = some q)
    (hk : p.key = q.key) (hp : p.status = .concluded r) (hq : q.status = .concluded r') (hr : Remembered r)
    (hr' : Remembered r') : c = d := by
  rcases Nat.lt_trichotomy c d with hlt | heq | hgt
  · exact absurd hr ((hs c d p q hlt hc hd hk).2 r hp)
  · exact heq
  · exact absurd hr' ((hs d c q p hgt hd hc hk.symm).2 r' hq)

/-! ### Questions after a rejection -/

theorem Happens.completed (he : Happens σ e σ') (h : FlightsOk σ) (hq : σ.Completed q r) : σ'.Completed q r := by
  cases he with
  | start | leave | pollNone | dropNone | replyNone => exact hq
  | answer hp hs => exact (completed_setCall hp (by rw [hs]; rfl)).2 (.inl hq)
  | @cancel t f c l code ht hc =>
    obtain ⟨_, -, -, -, st, hp, ho⟩ := h.leads t l f c ht
    exact (completed_depart hp ho).2 (.inl hq)
  | @advance t l s _ ht ha =>
    cases ha with
    | skip | refuse | known | join | share | wait | idle => exact hq
    | ask => exact completed_ask.2 hq
    | land hc hp hs =>
      rw [land_eq]
      exact (completed_depart (by exact hp) (by rw [hs]; rfl)).2 (.inl hq)

/-- The question is about a region or a product that the reply to the other question rejected. -/
def BarredBy (p q : LocationCall) (r : Reply) : Prop :=
  RejectsRegion r ∧ Text.lowercase p.lookup.region = Text.lowercase q.lookup.region ∨
    RejectsProduct r ∧ Text.lowercase p.lookup.product = Text.lowercase q.lookup.product

theorem Allowed.not_barredBy (ha : Allowed σ p) (hm : Remembers σ) (hq : σ.Completed q r) :
    ¬ BarredBy p q r := by
  rintro (⟨hr, he⟩ | ⟨hr, he⟩)
  · have hmark := (hm.marks .rejectedRegion q.lookup.region).2 ⟨q, r, hq, hr, rfl⟩
    have hvalid := ha.region _ he.symm
    rw [EndpointCache.isRegionValid, Bool.not_eq_true'] at hvalid
    exact Bool.eq_false_iff.1 hvalid hmark
  · have hmark := (hm.marks .rejectedProduct q.lookup.product).2 ⟨q, r, hq, hr, rfl⟩
    have hvalid := ha.product _ he.symm
    rw [EndpointCache.isProductValid, Bool.not_eq_true'] at hvalid
    exact Bool.eq_false_iff.1 hvalid hmark

/-- The question got the reply, and no question from the `n`-th on is barred by it. -/
structure Shuts (σ : Resolver) (q : LocationCall) (r : Reply) (n : Nat) : Prop where
  completed : σ.Completed q r
  later : ∀ (c : Nat) (p : LocationCall), n ≤ c → σ.calls[c]? = some p → ¬ BarredBy p q r

theorem Shuts.step {n : Nat} (hs : Shuts σ q r n) (h : FlightsOk σ) (hm : Remembers σ) (he : Happens σ e σ') :
    Shuts σ' q r n := by
  refine ⟨he.completed h hs.completed, fun c p hc hp => ?_⟩
  cases he.origin h hp with
  | stays hp' => exact hs.later c p hc hp'
  | moves hp' _ hl =>
    have hold := hs.later c _ hc hp'
    rwa [BarredBy, hl] at hold
  | put _ ha => exact ha.not_barredBy hm hs.completed

theorem Shuts.run {n : Nat} (hs : Shuts σ q r n) (h : FlightsOk σ) (hm : Remembers σ) (es : List Event) :
    Shuts (σ.run es) q r n :=
  hm.run_induction (P := fun σ => Shuts σ q r n) h hs (fun h hm hs he => hs.step h hm he) es

/-- Whatever has been started, advanced, dropped and replied to: a question is put only where nothing that is
remembered would answer it; of the questions about a key one at most left something in the memory; and no
question is barred by the reply to one that was completed before. -/
theorem questions_gated (host : String) (es : List Event) :
    (∀ (e : Event) (c : Nat) (q : LocationCall), (run { host } es).calls[c]? = none →
      (run { host } (es ++ [e])).calls[c]? = some q → Allowed (run { host } es) q) ∧
    (∀ (c d : Nat) (p q : LocationCall) (r r' : Reply), (run { host } es).calls[c]? = some p →
      (run { host } es).calls[d]? = some q → p.key = q.key → p.status = .concluded r → q.status = .concluded r' →
      Remembered r → Remembered r' → c = d) ∧
    (∀ (es' : List Event) (c : Nat) (p q : LocationCall) (r : Reply), (run { host } es).Completed q r →
      (run { host } es).calls[c]? = none → (run { host } (es ++ es')).calls[c]? = some p → ¬ BarredBy p q r) := by
  have h₀ : FlightsOk { host } := .initial host {}
  have hm₀ : Remembers { host } := .initial host
  have h := h₀.run es
  have hm := hm₀.run h₀ es
  refine ⟨fun e c q hn hq => ?_, fun c d p q r r' => ?_, fun es' c p q r hq hn hp => ?_⟩
  · rw [run_append] at hq
    exact ((h.happens e).origin h hq).allowed hn
  · have hs₀ : Spent { host } := fun _ _ _ _ _ hp => by simp at hp
    exact (hs₀.run h₀ hm₀ es).unique
  · rw [run_append] at hp
    have hs : Shuts (run { host } es) q r (run { host } es).calls.length :=
      ⟨hq, fun c p hc hp => absurd (List.getElem?_eq_some_iff.1 hp).1 (Nat.not_lt.2 hc)⟩
    exact (hs.run h hm es').later c p (List.getElem?_eq_none_iff.1 hn) hp

end Resolver

end Callsign
