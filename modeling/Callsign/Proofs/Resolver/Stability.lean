import Callsign.Proofs.Error
import Callsign.Proofs.Resolver.Gating
import Callsign.Proofs.Resolver.Sharing

/-!
# Answers stay

`answers_stable`: what a look-up returned is what every later look-up for the same returns, at once and without
a question, unless its product or region has been rejected by then. Whichever way an answer came, it left its
trace: the entry of its key, or a rejection (`Backed`). Entries are written once and rejections are never taken
back, so the trace is there for good. An answer that comes through a flight was remembered by the leader of the
flight, whose key is the one that its waiters are registered for (`Traced`).
-/

namespace Callsign

/-- Two look-ups are for the same: with one service code and one type, and with a product and a region that are
alike in lowercase. -/
structure Lookup.Alike (l m : Lookup) : Prop where
  code : l.code = m.code
  type : l.type = m.type
  product : Text.lowercase l.product = Text.lowercase m.product
  region : Text.lowercase l.region = Text.lowercase m.region

theorem Lookup.Alike.key_eq {l m : Lookup} (h : l.Alike m) (code : String) : l.key code = m.key code := by
  rw [key, key, EndpointKey.ofParts, EndpointKey.ofParts, h.product, h.region, h.type]

theorem Lookup.code?_of_ne {l : Lookup} {code : String} (hc : l.code = some code) (hne : code ≠ "") :
    l.code? = some code := by
  rw [code?, hc]
  simp [Option.filter, hne]

namespace EndpointCache
variable {c : EndpointCache} {l m : Lookup} {key : EndpointKey} {r : Reply} {res : Resolution}

theorem rejects_iff : c.rejects l = true ↔
    (Mark.rejectedProduct.codes c).has l.product = true ∨ (Mark.rejectedRegion.codes c).has l.region = true := by
  simp only [rejects, isProductValid, isRegionValid, Bool.not_not, Bool.or_eq_true]
  rfl

theorem rejects_congr (h : l.Alike m) : c.rejects l = c.rejects m := by
  rw [rejects, rejects, isProductValid_congr h.product, isRegionValid_congr h.region]

theorem lookup_conclude_self (h : (c.conclude l key r).1 = .ok res) :
    (c.conclude l key r).2.lookup key = some res := by
  rcases conclude_cases c l key r with ⟨listing, -, hc⟩ | ⟨-, hc⟩ | ⟨-, hc⟩ | ⟨e, -, -, -, hc⟩
  case inr.inr.inr => rw [hc] at h; cases h
  all_goals
    rw [hc] at h ⊢
    obtain rfl := Except.ok.inj h
    exact (lookup_store _ key key _).trans (if_pos rfl)

end EndpointCache

/-- What is known in the one memory is known in the other, and in the same way. -/
structure EndpointCache.Grows (c c' : EndpointCache) : Prop where
  lookup : ∀ key res, c.lookup key = some res → c'.lookup key = some res
  has : ∀ (k : Mark) code, (k.codes c).has code = true → (k.codes c').has code = true

/-- The memory bears the resolution of a look-up out: by an entry, or by a rejection. -/
inductive Backed (c : EndpointCache) (l : Lookup) (code : String) : Resolution → Prop
  | entry {r : Resolution} (h : c.lookup (l.key code) = some r) : Backed c l code r
  | rejection (h : c.rejects l = true) : Backed c l code .notFound

theorem Backed.mono {c c' : EndpointCache} {l : Lookup} {code : String} {r : Resolution} (hb : Backed c l code r)
    (hg : c.Grows c') : Backed c' l code r := by
  cases hb with
  | entry hk => exact .entry (hg.lookup _ _ hk)
  | rejection hr =>
    rw [EndpointCache.rejects_iff] at hr
    exact .rejection (EndpointCache.rejects_iff.2 (hr.imp (hg.has _ _) (hg.has _ _)))

theorem Backed.alike {c : EndpointCache} {l m : Lookup} {code : String} {r : Resolution} (hb : Backed c l code r)
    (h : l.Alike m) : Backed c m code r := by
  cases hb with
  | entry hk => exact .entry (h.key_eq code ▸ hk)
  | rejection hr => exact .rejection (EndpointCache.rejects_congr h ▸ hr)

namespace Resolver
variable {σ σ' : Resolver} {t u f : Nat} {l m : Lookup} {s g : Stage} {code : String} {e : Event} {r : Resolution}

/-! ### The memory grows -/

theorem Happens.grows (he : Happens σ e σ') (h : FlightsOk σ) (hm : Remembers σ) : σ.cache.Grows σ'.cache := by
  have hm' := hm.of_happens h he
  refine ⟨fun key r hk => ?_, fun k code hk => ?_⟩
  · obtain ⟨q, reply, hq, hrest⟩ := (hm.entries key r).1 hk
    exact (hm'.entries key r).2 ⟨q, reply, he.completed h hq, hrest⟩
  · obtain ⟨q, reply, hq, hrest⟩ := (hm.marks k code).1 hk
    exact (hm'.marks k code).2 ⟨q, reply, he.completed h hq, hrest⟩

theorem Remembers.backed_run (hm : Remembers σ) (h : FlightsOk σ) (hb : Backed σ.cache l code r) (es : List Event) :
    Backed (σ.run es).cache l code r :=
  hm.run_induction (P := fun σ => Backed σ.cache l code r) h hb
    (fun h hm hb he => hb.mono (he.grows h hm)) es

/-! ### Where a task comes from -/

theorem Fate.task (hf : Fate σ t l s σ') (ht : σ.tasks[t]? = some ⟨l, s⟩) : ∃ g, σ'.tasks[t]? = some ⟨l, g⟩ := by
  cases hf with
  | keeps ht => exact ⟨s, ht⟩
  | leaves => exact ⟨_, tasks_setStage_self ht _⟩
  | cancels => exact ⟨_, depart_tasks_self ht⟩
  | advances ha =>
    cases ha with
    | skip | refuse | known | join | share => exact ⟨_, tasks_setStage_self ht _⟩
    | ask => exact ⟨_, ask_tasks_self ht⟩
    | wait | idle => exact ⟨_, ht⟩
    | land => exact ⟨_, land_tasks_self ht _ _⟩

theorem Happens.fresh_of_none (he : Happens σ e σ') (ht : σ.tasks[t]? = none)
    (hu : σ'.tasks[t]? = some ⟨l, g⟩) : g = .fresh := by
  have other : ∀ {u : Nat} {k : Task}, σ.tasks[u]? = some k → t ≠ u := by
    rintro u k hk rfl
    rw [ht] at hk
    cases hk
  cases he with
  | start => exact ((start_tasks_cases hu).resolve_left (by rw [ht]; nofun)).2
  | leave hk => rw [tasks_setStage_of_ne (other hk), ht] at hu; cases hu
  | cancel hk => rw [depart_tasks_of_ne (other hk), ht] at hu; cases hu
  | advance hk ha => rw [ha.tasks_eq (other hk), ht] at hu; cases hu
  | answer | pollNone | dropNone | replyNone => exact absurd (ht.symm.trans hu) nofun

theorem Happens.fate_of_task (he : Happens σ e σ') (hu : σ'.tasks[t]? = some ⟨l, g⟩) :
    g = .fresh ∨ ∃ s, σ.tasks[t]? = some ⟨l, s⟩ ∧ Fate σ t l s σ' := by
  cases ht : σ.tasks[t]? with
  | none => exact .inl (he.fresh_of_none ht hu)
  | some k =>
    obtain ⟨m, s⟩ := k
    have hf := he.fate ht
    obtain ⟨g', hg⟩ := hf.task ht
    obtain ⟨rfl, -⟩ := Task.mk.inj (Option.some.inj (hg.symm.trans hu))
    exact .inr ⟨s, rfl, hf⟩

/-! ### Every answer leaves a trace -/

/-- The key of a task that leads a flight is the one that the waiters of the flight are registered for. -/
theorem FlightsOk.key_of_waiter (h : FlightsOk σ) {c : Nat} {code' : String}
    (hw : σ.tasks[t]? = some ⟨l, .waiting f⟩) (hc : l.code? = some code) (ho : σ.flights[f]? = some .opened)
    (hl : σ.tasks[u]? = some ⟨m, .leading f c⟩) (hc' : m.code? = some code') : m.key code' = l.key code := by
  obtain ⟨_, fl, hc₁, hfl, hreg⟩ := h.waits t l f hw
  obtain rfl := Option.some.inj (hc.symm.trans hc₁)
  obtain ⟨v, n, d, _, hv, hn, hk⟩ := h.registered _ f (hreg (Option.some.inj (hfl.symm.trans ho)))
  obtain rfl := h.alone v u n m f d c hv hl
  obtain ⟨rfl, -⟩ := Task.mk.inj (Option.some.inj (hv.symm.trans hl))
  rw [← Option.some.inj (hn.symm.trans hc')]
  exact congrArg EndpointKey.mk hk

theorem Happens.remembered_of_landed (he : Happens σ e σ') (h : FlightsOk σ)
    (hw : σ.tasks[t]? = some ⟨l, .waiting f⟩) (hc : l.code? = some code) (ho : σ.flights[f]? = some .opened)
    (hf : σ'.flights[f]? = some (.landed (.ok r))) : σ'.cache.lookup (l.key code) = some r := by
  have moved : σ'.flights[f]? ≠ some .opened := by rw [hf]; nofun
  cases he with
  | start | leave | answer | pollNone | dropNone | replyNone => exact absurd ho moved
  | @cancel u v c m _ hu =>
    rw [depart_flights f (h.flight_lt hu)] at hf moved
    split at hf
    · cases hf
    · rw [ho] at hf; cases hf
  | @advance u m s _ hu ha =>
    cases ha with
    | skip | refuse | known | join | share | wait | idle => exact absurd ho moved
    | ask => exact absurd (ask_flights ho) moved
    | @land v c code' q reply hc' hq hp =>
      rw [land_flights f (h.flight_lt hu)] at hf
      split at hf
      · next hfv =>
        subst hfv
        have hr := mapError_eq_ok (Flight.landed.inj (Option.some.inj hf))
        rw [← h.key_of_waiter hw hc ho hu hc', land_eq, depart_cache]
        exact EndpointCache.lookup_conclude_self hr
      · rw [ho] at hf; cases hf

/-- What the memory has to say of a task that stands at this stage. -/
def Traces (σ : Resolver) (l : Lookup) (code : String) : Stage → Prop
  | .finished (.ok r) => Backed σ.cache l code r
  | .waiting f => ∀ r, σ.flights[f]? = some (.landed (.ok r)) → σ.cache.lookup (l.key code) = some r
  | _ => True

/-- The memory bears out what tasks returned, and what those will return that wait. -/
def Traced (σ : Resolver) : Prop :=
  ∀ (t : Nat) (l : Lookup) (s : Stage) (code : String), σ.tasks[t]? = some ⟨l, s⟩ → l.code? = some code →
    σ.Traces l code s

theorem Happens.traces (he : Happens σ e σ') (h : FlightsOk σ) (hm : Remembers σ)
    (ht : σ.tasks[t]? = some ⟨l, s⟩) (hc : l.code? = some code) (hs : σ.Traces l code s) : σ'.Traces l code s := by
  match s, hs with
  | .finished (.ok r), hs => exact hs.mono (he.grows h hm)
  | .finished (.error _), _ | .fresh, _ | .leading .., _ | .dropped, _ => trivial
  | .waiting f, hs =>
    intro r hr
    obtain ⟨_, fl, -, hfl, -⟩ := h.waits t l f ht
    cases fl with
    -- Only an open flight can land now, and what it lands with is remembered in the same step.
    | opened => exact he.remembered_of_landed h ht hc hfl hr
    | landed o =>
      rw [he.flights_eq h hfl nofun] at hr
      exact (he.grows h hm).lookup _ _ (hs r (hfl.trans hr))
    | closed =>
      rw [he.flights_eq h hfl nofun] at hr
      cases hr

theorem Advance.traces (ha : Advance σ t l s σ') (h : FlightsOk σ) (ht : σ.tasks[t]? = some ⟨l, s⟩)
    (hc : l.code? = some code) (hs : σ.Traces l code s) (hu : σ'.tasks[t]? = some ⟨l, g⟩) :
    σ'.Traces l code g := by
  cases ha with
  | skip hn => rw [hn] at hc; cases hc
  | refuse _ _ hr =>
    obtain rfl := stage_eq hu (tasks_setStage_self ht _)
    exact .rejection hr
  | known _ hc' _ hk =>
    obtain rfl := stage_eq hu (tasks_setStage_self ht _)
    obtain rfl := Option.some.inj (hc.symm.trans hc')
    exact .entry hk
  | join _ _ _ _ hf =>
    obtain rfl := stage_eq hu (tasks_setStage_self ht _)
    intro r hr
    exact absurd ((h.toRegistered _ _ hf).symm.trans hr) nofun
  | ask =>
    obtain rfl := stage_eq hu (ask_tasks_self ht)
    trivial
  | wait | idle =>
    obtain rfl := stage_eq hu ht
    exact hs
  | @share f o hf =>
    obtain rfl := stage_eq hu (tasks_setStage_self ht _)
    cases o with
    | error e => trivial
    | ok r => exact .entry (hs r hf)
  | @land f c code' q reply hc' =>
    obtain rfl := stage_eq hu (land_tasks_self ht _ _)
    obtain rfl := Option.some.inj (hc.symm.trans hc')
    cases hr : (σ.cache.conclude l (l.key code) reply).1 with
    | error e => trivial
    | ok r => exact .entry (by rw [land_eq, depart_cache]; exact EndpointCache.lookup_conclude_self hr)

theorem Traced.step (hs : Traced σ) (h : FlightsOk σ) (hm : Remembers σ) (he : Happens σ e σ') : Traced σ' := by
  intro t l g code hu hc
  rcases he.fate_of_task hu with rfl | ⟨s, ht, hf⟩
  · trivial
  -- A task that stays where it is keeps its trace; one that moves on gets a trace of where it comes to.
  cases hf with
  | keeps hk =>
    obtain rfl := stage_eq hu hk
    exact he.traces h hm ht hc (hs t l g code ht hc)
  | advances ha => exact ha.traces h ht hc (hs t l s code ht hc) hu
  | leaves =>
    obtain rfl := stage_eq hu (tasks_setStage_self ht _)
    trivial
  | cancels =>
    obtain rfl := stage_eq hu (depart_tasks_self ht)
    trivial

theorem Traced.run (hs : Traced σ) (h : FlightsOk σ) (hm : Remembers σ) (es : List Event) : Traced (σ.run es) :=
  hm.run_induction (P := Traced) h hs (fun h hm hs he => hs.step h hm he) es

/-! ### A look-up that has been answered before -/

/-- A task that begins where the memory bears out a resolution ends at once, and asks nothing. -/
theorem FlightsOk.poll_backed (h : FlightsOk σ) (ht : σ.tasks[t]? = some ⟨l, .fresh⟩) (hc : l.code? = some code)
    (hb : Backed σ.cache l code r) : (σ.poll t).calls = σ.calls ∧
      (σ.poll t).result? t = some (.ok (if σ.cache.rejects l then .notFound else r)) := by
  have ha := h.poll_advance ht rfl
  generalize σ.poll t = σ' at ha ⊢
  have known : σ.cache.rejects l = false → σ.cache.lookup (l.key code) = some r := by
    intro hr
    cases hb with
    | entry hk => exact hk
    | rejection hr' => rw [hr] at hr'; cases hr'
  cases ha with
  | skip hn => rw [hn] at hc; cases hc
  | refuse _ _ hr => exact ⟨rfl, by rw [result?_finish ht, if_pos hr]⟩
  | known _ hc' hr hk =>
    obtain rfl := Option.some.inj (hc.symm.trans hc')
    obtain rfl := Option.some.inj (hk.symm.trans (known hr))
    exact ⟨rfl, by rw [result?_finish ht, hr]; rfl⟩
  | join _ hc' hr hk | ask _ hc' hr hk =>
    obtain rfl := Option.some.inj (hc.symm.trans hc')
    rw [known hr] at hk
    cases hk

/-- Whatever has happened to a resolver: once a look-up returned a resolution, a task that begins for the same
ends at once and asks nothing. It returns that nothing was found if that was the resolution, or if its product or
region has been rejected by now, and otherwise the endpoint that was found. -/
theorem answers_stable (host : String) (es es' : List Event) (t u : Nat) (l m : Lookup) (code : String)
    (r : Resolution) (hcode : l.code = some code) (hne : code ≠ "") (hlm : l.Alike m)
    (hr : (run { host } es).tasks[t]? = some ⟨l, .finished (.ok r)⟩)
    (hu : (run { host } (es ++ es')).tasks[u]? = some ⟨m, .fresh⟩) :
    let σ := run { host } (es ++ es')
    (σ.poll u).calls = σ.calls ∧ (r = .notFound → (σ.poll u).result? u = some (.ok .notFound)) ∧
    ∀ endpoint, r = .found endpoint →
      (σ.cache.isProductValid m.product = true ∧ σ.cache.isRegionValid m.region = true ∧
        (σ.poll u).result? u = some (.ok (.found endpoint))) ∨
      ((σ.cache.isProductValid m.product = false ∨ σ.cache.isRegionValid m.region = false) ∧
        (σ.poll u).result? u = some (.ok .notFound)) := by
  intro σ
  have h₀ : FlightsOk { host } := .initial host {}
  have hm₀ : Remembers { host } := .initial host
  have htr₀ : Traced { host } := fun _ _ _ _ ht => by simp at ht
  have h := h₀.run es
  have hm := hm₀.run h₀ es
  have hl : l.code? = some code := Lookup.code?_of_ne hcode hne
  have hback : Backed (run { host } es).cache l code r := htr₀.run h₀ hm₀ es t l _ code hr hl
  have hback' : Backed σ.cache l code r := by
    show Backed (run { host } (es ++ es')).cache l code r
    rw [run_append]
    exact hm.backed_run h hback es'
  obtain ⟨hcalls, hpoll⟩ := (h₀.run (es ++ es')).poll_backed hu (Lookup.code?_of_ne (hlm.code ▸ hcode) hne)
    (hback'.alike hlm)
  refine ⟨hcalls, ?_, ?_⟩
  · rintro rfl
    rw [hpoll, ite_self]
  · rintro endpoint rfl
    have hrej : σ.cache.rejects m = true ↔
        σ.cache.isProductValid m.product = false ∨ σ.cache.isRegionValid m.region = false := by
      rw [EndpointCache.rejects, Bool.or_eq_true, Bool.not_eq_true', Bool.not_eq_true']
    by_cases hr : σ.cache.rejects m = true
    · exact .inr ⟨hrej.1 hr, by rw [hpoll, if_pos hr]⟩
    · obtain ⟨hp, hg⟩ := EndpointCache.rejects_eq_false (Bool.eq_false_iff.2 hr)
      exact .inl ⟨hp, hg, by rw [hpoll, if_neg hr]⟩

def ecsLookup : Lookup := { product := "Ecs", region := "cn-hangzhou", code := some "ecs" }

def ecsLookupInCapitals : Lookup := { ecsLookup with product := "ECS", region := "CN-HANGZHOU" }

def foundRun : List Event :=
  let listed : Listed := { endpoint := some "ecs.aliyuncs.com", type := some "openAPI", serviceCode := some "ecs" }
  [.start ecsLookup, .poll 0, .reply 0 (.ok { endpoints := [listed] }), .poll 0]

/-- A look-up of another product has its region rejected, and then the first look-up is made once more. -/
def rejectedRun : List Event :=
  [.start { ecsLookup with product := "Rds", code := some "rds" }, .poll 1,
    .reply 1 (.error (.ofService ⟨404, "InvalidRegionId", "The specified region does not exist.", none⟩)), .poll 1,
    .start ecsLookupInCapitals]

theorem answers_stable_rejected_region :
    let σ := run {} (foundRun ++ rejectedRun)
    (run {} foundRun).result? 0 = some (.ok (.found "ecs.aliyuncs.com")) ∧
      (σ.poll 2).calls = σ.calls ∧ (σ.poll 2).result? 2 = some (.ok .notFound) := by
  intro σ
  have hr : (run {} foundRun).tasks[0]? = some ⟨ecsLookup, .finished (.ok (.found "ecs.aliyuncs.com"))⟩ := by rfl
  have hu : σ.tasks[2]? = some ⟨ecsLookupInCapitals, .fresh⟩ := by rfl
  have hg : σ.cache.isRegionValid ecsLookupInCapitals.region = false := by decide +kernel
  have halike : ecsLookup.Alike ecsLookupInCapitals := ⟨rfl, rfl, by decide +kernel, by decide +kernel⟩
  obtain ⟨hcalls, -, hfound⟩ := answers_stable publicLocationEndpoint foundRun rejectedRun 0 2 ecsLookup
    ecsLookupInCapitals "ecs" _ rfl (by decide) halike hr hu
  refine ⟨by simp [result?, hr], hcalls, ?_⟩
  rcases hfound _ rfl with ⟨-, hg', -⟩ | ⟨-, hres⟩
  · rw [hg] at hg'
    cases hg'
  · exact hres

end Resolver

end Callsign
