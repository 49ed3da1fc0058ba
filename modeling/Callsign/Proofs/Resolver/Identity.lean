import Callsign.Proofs.Encoding.Split
import Callsign.Proofs.Resolver.Stability
import Callsign.Proofs.Resolver.Waiting
import Callsign.Proofs.Text.Lowercase

/-!
# Whose answer a look-up gets

`answers_told_by_dots`: a task gets its answer from a rejection of its own product or region, or from the one
question about its key; and all that lead or wait for a flight have one key. A key is the text of its parts joined
by dots, and the parts may have dots of their own, so look-ups for different things can share a key
(`keys_collide`). They do so only if they differ in how many dots their parts have: among look-ups alike in
that, a key stands for one thing.
-/

namespace Callsign
open Text (lowercase dots)

theorem EndpointKey.toList_ofParts (p c r t : String) : (EndpointKey.ofParts p c r t).text.toList =
    (lowercase p).toList ++ '.' :: (c.toList ++ '.' :: ((lowercase r).toList ++ '.' :: t.toList)) := by
  simp [ofParts]

/-- A key and the numbers of dots in the first three parts tell the parts. -/
theorem EndpointKey.ofParts_eq_iff (p p' c c' r r' t t' : String) :
    (EndpointKey.ofParts p c r t = .ofParts p' c' r' t' ∧ dots p = dots p' ∧ dots c = dots c' ∧ dots r = dots r') ↔
      lowercase p = lowercase p' ∧ c = c' ∧ lowercase r = lowercase r' ∧ t = t' := by
  constructor
  · rintro ⟨hk, hp, hc, hr⟩
    have htext := congrArg (fun k => k.text.toList) hk
    simp only [toList_ofParts] at htext
    rw [← Text.dots_lowercase p, ← Text.dots_lowercase p'] at hp
    rw [← Text.dots_lowercase r, ← Text.dots_lowercase r'] at hr
    obtain ⟨hp, htext⟩ := Encoding.append_mark_inj_of_count hp htext
    obtain ⟨hc, htext⟩ := Encoding.append_mark_inj_of_count hc htext
    obtain ⟨hr, ht⟩ := Encoding.append_mark_inj_of_count hr htext
    exact ⟨String.toList_inj.1 hp, String.toList_inj.1 hc, String.toList_inj.1 hr, String.toList_inj.1 ht⟩
  · rintro ⟨hp, rfl, hr, rfl⟩
    refine ⟨by rw [ofParts, ofParts, hp, hr], ?_, rfl, ?_⟩
    · rw [← Text.dots_lowercase p, hp, Text.dots_lowercase]
    · rw [← Text.dots_lowercase r, hr, Text.dots_lowercase]

/-- How many dots the product, the service code and the region have. -/
def Lookup.dots (l : Lookup) : Nat × Nat × Nat :=
  (Text.dots l.product, Text.dots (l.code.getD ""), Text.dots l.region)

/-- Look-ups with one key and as many dots in each part are for the same. -/
theorem Lookup.alike_of_key_eq {l m : Lookup} {code code' : String} (hl : l.code? = some code)
    (hm : m.code? = some code') (hd : l.dots = m.dots) (hk : l.key code = m.key code') : l.Alike m := by
  obtain ⟨hl, -⟩ := Lookup.code?_eq_some hl
  obtain ⟨hm, -⟩ := Lookup.code?_eq_some hm
  simp only [Lookup.dots, hl, hm, Option.getD_some, Prod.mk.injEq] at hd
  obtain ⟨hp, rfl, hr, ht⟩ := (EndpointKey.ofParts_eq_iff ..).1 ⟨hk, hd⟩
  exact ⟨hl.trans hm.symm, ht, hp, hr⟩

theorem Leaves.remembered {l : Lookup} {r : Reply} {res : Resolution} (h : Leaves l r res) : Remembered r := by
  cases h with
  | found | nothing => exact .inl ⟨_, rfl⟩
  | rejected h => exact .inr h

/-- The flight that a task at this stage leads or waits for. -/
def Stage.flight? : Stage → Option Nat
  | leading f _ | waiting f => some f
  | fresh | finished _ | dropped => none

namespace Resolver
variable {σ σ' : Resolver} {t u f c : Nat} {l m : Lookup} {s : Stage} {code : String} {e : Event}
  {es : List Event} {key : EndpointKey} {q : LocationCall} {r : Reply} {res : Resolution}

/-! ### All on one flight have one key -/

/-- The flight is there, and all that lead it or wait for it do so for the key. -/
structure Keyed (σ : Resolver) (f : Nat) (key : EndpointKey) : Prop where
  there : f < σ.flights.length
  keys : ∀ (t : Nat) (l : Lookup) (s : Stage) (code : String), σ.tasks[t]? = some ⟨l, s⟩ →
    s.flight? = some f → l.code? = some code → l.key code = key

theorem FlightsOk.keyed_of_leads (h : FlightsOk σ) (hl : σ.leads u f = true) : ∃ key, Keyed σ f key := by
  obtain ⟨m, c, hu⟩ := leads_iff.1 hl
  obtain ⟨code', hc', -, ho, -⟩ := h.leads u m f c hu
  refine ⟨m.key code', h.flight_lt hu, fun t l s code ht hs hc => ?_⟩
  cases s with
  | leading v d =>
    obtain rfl := Option.some.inj hs
    obtain rfl := h.alone t u l m v d c ht hu
    obtain ⟨rfl, -⟩ := Task.mk.inj (Option.some.inj (ht.symm.trans hu))
    rw [Option.some.inj (hc.symm.trans hc')]
  | waiting v =>
    obtain rfl := Option.some.inj hs
    exact (h.key_of_waiter ht hc ho hu hc').symm
  | fresh | finished | dropped => cases hs

theorem Happens.flights_length_le (he : Happens σ e σ') : σ.flights.length ≤ σ'.flights.length := by
  cases he with
  | start | leave | answer | pollNone | dropNone | replyNone => exact Nat.le_refl _
  | cancel => exact Nat.le_of_eq depart_flights_length.symm
  | advance _ ha =>
    cases ha with
    | skip | refuse | known | join | share | wait | idle => exact Nat.le_refl _
    | ask => simp [Resolver.ask, Resolver.setStage, register]
    | land => exact Nat.le_of_eq (by rw [land_eq, depart_flights_length])

/-- Who joins a flight finds it registered for its own key, which is that of the leader. -/
theorem Keyed.step (hk : Keyed σ f key) (h : FlightsOk σ) (he : Happens σ e σ') : Keyed σ' f key := by
  refine ⟨Nat.lt_of_lt_of_le hk.there he.flights_length_le, fun t l g code hu hg hc => ?_⟩
  rcases he.fate_of_task hu with rfl | ⟨s, ht, hf⟩
  · cases hg
  cases hf with
  | keeps ht' =>
    obtain rfl := stage_eq hu ht'
    exact hk.keys t l g code ht hg hc
  | leaves =>
    obtain rfl := stage_eq hu (tasks_setStage_self ht _)
    cases hg
  | cancels =>
    obtain rfl := stage_eq hu (depart_tasks_self ht)
    cases hg
  | advances ha =>
    cases ha with
    | skip | refuse | known | share =>
      obtain rfl := stage_eq hu (tasks_setStage_self ht _)
      cases hg
    | @join _ code' _ _ hc' _ _ hin =>
      obtain rfl := stage_eq hu (tasks_setStage_self ht _)
      obtain rfl := Option.some.inj hg
      obtain ⟨u, m, d, code₂, hl, hm, he⟩ := h.registered _ _ hin
      rw [← hk.keys u m _ code₂ hl rfl hm, Option.some.inj (hc.symm.trans hc')]
      exact congrArg EndpointKey.mk he.symm
    | ask =>
      obtain rfl := stage_eq hu (ask_tasks_self ht)
      exact absurd (Option.some.inj hg).symm (Nat.ne_of_lt hk.there)
    | wait | idle =>
      obtain rfl := stage_eq hu ht
      exact hk.keys t l _ code ht hg hc
    | land =>
      obtain rfl := stage_eq hu (land_tasks_self ht _ _)
      cases hg

theorem Keyed.run (hk : Keyed σ f key) (h : FlightsOk σ) (es : List Event) : Keyed (σ.run es) f key :=
  h.run_induction (P := fun σ => Keyed σ f key) hk (fun h hk he => hk.step h he) es

/-- At some time of the run the task for the look-up led the flight or waited for it. -/
def Boarded (σ : Resolver) (es : List Event) (t : Nat) (l : Lookup) (f : Nat) : Prop :=
  ∃ es₁ s, es₁ <+: es ∧ (σ.run es₁).tasks[t]? = some ⟨l, s⟩ ∧ s.flight? = some f

theorem FlightsOk.code_of_flight (h : FlightsOk σ) (ht : σ.tasks[t]? = some ⟨l, s⟩) (hs : s.flight? = some f) :
    f < σ.flights.length ∧ ∃ code, l.code? = some code := by
  cases s with
  | leading v c =>
    obtain rfl := Option.some.inj hs
    obtain ⟨code, hc, -⟩ := h.leads t l v c ht
    exact ⟨h.flight_lt ht, code, hc⟩
  | waiting v =>
    obtain rfl := Option.some.inj hs
    obtain ⟨code, fl, hc, hf, -⟩ := h.waits t l v ht
    exact ⟨(List.getElem?_eq_some_iff.1 hf).1, code, hc⟩
  | fresh | finished | dropped => cases hs

/-- A flight keeps the key that it was opened for. -/
theorem FlightsOk.exists_keyed (h : FlightsOk σ) (h₀ : σ.flights = []) (hf : f < (σ.run es).flights.length) :
    ∃ key, Keyed (σ.run es) f key := by
  obtain ⟨u, es₁, ⟨es₂, rfl⟩, hl⟩ := (exists_hasLed h es hf).resolve_left (by rw [h₀]; exact Nat.not_lt_zero f)
  obtain ⟨key, hk⟩ := (h.run es₁).keyed_of_leads hl
  rw [run_append]
  exact ⟨key, hk.run (h.run es₁) es₂⟩

/-- Who boards a flight later does so for the same key. -/
theorem FlightsOk.key_of_prefix (h : FlightsOk σ) (h₀ : σ.flights = []) {es₁ es₂ : List Event} (hp : es₁ <+: es₂)
    {g : Stage} {code' : String} (ht : (σ.run es₁).tasks[t]? = some ⟨l, s⟩) (hs : s.flight? = some f)
    (hc : l.code? = some code) (hu : (σ.run es₂).tasks[u]? = some ⟨m, g⟩) (hg : g.flight? = some f)
    (hc' : m.code? = some code') : l.key code = m.key code' := by
  obtain ⟨es', rfl⟩ := hp
  obtain ⟨key, hk⟩ := h.exists_keyed h₀ ((h.run es₁).code_of_flight ht hs).1
  rw [run_append] at hu
  exact (hk.keys t l s code ht hs hc).trans ((hk.run (h.run es₁) es').keys u m g code' hu hg hc').symm

theorem FlightsOk.key_of_boarded (h : FlightsOk σ) (h₀ : σ.flights = []) (ht : Boarded σ es t l f)
    (hu : Boarded σ es u m f) :
    ∃ code code', l.code? = some code ∧ m.code? = some code' ∧ l.key code = m.key code' := by
  obtain ⟨es₁, s, hp₁, ht, hs⟩ := ht
  obtain ⟨es₂, g, hp₂, hu, hg⟩ := hu
  obtain ⟨-, code, hc⟩ := (h.run es₁).code_of_flight ht hs
  obtain ⟨-, code', hc'⟩ := (h.run es₂).code_of_flight hu hg
  refine ⟨code, code', hc, hc', ?_⟩
  rcases List.prefix_or_prefix_of_prefix hp₁ hp₂ with hp | hp
  · exact h.key_of_prefix h₀ hp ht hs hc hu hg hc'
  · exact (h.key_of_prefix h₀ hp hu hg hc' ht hs hc).symm

/-! ### The question behind an answer -/

/-- Every question is put for the service code of its look-up. -/
def Coded (σ : Resolver) : Prop :=
  ∀ (c : Nat) (q : LocationCall), σ.calls[c]? = some q → q.lookup.code? = some q.inquiry.code

theorem Coded.step (hs : Coded σ) (h : FlightsOk σ) (he : Happens σ e σ') : Coded σ' := by
  intro c q hq
  cases he.origin h hq with
  | stays hq' => exact hs c q hq'
  | moves hq' _ hl hi => rw [← hl, ← hi]; exact hs c _ hq'
  | put _ ha => exact Lookup.code?_of_ne ha.code ha.nonempty

theorem Coded.run (hs : Coded σ) (h : FlightsOk σ) (es : List Event) : Coded (σ.run es) :=
  h.run_induction (P := Coded) hs (fun h hs he => hs.step h he) es

/-- The question about the key whose reply is remembered: no other left anything in the memory. -/
structure Source (σ : Resolver) (key : EndpointKey) (q : LocationCall) (r : Reply) : Prop where
  completed : σ.Completed q r
  about : q.key = key
  sole : ∀ q' r', σ.Completed q' r' → q'.key = key → Remembered r' → q' = q

theorem Remembers.source (hm : Remembers σ) (hs : Spent σ) (hk : σ.cache.lookup key = some res) :
    ∃ q r, Source σ key q r ∧ Leaves q.lookup r res := by
  obtain ⟨q, r, hq, rfl, hl⟩ := (hm.entries key res).1 hk
  refine ⟨q, r, ⟨hq, rfl, fun q' r' hq' hkey hr' => ?_⟩, hl⟩
  obtain ⟨c, hc⟩ := List.mem_iff_getElem?.1 hq.1
  obtain ⟨d, hd⟩ := List.mem_iff_getElem?.1 hq'.1
  obtain rfl := hs.unique hd hc hkey hq'.2 hq.2 hr' hl.remembered
  exact Option.some.inj (hd.symm.trans hc)

/-- Parts and numbers of dots determine a key's parts, and, whatever has happened to a resolver: a task that
returned a resolution had its product or region rejected, or has it from the one question about its key; and
tasks that led or waited for one flight have one key. Where the parts have as many dots, the question and the
flight were for the same. -/
theorem answers_told_by_dots (host : String) (es : List Event) :
    (∀ p p' c c' r r' t t' : String,
      (EndpointKey.ofParts p c r t = .ofParts p' c' r' t' ∧ dots p = dots p' ∧ dots c = dots c' ∧ dots r = dots r') ↔
        lowercase p = lowercase p' ∧ c = c' ∧ lowercase r = lowercase r' ∧ t = t') ∧
    (∀ (t : Nat) (l : Lookup) (code : String) (res : Resolution),
      (run { host } es).tasks[t]? = some ⟨l, .finished (.ok res)⟩ → l.code? = some code →
      (res = .notFound ∧ (run { host } es).cache.rejects l = true) ∨
      ∃ q r, Source (run { host } es) (l.key code) q r ∧ Leaves q.lookup r res ∧
        (l.dots = q.lookup.dots → l.Alike q.lookup)) ∧
    (∀ (t u f : Nat) (l m : Lookup), Boarded { host } es t l f → Boarded { host } es u m f →
      l.dots = m.dots → l.Alike m) := by
  have h₀ : FlightsOk { host } := .initial host {}
  have hm₀ : Remembers { host } := .initial host
  have htr₀ : Traced { host } := fun _ _ _ _ ht => by simp at ht
  have hs₀ : Spent { host } := fun _ _ _ _ _ hp => by simp at hp
  have hc₀ : Coded { host } := fun _ _ hp => by simp at hp
  refine ⟨EndpointKey.ofParts_eq_iff, fun t l code res ht hc => ?_, fun t u f l m ht hu hd => ?_⟩
  · cases htr₀.run h₀ hm₀ es t l _ code ht hc with
    | rejection hr => exact .inl ⟨rfl, hr⟩
    | entry hk =>
      obtain ⟨q, r, hq, hl⟩ := (hm₀.run h₀ es).source (hs₀.run h₀ hm₀ es) hk
      refine .inr ⟨q, r, hq, hl, fun hd => ?_⟩
      obtain ⟨d, hd'⟩ := List.mem_iff_getElem?.1 hq.completed.1
      exact Lookup.alike_of_key_eq hc (hc₀.run h₀ es d q hd') hd hq.about.symm
  · obtain ⟨code, code', hc, hc', hk⟩ := h₀.key_of_boarded rfl ht hu
    exact Lookup.alike_of_key_eq hc hc' hd hk

/-- The first look-up again in capitals while it is under way. -/
def sharedRun : List Event :=
  let listed : Listed := { endpoint := some "ecs.aliyuncs.com", type := some "openAPI", serviceCode := some "ecs" }
  [.start ecsLookup, .poll 0, .start ecsLookupInCapitals, .poll 1, .reply 0 (.ok { endpoints := [listed] }),
    .poll 0, .poll 1]

theorem answers_told_by_dots_in_capitals :
    let σ := run {} sharedRun
    σ.result? 1 = some (.ok (.found "ecs.aliyuncs.com")) ∧ ecsLookup.Alike ecsLookupInCapitals ∧
      ∃ q r, Source σ (ecsLookupInCapitals.key "ecs") q r ∧ ecsLookupInCapitals.Alike q.lookup := by
  intro σ
  have hled : Boarded {} sharedRun 0 ecsLookup 0 := ⟨sharedRun.take 2, .leading 0 0, List.take_prefix 2 _, rfl, rfl⟩
  have hwaited : Boarded {} sharedRun 1 ecsLookupInCapitals 0 :=
    ⟨sharedRun.take 4, .waiting 0, List.take_prefix 4 _, rfl, rfl⟩
  have ht : σ.tasks[1]? = some ⟨ecsLookupInCapitals, .finished (.ok (.found "ecs.aliyuncs.com"))⟩ := by rfl
  have hasked : σ.calls.map LocationCall.lookup = [ecsLookup] := by rfl
  obtain ⟨-, hanswer, hflight⟩ := answers_told_by_dots publicLocationEndpoint sharedRun
  refine ⟨by rfl, hflight 0 1 0 _ _ hled hwaited (by decide), ?_⟩
  obtain ⟨q, r, hq, -, halike⟩ := (hanswer 1 _ "ecs" _ ht rfl).resolve_left nofun
  have hl : q.lookup ∈ σ.calls.map LocationCall.lookup := List.mem_map_of_mem hq.completed.1
  rw [hasked, List.mem_singleton] at hl
  exact ⟨q, r, hq, halike (by rw [hl]; decide)⟩

/-- The dot between product and code can be moved into either of them. -/
def vpcOfEcs : Lookup := { product := "ecs", region := "cn-hangzhou", code := some "ecs.vpc" }

def vpcOfDottedEcs : Lookup := { product := "ecs.ecs", region := "cn-hangzhou", code := some "vpc" }

/-- A look-up is answered, and then the other one is made. -/
def strayRun : List Event :=
  let listed : Listed := { endpoint := some "vpc.aliyuncs.com", type := some "openAPI", serviceCode := some "ecs.vpc" }
  [.start vpcOfEcs, .poll 0, .reply 0 (.ok { endpoints := [listed] }), .poll 0, .start vpcOfDottedEcs, .poll 1]

/-- Look-ups for different things have one key. So the one is answered from the entry of the other, without a
question of its own, and while the other is under way it waits for the flight of the other. -/
theorem keys_collide :
    vpcOfEcs.key "ecs.vpc" = vpcOfDottedEcs.key "vpc" ∧
      lowercase vpcOfEcs.product ≠ lowercase vpcOfDottedEcs.product ∧ vpcOfEcs.code ≠ vpcOfDottedEcs.code ∧
      (run {} strayRun).result? 1 = some (.ok (.found "vpc.aliyuncs.com")) ∧
      (run {} strayRun).calls.map LocationCall.lookup = [vpcOfEcs] ∧
      (run {} [.start vpcOfEcs, .poll 0, .start vpcOfDottedEcs, .poll 1]).awaits 1 0 = true := by
  refine ⟨by decide +kernel, by decide +kernel, by decide, by rfl, by rfl, by decide +kernel⟩

end Resolver

end Callsign
