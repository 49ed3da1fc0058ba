import Callsign.Proofs.Resolver.Flights

/-!
# Waiters get what their leader got

`waiters_share_outcome`: a task that once waited for a flight whose leader has finished was dropped, or
returns, when it is advanced, an outcome that agrees with the leader's. What carries this is that a flight
leaves the open state once (`Happens.flights_eq`), to the outcome of its leader (`Led`), and that a waiter
takes its answer from the flight alone (`Heard`), so that neither the memory nor the register nor later
flights for the key have a say.
-/

namespace Callsign

/-- Two outcomes are alike for those who get them: the same resolution, or errors of the same kind, with
the same message and the same rejection as their cause. -/
def Agree : Except Error Resolution → Except Error Resolution → Prop
  | .ok a, .ok b => a = b
  | .error e, .error e' => e.kind = e'.kind ∧ e.message = e'.message ∧ e.service? = e'.service?
  | _, _ => False

theorem SharedError.service?_toError (e : SharedError) : e.toError.service? = e.service := by
  obtain ⟨kind, message, service⟩ := e
  cases service <;> rfl

/-- What goes through a flight comes out alike. -/
theorem agree_shared (r : Except Error Resolution) :
    Agree r ((r.mapError SharedError.ofError).mapError SharedError.toError) := by
  cases r with
  | ok a => rfl
  | error e => exact ⟨rfl, rfl, (SharedError.ofError e).service?_toError.symm⟩

namespace Resolver
variable {σ σ' : Resolver} {t f c : Nat} {l : Lookup} {s : Stage} {e : Event}

/-- The task leads the flight. -/
def leads (σ : Resolver) (t f : Nat) : Bool :=
  match σ.tasks[t]? with
  | some ⟨_, .leading g _⟩ => g = f
  | _ => false

/-- The task waits for the flight. -/
def awaits (σ : Resolver) (t f : Nat) : Bool :=
  match σ.tasks[t]? with
  | some ⟨_, .waiting g⟩ => g = f
  | _ => false

def isDropped (σ : Resolver) (t : Nat) : Bool :=
  match σ.tasks[t]? with
  | some ⟨_, .dropped⟩ => true
  | _ => false

theorem leads_iff : σ.leads t f = true ↔ ∃ l c, σ.tasks[t]? = some ⟨l, .leading f c⟩ := by
  constructor
  · intro h
    unfold leads at h
    split at h
    · next l g c ht => exact ⟨l, c, of_decide_eq_true h ▸ ht⟩
    · cases h
  · rintro ⟨l, c, ht⟩
    simp [leads, ht]

theorem awaits_iff : σ.awaits t f = true ↔ ∃ l, σ.tasks[t]? = some ⟨l, .waiting f⟩ := by
  constructor
  · intro h
    unfold awaits at h
    split at h
    · next l g ht => exact ⟨l, of_decide_eq_true h ▸ ht⟩
    · cases h
  · rintro ⟨l, ht⟩
    simp [awaits, ht]

theorem isDropped_of (ht : σ.tasks[t]? = some ⟨l, .dropped⟩) : σ.isDropped t = true := by
  rw [isDropped, ht]

/-! ### Leaders and waiters through a run -/

/-- What became of a task that led a flight: it still does, or was dropped and the flight closed, or it
finished and its outcome is the flight's. -/
inductive Led (σ : Resolver) (t : Nat) (l : Lookup) (f : Nat) : Prop
  | leads (c : Nat) (ht : σ.tasks[t]? = some ⟨l, .leading f c⟩)
  | dropped (ht : σ.tasks[t]? = some ⟨l, .dropped⟩) (hf : σ.flights[f]? = some .closed)
  | finished (r : Except Error Resolution) (ht : σ.tasks[t]? = some ⟨l, .finished r⟩)
      (hf : σ.flights[f]? = some (.landed (r.mapError .ofError)))

/-- What became of a task that waited for a flight: it still does, or was dropped, or the flight was
closed, or the flight landed and the task returned the outcome. -/
inductive Heard (σ : Resolver) (t : Nat) (l : Lookup) (f : Nat) : Prop
  | waits (ht : σ.tasks[t]? = some ⟨l, .waiting f⟩)
  | dropped (ht : σ.tasks[t]? = some ⟨l, .dropped⟩)
  | closed (hf : σ.flights[f]? = some .closed)
  | returned (o : Outcome) (hf : σ.flights[f]? = some (.landed o))
      (ht : σ.tasks[t]? = some ⟨l, .finished (o.mapError SharedError.toError)⟩)

theorem Led.step (hl : Led σ t l f) (h : FlightsOk σ) (he : Happens σ e σ') : Led σ' t l f := by
  cases hl with
  | dropped ht hf => exact .dropped (he.keeps ht rfl) (he.flights_eq h hf nofun)
  | finished r ht hf => exact .finished r (he.keeps ht rfl) (he.flights_eq h hf nofun)
  | leads c ht =>
    obtain ⟨code, hc, -, hop, -⟩ := h.leads t l f c ht
    have hlt := (List.getElem?_eq_some_iff.1 hop).1
    cases he.fate ht with
    | keeps ht => exact .leads c ht
    | leaves _ hs => exact absurd rfl (hs f c)
    | cancels hs =>
      obtain ⟨rfl, rfl⟩ := Stage.leading.inj hs
      exact .dropped (depart_tasks_self ht) (by rw [depart_flights _ hlt, if_pos rfl])
    | advances ha =>
      cases ha with
      | refuse hs | known hs | join hs | ask hs => exact hs.elim
      | idle => exact .leads c ht
      | land =>
        refine .finished _ (land_tasks_self ht _ _) ?_
        rw [land_flights f hlt, if_pos rfl]

theorem Heard.step (hw : Heard σ t l f) (h : FlightsOk σ) (he : Happens σ e σ') : Heard σ' t l f := by
  cases hw with
  | dropped ht => exact .dropped (he.keeps ht rfl)
  | closed hf => exact .closed (he.flights_eq h hf nofun)
  | returned o hf ht => exact .returned o (he.flights_eq h hf nofun) (he.keeps ht rfl)
  | waits ht =>
    have hfl : ∀ {fl : Flight}, σ.flights[f]? = some fl → fl ≠ .opened → σ'.flights[f]? = some fl :=
      fun hf ho => he.flights_eq h hf ho
    cases he.fate ht with
    | keeps ht => exact .waits ht
    | leaves => exact .dropped (tasks_setStage_self ht _)
    | cancels hs => cases hs
    | advances ha =>
      cases ha with
      -- a task that tries again does so because its flight was closed
      | refuse hs | known hs | join hs | ask hs => exact .closed (hfl hs nofun)
      | wait => exact .waits ht
      | share hf => exact .returned _ hf (tasks_setStage_self ht _)

theorem Led.run (hl : Led σ t l f) (h : FlightsOk σ) (es : List Event) : Led (σ.run es) t l f :=
  h.run_induction (P := fun σ => Led σ t l f) hl (fun h hl he => hl.step h he) es

theorem Heard.run (hw : Heard σ t l f) (h : FlightsOk σ) (es : List Event) : Heard (σ.run es) t l f :=
  h.run_induction (P := fun σ => Heard σ t l f) hw (fun h hw he => hw.step h he) es

/-- The flight of a leader that has finished landed with the leader's outcome. -/
theorem Led.flight_of_result (hl : Led σ t l f) {r : Except Error Resolution} (hr : σ.result? t = some r) :
    σ.flights[f]? = some (.landed (r.mapError .ofError)) := by
  cases hl with
  | leads c ht => simp [result?, ht] at hr
  | dropped ht => simp [result?, ht] at hr
  | finished r' ht hf =>
    rw [result?, ht] at hr
    obtain rfl := Option.some.inj hr
    exact hf

theorem result?_finish (ht : σ.tasks[t]? = some ⟨l, s⟩) (r : Except Error Resolution) :
    (σ.finish t r).result? t = some r := by
  rw [result?, finish, tasks_setStage_self ht]
  rfl

/-- A task that waited for a flight gets what the flight landed with, as soon as it is advanced. -/
theorem Heard.poll (hw : Heard σ t l f) (h : FlightsOk σ) {o : Outcome}
    (hf : σ.flights[f]? = some (.landed o)) : σ.tasks[t]? = some ⟨l, .dropped⟩ ∨
      (σ.poll t).result? t = some (o.mapError SharedError.toError) := by
  cases hw with
  | dropped ht => exact .inl ht
  | closed hc => rw [hf] at hc; cases hc
  | returned o' ho ht =>
    rw [hf] at ho
    obtain rfl := Flight.landed.inj (Option.some.inj ho)
    right
    simp [Resolver.poll, ht, result?]
  | waits ht =>
    right
    have ha := h.poll_advance ht rfl
    generalize σ.poll t = σ' at ha ⊢
    cases ha with
    | refuse hs | known hs | join hs | ask hs => rw [AtTop, hf] at hs; cases hs
    | wait ho => rw [hf] at ho; cases ho
    | share ho =>
      rw [hf] at ho
      obtain rfl := Flight.landed.inj (Option.some.inj ho)
      exact result?_finish ht _

/-- Whatever has happened to a resolver: a task that once waited for a flight whose leader has finished
was dropped, or returns what its leader returned if it is advanced now. -/
theorem waiters_share_outcome (host : String) (cache : EndpointCache) {es es₁ es₂ : List Event} {t u f : Nat}
    {r : Except Error Resolution} (h₁ : es₁ <+: es) (h₂ : es₂ <+: es)
    (hl : (run { host, cache } es₁).leads u f = true) (hw : (run { host, cache } es₂).awaits t f = true)
    (hr : (run { host, cache } es).result? u = some r) :
    (run { host, cache } es).isDropped t = true ∨
      ∃ r', ((run { host, cache } es).poll t).result? t = some r' ∧ Agree r r' := by
  have h := (FlightsOk.initial host cache).run es
  obtain ⟨m, c, hl⟩ := leads_iff.1 hl
  obtain ⟨l, hw⟩ := awaits_iff.1 hw
  have hled : Led (run { host, cache } es) u m f := by
    obtain ⟨es', rfl⟩ := h₁
    rw [run_append]
    exact (Led.leads c hl).run ((FlightsOk.initial host cache).run es₁) es'
  have hheard : Heard (run { host, cache } es) t l f := by
    obtain ⟨es', rfl⟩ := h₂
    rw [run_append]
    exact (Heard.waits hw).run ((FlightsOk.initial host cache).run es₂) es'
  have hf := hled.flight_of_result hr
  rcases hheard.poll h hf with hd | hp
  · exact .inl (isDropped_of hd)
  · exact .inr ⟨_, hp, agree_shared r⟩

/-- One look-up three times: the leader is throttled, and the third task asks again and gets a reply before
the second, which waits for the first, is advanced. -/
def throttledRun : List Event :=
  let l : Lookup := { product := "Ecs", region := "cn-hangzhou", code := some "ecs" }
  [.start l, .start l, .poll 0, .poll 1, .reply 0 (.error (.ofService ⟨503, "Throttling", "Denied.", none⟩)),
    .poll 0, .start l, .poll 2, .reply 1 (.ok {}), .poll 2]

theorem waiters_share_outcome_throttled :
    (run {} throttledRun).result? 2 = some (.ok .notFound) ∧ ∃ r',
      ((run {} throttledRun).poll 1).result? 1 = some r' ∧
        Agree (.error (.ofService ⟨503, "Throttling", "Denied.", none⟩)) r' := by
  have hl : (run {} (throttledRun.take 3)).leads 0 0 = true := by decide +kernel
  have hw : (run {} (throttledRun.take 4)).awaits 1 0 = true := by decide +kernel
  have hr : (run {} throttledRun).result? 0 =
      some (.error (.ofService ⟨503, "Throttling", "Denied.", none⟩)) := by rfl
  have hd : (run {} throttledRun).isDropped 1 = false := by decide +kernel
  have h := waiters_share_outcome publicLocationEndpoint {} (List.take_prefix 3 _) (List.take_prefix 4 _) hl hw hr
  exact ⟨by rfl, h.resolve_left (Bool.eq_false_iff.1 hd)⟩

end Resolver

end Callsign
