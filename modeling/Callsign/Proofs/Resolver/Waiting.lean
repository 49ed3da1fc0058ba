import Callsign.Proofs.Resolver.Sharing
import Callsign.Proofs.Resolver.SingleFlight

/-!
# No task waits in vain

`no_waiter_stranded`: the flight that a task waits for is registered and has a live leader, or it landed, or
it was closed when its leader was dropped; and a task that is advanced makes two passes of its loop at most.
Every flight was led by some task (`exists_hasLed`), so what became of that task (`Led`) says what became of
the flight.

`Loops` is the loop without a bound on its passes. It ends because a registered flight is open: a task that
tries again finds the register empty, or a flight that it can wait for (`Registered.loops_top`).
-/

namespace Callsign.Resolver
variable {σ σ' : Resolver} {t u f : Nat} {l : Lookup} {s : Stage} {code : String} {e : Event} {es : List Event}

/-! ### The loop without a bound -/

/-- From this point on the loop makes so many passes and ends with this resolver. -/
inductive Loops (t : Nat) (l : Lookup) (code : String) : Resolver → Point → Nat → Resolver → Prop
  | through {σ σ' : Resolver} {p : Point} (h : σ.pass t l code p = .through σ') : Loops t l code σ p 1 σ'
  | again {σ σ₁ σ' : Resolver} {p : Point} {n : Nat} (h : σ.pass t l code p = .again σ₁)
      (hl : Loops t l code σ₁ .top n σ') : Loops t l code σ p (n + 1) σ'

/-- Advancing the task takes it into its loop, at this point. -/
inductive Enters (σ : Resolver) (t : Nat) (l : Lookup) (code : String) : Point → Prop
  | begins (ht : σ.tasks[t]? = some ⟨l, .fresh⟩) (hc : l.code? = some code) (hr : σ.cache.rejects l = false) :
      Enters σ t l code .top
  | resumes {f : Nat} (ht : σ.tasks[t]? = some ⟨l, .waiting f⟩) (hc : l.code? = some code) :
      Enters σ t l code (.waits f)

theorem Loops.passes_eq {p : Point} {n k : Nat} (h : Loops t l code σ p n σ') (hk : n ≤ k) :
    passes t l code k σ p = some σ' := by
  induction h generalizing k with
  | through h =>
    obtain ⟨k, rfl⟩ := Nat.exists_eq_add_of_le' hk
    simp only [passes, h]
  | again h _ ih =>
    obtain ⟨k, rfl⟩ := Nat.exists_eq_add_of_le' (Nat.le_of_add_left_le hk)
    simp only [passes, h]
    exact ih (Nat.le_of_succ_le_succ hk)

/-- A loop that ends within two passes is not cut short by the bound that `loop` has. -/
theorem Loops.loop_eq {p : Point} {n : Nat} (h : Loops t l code σ p n σ') (hn : n ≤ 2) :
    σ.loop t l code p = σ' := by
  rw [loop, h.passes_eq hn, Option.getD_some]

theorem Registered.loops_top (hreg : σ.Registered) (t : Nat) (l : Lookup) (code : String) :
    ∃ σ', Loops t l code σ .top 1 σ' := by
  cases hk : σ.cache.lookup (l.key code) with
  | some r =>
    refine ⟨σ.finish t (.ok r), .through ?_⟩
    simp only [pass, hk]
  | none =>
    cases hf : σ.inflight.get? (l.key code).text with
    | some f =>
      refine ⟨σ.setStage t (.waiting f), .through ?_⟩
      simp only [pass, hk, hf, await, hreg _ f hf]
    | none =>
      refine ⟨σ.lead t l code, .through ?_⟩
      simp only [pass, hk, hf]

/-- Only a closed flight sends a task back to the top, and it leaves the resolver as it is. -/
theorem await_again {σ₁ : Resolver} (h : σ.await t l f = .again σ₁) : σ₁ = σ := by
  rw [await] at h
  split at h
  · cases h
  · split at h
    · cases h
    · exact (Pass.again.inj h).symm
  · cases h
  · cases h

theorem Registered.loops (hreg : σ.Registered) (t : Nat) (l : Lookup) (code : String) (p : Point) :
    ∃ n σ', n ≤ 2 ∧ Loops t l code σ p n σ' := by
  obtain ⟨σ', htop⟩ := hreg.loops_top t l code
  cases p with
  | top => exact ⟨1, σ', Nat.le_succ 1, htop⟩
  | waits f =>
    cases hp : σ.pass t l code (.waits f) with
    | through σ' => exact ⟨1, σ', Nat.le_succ 1, .through hp⟩
    | again σ₁ =>
      obtain rfl := await_again hp
      exact ⟨2, σ', Nat.le_refl 2, .again hp htop⟩

theorem Enters.poll_eq {p : Point} (h : Enters σ t l code p) : σ.poll t = σ.loop t l code p := by
  cases h with
  | begins ht hc hr => simp only [poll, ht, begin, hc, hr, Bool.false_eq_true, ↓reduceIte]
  | resumes ht hc => simp only [poll, ht, hc]

theorem FlightsOk.poll_loops (h : FlightsOk σ) {p : Point} (hp : Enters σ t l code p) :
    ∃ n ≤ 2, Loops t l code σ p n (σ.poll t) := by
  obtain ⟨n, σ', hn, hl⟩ := h.toRegistered.loops t l code p
  rw [hp.poll_eq, hl.loop_eq hn]
  exact ⟨n, hn, hl⟩

/-! ### The task that led a flight -/

/-- At some time of the run the task led the flight. -/
def HasLed (σ : Resolver) (es : List Event) (t f : Nat) : Prop :=
  ∃ es₁, es₁ <+: es ∧ (σ.run es₁).leads t f = true

theorem HasLed.cons (h : HasLed (σ.step e) es t f) : HasLed σ (e :: es) t f := by
  obtain ⟨es₁, hp, hl⟩ := h
  exact ⟨e :: es₁, List.cons_prefix_cons.2 ⟨rfl, hp⟩, hl⟩

/-- A flight that a step opens is led by the task that was advanced. -/
theorem Happens.leads_of_opened (he : Happens σ e σ') (hf : σ.flights.length ≤ f)
    (hf' : f < σ'.flights.length) : ∃ u, σ'.leads u f = true := by
  have hsame : σ'.flights.length = σ.flights.length → ∃ u, σ'.leads u f = true := fun hl => by omega
  cases he with
  | start | leave | answer | pollNone | dropNone | replyNone => exact hsame rfl
  | cancel => exact hsame depart_flights_length
  | @advance t l s _ ht ha =>
    cases ha with
    | skip | refuse | known | join | share | wait | idle => exact hsame rfl
    | land => exact hsame (by rw [land_eq, depart_flights_length])
    | ask =>
      have hlen : f < σ.flights.length + 1 := by simpa [Resolver.ask, Resolver.setStage, register] using hf'
      obtain rfl : f = σ.flights.length := by omega
      exact ⟨t, leads_iff.2 ⟨l, _, ask_tasks_self ht⟩⟩

theorem exists_hasLed (h : FlightsOk σ) (es : List Event) (hf : f < (σ.run es).flights.length) :
    f < σ.flights.length ∨ ∃ u, HasLed σ es u f := by
  induction es generalizing σ with
  | nil => exact .inl hf
  | cons e es ih =>
    rcases ih (h.step e) hf with hlt | ⟨u, hu⟩
    · by_cases hold : f < σ.flights.length
      · exact .inl hold
      · obtain ⟨u, hu⟩ := (h.happens e).leads_of_opened (Nat.le_of_not_lt hold) hlt
        exact .inr ⟨u, [e], List.cons_prefix_cons.2 ⟨rfl, List.nil_prefix⟩, hu⟩
    · exact .inr ⟨u, hu.cons⟩

/-- What became of a flight is what became of the task that led it. -/
theorem HasLed.led (hu : HasLed σ es u f) (h : FlightsOk σ) : ∃ m, Led (σ.run es) u m f := by
  obtain ⟨es₁, ⟨es₂, rfl⟩, hl⟩ := hu
  obtain ⟨m, c, ht⟩ := leads_iff.1 hl
  rw [run_append]
  exact ⟨m, (Led.leads c ht).run (h.run es₁) es₂⟩

/-! ### Tasks that wait -/

/-- How the flight stands that a task waits for, after these events. -/
inductive Attended (σ : Resolver) (es : List Event) (l : Lookup) (f : Nat) : Prop
  /-- It is the one registered for the key of the look-up, and has a live leader. -/
  | underway {u : Nat} {code : String} (hc : l.code? = some code)
      (hf : (σ.run es).inflight.get? (l.key code).text = some f) (hu : (σ.run es).leads u f = true)
      (hk : (σ.run es).LeadsFor u (l.key code))
  /-- Its leader finished, and its outcome is there. -/
  | landed {u : Nat} {r : Except Error Resolution} (hu : HasLed σ es u f) (hr : (σ.run es).result? u = some r)
      (hf : (σ.run es).flights[f]? = some (.landed (r.mapError .ofError)))
  /-- Its leader was dropped. -/
  | closed {u : Nat} (hu : HasLed σ es u f) (hd : (σ.run es).isDropped u = true)
      (hf : (σ.run es).flights[f]? = some .closed)

theorem FlightsOk.attended (h : FlightsOk σ) (h₀ : σ.flights = [])
    (ht : (σ.run es).tasks[t]? = some ⟨l, .waiting f⟩) : Attended σ es l f := by
  have hes : FlightsOk (σ.run es) := h.run es
  obtain ⟨code, fl, hc, hfl, hreg⟩ := hes.waits t l f ht
  obtain ⟨u, hu⟩ : ∃ u, HasLed σ es u f := by
    refine (exists_hasLed h es (List.getElem?_eq_some_iff.1 hfl).1).resolve_left ?_
    rw [h₀]
    exact Nat.not_lt_zero f
  obtain ⟨m, hled⟩ := hu.led h
  cases hled with
  | dropped hd hf => exact .closed hu (isDropped_of hd) hf
  | finished r hr hf => exact .landed hu (by simp [result?, hr]) hf
  | leads c hl =>
    obtain ⟨code', hc', hin, hop, -⟩ := hes.leads u m f c hl
    have hin' := hreg (Option.some.inj (hfl.symm.trans hop))
    obtain ⟨w, m', c', code₂, hw, hcw, hkw⟩ := hes.registered _ f hin'
    obtain rfl := hes.alone w u m' m f c' c hw hl
    exact .underway hc hin' (leads_iff.2 ⟨m, c, hl⟩) ⟨m', f, c', code₂, hw, hcw, congrArg EndpointKey.mk hkw⟩

/-- The task leads or waits for another flight, which is open and has a live leader. -/
def MovesOn (σ : Resolver) (t f : Nat) : Prop :=
  ∃ v, v ≠ f ∧ σ.flights[v]? = some .opened ∧
    (σ.leads t v = true ∨ σ.awaits t v = true ∧ ∃ u, σ.leads u v = true)

/-- A task that waits for a closed flight ends when it is advanced, or goes on with another flight. -/
theorem FlightsOk.poll_closed (h : FlightsOk σ) (ht : σ.tasks[t]? = some ⟨l, .waiting f⟩)
    (hf : σ.flights[f]? = some .closed) : ((σ.poll t).result? t).isSome ∨ (σ.poll t).MovesOn t f := by
  have ha := h.poll_advance ht rfl
  generalize σ.poll t = σ' at ha ⊢
  cases ha with
  | refuse | known => exact .inl (by rw [result?_finish ht]; rfl)
  | ask =>
    have hlt : f < σ.flights.length := (List.getElem?_eq_some_iff.1 hf).1
    exact .inr ⟨_, Nat.ne_of_gt hlt, ask_flights_self, .inl (leads_iff.2 ⟨l, _, ask_tasks_self ht⟩)⟩
  | @join _ _ v _ _ _ _ hv =>
    have hop : σ.flights[v]? = some .opened := h.toRegistered _ v hv
    obtain ⟨u, m, c, -, hu, -⟩ := h.registered _ v hv
    have hvf : v ≠ f := by
      rintro rfl
      rw [hf] at hop
      cases hop
    refine .inr ⟨v, hvf, hop, .inr ⟨awaits_iff.2 ⟨l, tasks_setStage_self ht _⟩, u, leads_iff.2 ⟨m, c, ?_⟩⟩⟩
    rw [tasks_setStage_of_ne (ne_of_stage_ne hu ht nofun), hu]
  | wait ho => rw [hf] at ho; cases ho
  | share ho => rw [hf] at ho; cases ho

/-- Whatever has happened to a resolver: the flight of every waiter is under way, has landed or is closed; a
waiter of a flight that landed ends with its outcome when it is advanced, one of a closed flight ends or goes
on with another flight that is under way; and no task that is advanced makes more than two passes of its loop. -/
theorem no_waiter_stranded (host : String) (cache : EndpointCache) (es : List Event) (t : Nat) (l : Lookup) :
    let σ₀ : Resolver := { host, cache }
    let σ := σ₀.run es
    (∀ f, σ.tasks[t]? = some ⟨l, .waiting f⟩ → Attended σ₀ es l f ∧
      (∀ o, σ.flights[f]? = some (.landed o) → (σ.poll t).result? t = some (o.mapError SharedError.toError)) ∧
      (σ.flights[f]? = some .closed → ((σ.poll t).result? t).isSome ∨ (σ.poll t).MovesOn t f)) ∧
    ∀ code p, Enters σ t l code p → ∃ n ≤ 2, Loops t l code σ p n (σ.poll t) := by
  intro σ₀ σ
  have h₀ : FlightsOk σ₀ := .initial host cache
  have h : FlightsOk σ := h₀.run es
  refine ⟨fun f ht => ⟨h₀.attended rfl ht, fun o hf => ?_, h.poll_closed ht⟩, fun code p hp => h.poll_loops hp⟩
  refine ((Heard.waits ht).poll h hf).resolve_left fun hd => ?_
  cases ht.symm.trans hd

/-- One look-up twice: the first task leads and is dropped while the second waits for it. -/
def cancelledRun : List Event :=
  let l : Lookup := { product := "Ecs", region := "cn-hangzhou", code := some "ecs" }
  [.start l, .start l, .poll 0, .poll 1, .drop 0]

theorem no_waiter_stranded_cancelled : ((run {} cancelledRun).poll 1).MovesOn 1 0 ∧
    ∃ n ≤ 2, Loops 1 { product := "Ecs", region := "cn-hangzhou", code := some "ecs" } "ecs"
      (run {} cancelledRun) (.waits 0) n ((run {} cancelledRun).poll 1) := by
  have ht : (run {} cancelledRun).tasks[1]? =
      some ⟨{ product := "Ecs", region := "cn-hangzhou", code := some "ecs" }, .waiting 0⟩ := by rfl
  have hf : (run {} cancelledRun).flights[0]? = some .closed := by rfl
  have hr : (((run {} cancelledRun).poll 1).result? 1).isSome = false := by decide +kernel
  obtain ⟨hw, hp⟩ := no_waiter_stranded publicLocationEndpoint {} cancelledRun 1 _
  exact ⟨((hw 0 ht).2.2 hf).resolve_left (Bool.eq_false_iff.1 hr), hp "ecs" _ (.resumes ht rfl)⟩

end Callsign.Resolver
