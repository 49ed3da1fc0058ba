import Callsign.Proofs.Resolver.Advance

/-!
# Flights and their leaders

`FlightsOk`: the register, the flights, the calls and the stages of all tasks agree. A leader's flight
is open and registered for its key, and its call is out; a registered flight and a call that is out
have a leader; no two tasks lead one flight; a flight that is waited for is registered as long as it
is open. Of the updates only three touch leaders: `ask` makes one, `depart` takes one away, and a
reply changes the status of a call that stays out.

`Happens σ e σ'` is what the event `e` can do to such a resolver (`FlightsOk.happens`). What a step
keeps is shown case by case for it, here that it keeps `FlightsOk`, and what it makes of one task
(`Happens.fate`) and of a flight that is no longer open (`Happens.flights_eq`).
-/

namespace Callsign.Resolver
variable {σ σ' : Resolver} {t u f c : Nat} {l m : Lookup} {s g : Stage} {code : String} {e : Event}

/-- Who leads for a key is who is registered for it. -/
structure FlightsOk (σ : Resolver) : Prop where
  leads : ∀ (t : Nat) (l : Lookup) (f c : Nat), σ.tasks[t]? = some ⟨l, .leading f c⟩ →
    ∃ code, l.code? = some code ∧ σ.inflight.get? (l.key code).text = some f ∧
      σ.flights[f]? = some .opened ∧ ∃ st, σ.calls[c]? = some ⟨l, σ.inquiry l code, st⟩ ∧ st.isOut = true
  waits : ∀ (t : Nat) (l : Lookup) (f : Nat), σ.tasks[t]? = some ⟨l, .waiting f⟩ →
    ∃ code fl, l.code? = some code ∧ σ.flights[f]? = some fl ∧
      (fl = .opened → σ.inflight.get? (l.key code).text = some f)
  registered : ∀ k f, σ.inflight.get? k = some f → ∃ (t : Nat) (l : Lookup) (c : Nat) (code : String),
    σ.tasks[t]? = some ⟨l, .leading f c⟩ ∧ l.code? = some code ∧ (l.key code).text = k
  out : ∀ (c : Nat) (q : LocationCall), σ.calls[c]? = some q → q.status.isOut = true →
    ∃ (t f : Nat), σ.tasks[t]? = some ⟨q.lookup, .leading f c⟩
  alone : ∀ (t u : Nat) (l m : Lookup) (f c d : Nat), σ.tasks[t]? = some ⟨l, .leading f c⟩ →
    σ.tasks[u]? = some ⟨m, .leading f d⟩ → t = u

namespace FlightsOk

theorem initial (host : String) (cache : EndpointCache) : FlightsOk { host, cache } := by
  refine ⟨?_, ?_, ?_, ?_, ?_⟩ <;> intros <;> simp_all [Table.get?, Table.empty]

theorem toRegistered (h : FlightsOk σ) : σ.Registered := fun k f hf => by
  obtain ⟨t, l, c, code, ht, -, -⟩ := h.registered k f hf
  obtain ⟨_, -, -, ho, -⟩ := h.leads t l f c ht
  exact ho

theorem flight_lt (h : FlightsOk σ) (ht : σ.tasks[t]? = some ⟨l, .leading f c⟩) : f < σ.flights.length := by
  obtain ⟨_, -, -, ho, -⟩ := h.leads t l f c ht
  exact (List.getElem?_eq_some_iff.1 ho).1

theorem registered_of_leads (h : FlightsOk σ) (ht : σ.tasks[t]? = some ⟨l, .leading f c⟩)
    (hc : l.code? = some code) : σ.inflight.get? (l.key code).text = some f := by
  obtain ⟨_, hc', hf, -⟩ := h.leads t l f c ht
  obtain rfl := Option.some.inj (hc.symm.trans hc')
  exact hf

/-- Two leaders for one key are one. -/
theorem leader_unique (h : FlightsOk σ) {d v : Nat} {code' : String}
    (ht : σ.tasks[t]? = some ⟨l, .leading f c⟩) (hu : σ.tasks[u]? = some ⟨m, .leading v d⟩)
    (hc : l.code? = some code) (hd : m.code? = some code') (hk : l.key code = m.key code') :
    t = u ∧ f = v := by
  have hf := h.registered_of_leads ht hc
  rw [hk, h.registered_of_leads hu hd] at hf
  obtain rfl := Option.some.inj hf
  exact ⟨h.alone t u l m v c d ht hu, rfl⟩

/-- Two leaders with one call are one. -/
theorem leader_of_call (h : FlightsOk σ) {v : Nat} (ht : σ.tasks[t]? = some ⟨l, .leading f c⟩)
    (hu : σ.tasks[u]? = some ⟨m, .leading v c⟩) : t = u := by
  obtain ⟨code, hc, -, -, st, hq, -⟩ := h.leads t l f c ht
  obtain ⟨code', hd, -, -, st', hq', -⟩ := h.leads u m v c hu
  have he := Option.some.inj (hq.symm.trans hq')
  simp only [LocationCall.mk.injEq, inquiry, Inquiry.mk.injEq] at he
  obtain ⟨rfl, ⟨-, -, rfl, -⟩, -⟩ := he
  exact (h.leader_unique ht hu hc hd rfl).1

/-- The flight that a leader takes off the register is the one registered for its key. -/
theorem unregister_leader (h : FlightsOk σ) (ht : σ.tasks[t]? = some ⟨l, .leading f c⟩)
    (hc : l.code? = some code) :
    σ.unregister (l.key code) f = { σ with inflight := σ.inflight.erase (l.key code).text } :=
  if_pos (h.registered_of_leads ht hc)

/-- To take the flight of a leader that has ended off the register once more changes nothing. -/
theorem unregister_land (h : FlightsOk σ) (ht : σ.tasks[t]? = some ⟨l, .leading f c⟩)
    (hc : l.code? = some code) (r : Reply) :
    (σ.land t f c l (l.key code) r).unregister (l.key code) f = σ.land t f c l (l.key code) r := by
  have hf := h.registered_of_leads ht hc
  have hoff : (σ.land t f c l (l.key code) r).inflight.get? (l.key code).text = none :=
    (depart_inflight (by exact hf) _).trans (if_pos rfl)
  rw [unregister, if_neg (by simp [hoff])]

/-! ### Updates that touch no leader -/

/-- A task that does not lead goes to a stage at which it does not lead. -/
theorem setStage (h : FlightsOk σ) (ht : σ.tasks[t]? = some ⟨l, s⟩) (hs : ∀ f c, s ≠ .leading f c)
    (hg : ∀ f c, g ≠ .leading f c)
    (hw : ∀ f, g = .waiting f → ∃ code fl, l.code? = some code ∧ σ.flights[f]? = some fl ∧
      (fl = .opened → σ.inflight.get? (l.key code).text = some f)) : FlightsOk (σ.setStage t g) := by
  have back : ∀ (u : Nat) (m : Lookup) (f c : Nat), (σ.setStage t g).tasks[u]? = some ⟨m, .leading f c⟩ →
      σ.tasks[u]? = some ⟨m, .leading f c⟩ := fun u m f c => leading_of_setStage ht hg
  have forth : ∀ (u : Nat) (m : Lookup) (f c : Nat), σ.tasks[u]? = some ⟨m, .leading f c⟩ →
      (σ.setStage t g).tasks[u]? = some ⟨m, .leading f c⟩ := by
    intro u m f c hu
    rw [tasks_setStage_of_ne (ne_of_stage_ne hu ht (hs f c).symm), hu]
  refine ⟨fun u m f c hu => h.leads u m f c (back u m f c hu), fun u m f hu => ?_, fun k f hk => ?_,
    fun c q hq ho => ?_, fun u v l m f c d hu hv => h.alone u v l m f c d (back _ _ _ _ hu) (back _ _ _ _ hv)⟩
  · by_cases hut : u = t
    · subst hut
      rw [tasks_setStage_self ht] at hu
      obtain ⟨rfl, rfl⟩ := Task.mk.inj (Option.some.inj hu)
      exact hw f rfl
    · rw [tasks_setStage_of_ne hut] at hu
      exact h.waits u m f hu
  · obtain ⟨u, m, c, code, hu, hc, he⟩ := h.registered k f hk
    exact ⟨u, m, c, code, forth u m f c hu, hc, he⟩
  · obtain ⟨u, f, hu⟩ := h.out c q hq ho
    exact ⟨u, f, forth _ _ _ _ hu⟩

theorem finish (h : FlightsOk σ) (ht : σ.tasks[t]? = some ⟨l, s⟩) (hs : ∀ f c, s ≠ .leading f c)
    (r : Except Error Resolution) : FlightsOk (σ.finish t r) :=
  h.setStage ht hs (fun _ _ => nofun) (fun _ => nofun)

/-- A call that is out stays out. -/
theorem setCall (h : FlightsOk σ) {q : LocationCall} (hq : σ.calls[c]? = some q)
    (hq' : q.status.isOut = true) {st : CallStatus} (hst : st.isOut = true) : FlightsOk (σ.setCall c st) := by
  refine ⟨fun t l f d ht => ?_, h.waits, h.registered, fun d p hp ho => ?_, h.alone⟩
  · obtain ⟨code, hc, hf, hfl, st', hd, ho⟩ := h.leads t l f d ht
    refine ⟨code, hc, hf, hfl, ?_⟩
    rw [calls_setCall, hd]
    split
    · exact ⟨st, rfl, hst⟩
    · exact ⟨st', rfl, ho⟩
  · rw [calls_setCall] at hp
    split at hp
    · subst d
      rw [hq] at hp
      obtain rfl := Option.some.inj hp
      exact h.out c q hq hq'
    · exact h.out d p hp ho

theorem start (h : FlightsOk σ) (l : Lookup) : FlightsOk (σ.start l) := by
  have back : ∀ (u : Nat) (m : Lookup) (g : Stage), g ≠ .fresh → (σ.start l).tasks[u]? = some ⟨m, g⟩ →
      σ.tasks[u]? = some ⟨m, g⟩ := fun u m g hg hu => (start_tasks_cases hu).resolve_right fun he => hg he.2
  refine ⟨fun u m f c hu => h.leads u m f c (back _ _ _ nofun hu),
    fun u m f hu => h.waits u m f (back _ _ _ nofun hu), fun k f hk => ?_, fun c q hq ho => ?_,
    fun u v l m f c d hu hv => h.alone u v l m f c d (back _ _ _ nofun hu) (back _ _ _ nofun hv)⟩
  · obtain ⟨u, m, c, code, hu, hc, he⟩ := h.registered k f hk
    exact ⟨u, m, c, code, start_tasks hu l, hc, he⟩
  · obtain ⟨u, f, hu⟩ := h.out c q hq ho
    exact ⟨u, f, start_tasks hu l⟩

theorem withCache (h : FlightsOk σ) (cache : EndpointCache) : FlightsOk { σ with cache } :=
  ⟨h.leads, h.waits, h.registered, h.out, h.alone⟩

/-! ### Updates that make a leader or take one away -/

/-- A task becomes the leader for a key that nobody leads for. -/
theorem ask (h : FlightsOk σ) (ht : σ.tasks[t]? = some ⟨l, s⟩) (hs : ∀ f c, s ≠ .leading f c)
    (hc : l.code? = some code) (hf : σ.inflight.get? (l.key code).text = none) : FlightsOk (σ.ask t l code) := by
  have hreg : ∀ k v, σ.inflight.get? k = some v → (σ.ask t l code).inflight.get? k = some v := by
    intro k v hk
    have hkey : k ≠ (l.key code).text := fun he => by rw [he, hf] at hk; cases hk
    rw [ask_inflight_of_ne hkey, hk]
  have forth : ∀ (u : Nat) (m : Lookup) (v d : Nat), σ.tasks[u]? = some ⟨m, .leading v d⟩ →
      (σ.ask t l code).tasks[u]? = some ⟨m, .leading v d⟩ := by
    intro u m v d hu
    rw [ask_tasks_of_ne (ne_of_stage_ne hu ht (hs v d).symm), hu]
  -- the new flight and the new call are nobody else's
  have old : ∀ (u : Nat) (m : Lookup) (v d : Nat), σ.tasks[u]? = some ⟨m, .leading v d⟩ →
      v ≠ σ.flights.length := by
    intro u m v d hu
    obtain ⟨-, -, -, hv, -⟩ := h.leads u m v d hu
    exact Nat.ne_of_lt (List.getElem?_eq_some_iff.1 hv).1
  refine ⟨fun u m v d hu => ?_, fun u m v hu => ?_, fun k v hk => ?_, fun d q hq ho => ?_,
    fun u w m n v d e hu' hw' => ?_⟩
  · rcases leading_of_ask ht hu with ⟨rfl, rfl, rfl, rfl⟩ | hu
    · exact ⟨code, hc, ask_inflight_self, ask_flights_self, .pending, List.getElem?_concat_length, rfl⟩
    · obtain ⟨code', hc', hin, ho, st, hq, hst⟩ := h.leads u m v d hu
      exact ⟨code', hc', hreg _ _ hin, ask_flights ho, st, ask_calls hq, hst⟩
  · have hut : u ≠ t := ne_of_stage_ne hu (ask_tasks_self ht) nofun
    rw [ask_tasks_of_ne hut] at hu
    obtain ⟨code', fl, hc', hv, hin⟩ := h.waits u m v hu
    exact ⟨code', fl, hc', ask_flights hv, fun ho => hreg _ _ (hin ho)⟩
  · by_cases hkey : k = (l.key code).text
    · subst hkey
      obtain rfl := Option.some.inj (ask_inflight_self.symm.trans hk)
      exact ⟨t, l, _, code, ask_tasks_self ht, hc, rfl⟩
    · rw [ask_inflight_of_ne hkey] at hk
      obtain ⟨u, m, d, code', hu, hc', he⟩ := h.registered k v hk
      exact ⟨u, m, d, code', forth u m v d hu, hc', he⟩
  · rw [ask_calls_eq, List.getElem?_append] at hq
    split at hq
    · obtain ⟨u, v, hu⟩ := h.out d q hq ho
      exact ⟨u, v, forth u _ v d hu⟩
    · obtain ⟨hd, rfl⟩ := List.getElem?_eq_some_iff.1 hq
      simp only [List.length_singleton] at hd
      obtain rfl : d = σ.calls.length := by omega
      exact ⟨t, _, by simpa using ask_tasks_self ht⟩
  · rcases leading_of_ask ht hu' with ⟨rfl, -, rfl, -⟩ | hu <;>
      rcases leading_of_ask ht hw' with ⟨rfl, -, hv, -⟩ | hw
    · rfl
    · exact absurd rfl (old w n _ e hw)
    · exact absurd hv (old u m v d hu)
    · exact h.alone u w m n v d e hu hw

/-- A leader goes, and with it the registration of its flight. -/
theorem depart (h : FlightsOk σ) (ht : σ.tasks[t]? = some ⟨l, .leading f c⟩) (hc : l.code? = some code)
    {st : CallStatus} {fl : Flight} (hst : st.isOut = false) (hfl : fl ≠ .opened) (hg : g.isLive = false) :
    FlightsOk (σ.depart t f c (l.key code) st fl g) := by
  obtain ⟨code', hc', hf, hop, st₀, hq, -⟩ := h.leads t l f c ht
  obtain rfl := Option.some.inj (hc.symm.trans hc')
  have hlt : f < σ.flights.length := (List.getElem?_eq_some_iff.1 hop).1
  -- what another flight is registered for is not the key
  have other : ∀ k v, v ≠ f → σ.inflight.get? k = some v →
      (σ.depart t f c (l.key code) st fl g).inflight.get? k = some v := by
    intro k v hv hk
    rw [depart_inflight hf, if_neg fun he => ?_, hk]
    rw [he, hf] at hk
    exact hv (Option.some.inj hk).symm
  refine ⟨fun u m v d hu' => ?_, fun u m v hu' => ?_, fun k v hk => ?_, fun d q hd ho => ?_,
    fun u w m n v d e hu hw => ?_⟩
  · obtain ⟨hut, hu⟩ := live_of_depart ht hg hu' rfl
    obtain ⟨code', hc', hin, ho, st', hd, hst'⟩ := h.leads u m v d hu
    have hv : v ≠ f := fun he => by subst he; exact hut (h.alone u t m l v d c hu ht)
    have hdc : d ≠ c := fun he => by subst he; exact hut (h.leader_of_call hu ht)
    refine ⟨code', hc', other _ _ hv hin, ?_, st', ?_, hst'⟩
    · rw [depart_flights v hlt, if_neg hv, ho]
    · rw [depart_calls, calls_setCall, if_neg hdc, hd]
      simp only [inquiry, depart_host]
  · obtain ⟨-, hu⟩ := live_of_depart ht hg hu' rfl
    obtain ⟨code', fl', hc', hv, hin⟩ := h.waits u m v hu
    by_cases hvf : v = f
    · exact ⟨code', fl, hc', by rw [depart_flights v hlt, if_pos hvf], fun he => absurd he hfl⟩
    · exact ⟨code', fl', hc', by rw [depart_flights v hlt, if_neg hvf, hv], fun he => other _ _ hvf (hin he)⟩
  · rw [depart_inflight hf] at hk
    split at hk
    · cases hk
    · rename_i hkey
      obtain ⟨u, m, d, code', hu, hc', he⟩ := h.registered k v hk
      refine ⟨u, m, d, code', ?_, hc', he⟩
      rw [depart_tasks_of_ne fun hut => hkey ?_, hu]
      subst hut
      obtain ⟨rfl, -⟩ := Task.mk.inj (Option.some.inj (ht.symm.trans hu))
      rw [← he, Option.some.inj (hc.symm.trans hc')]
  · rw [depart_calls, calls_setCall] at hd
    split at hd
    · subst d
      rw [hq] at hd
      obtain rfl := Option.some.inj hd
      rw [hst] at ho
      cases ho
    · rename_i hdc
      obtain ⟨u, v, hu⟩ := h.out d q hd ho
      refine ⟨u, v, ?_⟩
      rw [depart_tasks_of_ne (ne_of_stage_ne hu ht fun he => hdc (Stage.leading.inj he).2), hu]
  · exact h.alone u w m n v d e (live_of_depart ht hg hu rfl).2 (live_of_depart ht hg hw rfl).2

/-! ### Steps and runs -/

/-- A live task does what `Advance` says. -/
theorem poll_advance (h : FlightsOk σ) (ht : σ.tasks[t]? = some ⟨l, s⟩) (hs : s.isLive = true) :
    Advance σ t l s (σ.poll t) := by
  cases s with
  | fresh => simp only [poll, ht]; exact begin_advance h.toRegistered t l
  | waiting f =>
    obtain ⟨code, fl, hc, hf, -⟩ := h.waits t l f ht
    simp only [poll, ht, hc]
    exact loop_advance h.toRegistered ht hc (by rw [hf]; rfl)
  | leading f c =>
    obtain ⟨code, hc, -, -, st, hq, ho⟩ := h.leads t l f c ht
    cases st with
    | pending => simp only [poll, ht, hc, hq, Option.map_some]; exact .idle hq rfl
    | answered reply => simp only [poll, ht, hc, hq, Option.map_some]; exact .land hc hq rfl
    | concluded | cancelled => cases ho
  | finished | dropped => cases hs

end FlightsOk

/-- What an event can do. -/
inductive Happens (σ : Resolver) : Event → Resolver → Prop
  | start (l : Lookup) : Happens σ (.start l) (σ.start l)
  | advance {t : Nat} {l : Lookup} {s : Stage} {σ' : Resolver} (ht : σ.tasks[t]? = some ⟨l, s⟩)
      (ha : Advance σ t l s σ') : Happens σ (.poll t) σ'
  /-- A task that does not lead is dropped. -/
  | leave {t : Nat} {l : Lookup} {s : Stage} (ht : σ.tasks[t]? = some ⟨l, s⟩) (hl : s.isLive = true)
      (hs : ∀ f c, s ≠ .leading f c) : Happens σ (.drop t) (σ.setStage t .dropped)
  /-- A leader is dropped. -/
  | cancel {t f c : Nat} {l : Lookup} {code : String} (ht : σ.tasks[t]? = some ⟨l, .leading f c⟩)
      (hc : l.code? = some code) :
      Happens σ (.drop t) (σ.depart t f c (l.key code) .cancelled .closed .dropped)
  | answer {c : Nat} {q : LocationCall} {r : Reply} (hq : σ.calls[c]? = some q) (hp : q.status = .pending) :
      Happens σ (.reply c r) (σ.setCall c (.answered r))
  /-- The task is not there, or not live. -/
  | pollNone {t : Nat} (ht : σ.isLive t = false) : Happens σ (.poll t) σ
  | dropNone {t : Nat} (ht : σ.isLive t = false) : Happens σ (.drop t) σ
  /-- The call is not there, or waits for no reply. -/
  | replyNone {c : Nat} {r : Reply} (hc : σ.isPending c = false) : Happens σ (.reply c r) σ

namespace FlightsOk

theorem happens (h : FlightsOk σ) (e : Event) : Happens σ e (σ.step e) := by
  cases e with
  | start l => exact .start l
  | poll t =>
    cases ht : σ.tasks[t]? with
    | none => simp only [Resolver.step, poll, ht]; exact .pollNone (by simp [isLive, ht])
    | some k =>
      obtain ⟨l, s⟩ := k
      cases hs : s.isLive with
      | true => exact .advance ht (h.poll_advance ht hs)
      | false =>
        rw [Resolver.step, poll_of_not_live ht hs]
        exact .pollNone (by simp [isLive, ht, hs])
  | drop t =>
    cases ht : σ.tasks[t]? with
    | none => simp only [Resolver.step, drop, ht]; exact .dropNone (by simp [isLive, ht])
    | some k =>
      obtain ⟨l, s⟩ := k
      by_cases hs : ∃ f c, s = .leading f c
      · obtain ⟨f, c, rfl⟩ := hs
        obtain ⟨code, hc, -⟩ := h.leads t l f c ht
        rw [Resolver.step, drop_leading ht hc]
        exact .cancel ht hc
      · have hs' : ∀ f c, s ≠ .leading f c := fun f c he => hs ⟨f, c, he⟩
        rw [Resolver.step, drop_of_not_leading ht hs']
        cases hl : s.isLive with
        | true => exact .leave ht hl hs'
        | false => exact .dropNone (by simp [isLive, ht, hl])
  | reply c r =>
    cases hq : σ.calls[c]? with
    | none => simp only [Resolver.step, reply, hq]; exact .replyNone (by simp [isPending, hq])
    | some q =>
      cases hp : q.status with
      | pending => simp only [Resolver.step, reply, hq, Option.map_some, hp]; exact .answer hq hp
      | answered | concluded | cancelled =>
        simp only [Resolver.step, reply, hq, Option.map_some, hp]
        exact .replyNone (by simp [isPending, hq, hp])

theorem of_advance (h : FlightsOk σ) (ht : σ.tasks[t]? = some ⟨l, s⟩) (ha : Advance σ t l s σ') :
    FlightsOk σ' := by
  cases ha with
  | skip => exact h.finish ht (fun _ _ => nofun) _
  | refuse hs | known hs => exact h.finish ht hs.not_leading _
  | join hs hc _ _ hf =>
    exact h.setStage ht hs.not_leading (fun _ _ => nofun) fun v hv => by
      cases hv
      exact ⟨_, _, hc, h.toRegistered _ _ hf, fun _ => hf⟩
  | ask hs hc _ _ hf => exact h.ask ht hs.not_leading hc hf
  | wait | idle => exact h
  | share => exact h.finish ht (fun _ _ => nofun) _
  | @land f c code q reply hc hq hp =>
    rw [land_eq]
    exact (h.withCache (σ.cache.conclude l (l.key code) reply).2).depart ht hc rfl nofun rfl

theorem of_happens (h : FlightsOk σ) (he : Happens σ e σ') : FlightsOk σ' := by
  cases he with
  | start l => exact h.start l
  | advance ht ha => exact h.of_advance ht ha
  | leave ht _ hs => exact h.setStage ht hs (fun _ _ => nofun) (fun _ => nofun)
  | cancel ht hc => exact h.depart ht hc rfl nofun rfl
  | answer hq hp => exact h.setCall hq (by rw [hp]; rfl) rfl
  | pollNone | dropNone | replyNone => exact h

theorem step (h : FlightsOk σ) (e : Event) : FlightsOk (σ.step e) := h.of_happens (h.happens e)

theorem run (h : FlightsOk σ) (es : List Event) : FlightsOk (σ.run es) := by
  induction es generalizing σ with
  | nil => exact h
  | cons e es ih => exact ih (h.step e)

/-- What every event preserves holds after a run. -/
theorem run_induction {P : Resolver → Prop} (h : FlightsOk σ) (hP : P σ)
    (hstep : ∀ {σ σ' : Resolver} {e : Event}, FlightsOk σ → P σ → Happens σ e σ' → P σ') (es : List Event) :
    P (σ.run es) := by
  induction es generalizing σ with
  | nil => exact hP
  | cons e es ih => exact ih (h.step e) (hstep h hP (h.happens e))

end FlightsOk

theorem run_append (σ : Resolver) (es es' : List Event) : σ.run (es ++ es') = (σ.run es).run es' :=
  List.foldl_append

/-! ### One task, and one flight -/

theorem Advance.tasks_eq (ha : Advance σ t l s σ') {u : Nat} (hu : u ≠ t) : σ'.tasks[u]? = σ.tasks[u]? := by
  cases ha with
  | skip | refuse | known | join | share => exact tasks_setStage_of_ne hu _
  | ask => exact ask_tasks_of_ne hu
  | wait | idle => rfl
  | land => rw [land_eq, depart_tasks_of_ne hu]

/-- What a step makes of one task: it keeps its stage, or is advanced, or is dropped. -/
inductive Fate (σ : Resolver) (t : Nat) (l : Lookup) (s : Stage) : Resolver → Prop
  | keeps {σ' : Resolver} (ht : σ'.tasks[t]? = some ⟨l, s⟩) : Fate σ t l s σ'
  | advances {σ' : Resolver} (ha : Advance σ t l s σ') : Fate σ t l s σ'
  | leaves (hl : s.isLive = true) (hs : ∀ f c, s ≠ .leading f c) : Fate σ t l s (σ.setStage t .dropped)
  | cancels {f c : Nat} {code : String} (hs : s = .leading f c) :
      Fate σ t l s (σ.depart t f c (l.key code) .cancelled .closed .dropped)

theorem Happens.fate (he : Happens σ e σ') (ht : σ.tasks[t]? = some ⟨l, s⟩) : Fate σ t l s σ' := by
  have same : ∀ {m : Lookup} {g : Stage}, σ.tasks[t]? = some ⟨m, g⟩ → m = l ∧ g = s := fun hu =>
    Task.mk.inj (Option.some.inj (hu.symm.trans ht))
  cases he with
  | start => exact .keeps (start_tasks ht _)
  | @advance u _ _ _ hu ha =>
    by_cases hut : t = u
    · subst hut
      obtain ⟨rfl, rfl⟩ := same hu
      exact .advances ha
    · exact .keeps (by rw [ha.tasks_eq hut, ht])
  | @leave u _ _ hu hl hs =>
    by_cases hut : t = u
    · subst hut
      obtain ⟨rfl, rfl⟩ := same hu
      exact .leaves hl hs
    · exact .keeps (by rw [tasks_setStage_of_ne hut, ht])
  | @cancel u _ _ _ _ hu =>
    by_cases hut : t = u
    · subst hut
      obtain ⟨rfl, rfl⟩ := same hu
      exact .cancels rfl
    · exact .keeps (by rw [depart_tasks_of_ne hut, ht])
  | answer | pollNone | dropNone | replyNone => exact .keeps ht

/-- A task that has ended or was dropped stays as it is. -/
theorem Happens.keeps (he : Happens σ e σ') (ht : σ.tasks[t]? = some ⟨l, s⟩) (hs : s.isLive = false) :
    σ'.tasks[t]? = some ⟨l, s⟩ := by
  cases he.fate ht with
  | keeps ht => exact ht
  | advances ha => rw [ha.isLive] at hs; cases hs
  | leaves hl => rw [hl] at hs; cases hs
  | cancels hl => rw [hl] at hs; cases hs

/-- A flight that is no longer open stays as it is. -/
theorem Happens.flights_eq (he : Happens σ e σ') (h : FlightsOk σ) {fl : Flight}
    (hf : σ.flights[f]? = some fl) (ho : fl ≠ .opened) : σ'.flights[f]? = some fl := by
  -- only a leader's flight is set, which is open
  have leaders : ∀ {t v c : Nat} {l : Lookup}, σ.tasks[t]? = some ⟨l, .leading v c⟩ →
      v < σ.flights.length ∧ f ≠ v := by
    intro t v c l ht
    obtain ⟨-, -, -, hv, -⟩ := h.leads t l v c ht
    refine ⟨h.flight_lt ht, ?_⟩
    rintro rfl
    rw [hf] at hv
    exact ho (Option.some.inj hv)
  cases he with
  | start | leave | answer | pollNone | dropNone | replyNone => exact hf
  | cancel ht => rw [depart_flights f (leaders ht).1, if_neg (leaders ht).2, hf]
  | advance ht ha =>
    cases ha with
    | skip | refuse | known | join | share | wait | idle => exact hf
    | ask => exact ask_flights hf
    | land => rw [land_flights f (leaders ht).1, if_neg (leaders ht).2, hf]

end Callsign.Resolver
