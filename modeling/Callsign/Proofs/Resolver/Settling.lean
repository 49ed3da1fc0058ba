import Callsign.Endpoint.Settling
import Callsign.Proofs.Resolver.Flights
import Mathlib.Algebra.GroupWithZero.Nat

/-!
# A resolver settles

A task that is advanced ends, or puts its question, or comes to rest and changes nothing that another task
looks at (`Advance.turn`). Each end and each question takes away from what the tasks can still do (`weight`), so a
round either takes something away or leaves every task at rest (`FlightsOk.round_onward`).

A task can do two things at most, so `settle` is never stopped by its bound: afterwards nothing comes of
advancing any task (`settle_rests`), and no further round would be made (`rounds_eq_settle`). To settle is to
advance tasks and nothing else, and the tasks that are named are those that ended (`settle_polled`).
-/

namespace Callsign

/-- How many things a task can still do, of putting its question and ending. -/
def Stage.weight : Stage → Nat
  | fresh | waiting _ => 2
  | leading .. => 1
  | finished _ | dropped => 0

namespace Stage
variable {g : Stage}

theorem weight_le (g : Stage) : g.weight ≤ 2 := by
  cases g <;> simp [weight]

theorem weight_of_not_live (h : g.isLive = false) : g.weight = 0 := by
  cases g with
  | finished | dropped => rfl
  | fresh | leading | waiting => cases h

theorem weight_pos (h : g.isLive = true) : 0 < g.weight := by
  cases g with
  | fresh | leading | waiting => exact Nat.succ_pos _
  | finished | dropped => cases h

end Stage

namespace Resolver
variable {σ σ' : Resolver} {t u n : Nat} {l : Lookup} {s g : Stage} {x y z : Settled} {ts us : List Nat}

/-! ### What is left to do -/

/-- How many things the tasks can still do. -/
def weight (σ : Resolver) : Nat := (σ.tasks.map (·.stage.weight)).sum

theorem weight_le (σ : Resolver) : σ.weight ≤ 2 * σ.tasks.length := by
  unfold weight
  induction σ.tasks with
  | nil => exact Nat.le_refl 0
  | cons k ks ih =>
    have hk := k.stage.weight_le
    simp only [List.map_cons, List.sum_cons, List.length_cons]
    omega

theorem sum_weight_set {ks : List Task} {k : Task} (h : ks[t]? = some k) (k' : Task) :
    ((ks.set t k').map (·.stage.weight)).sum + k.stage.weight =
      (ks.map (·.stage.weight)).sum + k'.stage.weight := by
  induction ks generalizing t with
  | nil => cases h
  | cons j ks ih =>
    cases t with
    | zero =>
      obtain rfl := Option.some.inj h
      simp only [List.set_cons_zero, List.map_cons, List.sum_cons]
      omega
    | succ t =>
      have := ih (t := t) h
      simp only [List.set_cons_succ, List.map_cons, List.sum_cons]
      omega

/-- If one task alone goes to another stage, the weight changes by what its own does. -/
theorem weight_add (ht : σ.tasks[t]? = some ⟨l, s⟩) (ht' : σ'.tasks[t]? = some ⟨l, g⟩)
    (hu : ∀ u ≠ t, σ'.tasks[u]? = σ.tasks[u]?) : σ'.weight + s.weight = σ.weight + g.weight := by
  have hset : σ'.tasks = σ.tasks.set t ⟨l, g⟩ := by
    refine List.ext_getElem? fun u => ?_
    by_cases h : u = t
    · subst h
      rw [ht', List.getElem?_set_self (List.getElem?_eq_some_iff.1 ht).1]
    · rw [hu u h, List.getElem?_set_ne (Ne.symm h)]
  rw [weight, hset]
  exact sum_weight_set ht _

/-! ### A task at rest -/

/-- A task at this stage has ended, or waits for a flight that is open or for a reply that is not there. -/
inductive Rests (σ : Resolver) : Stage → Prop
  | waits {f : Nat} (hf : σ.flights[f]? = some .opened) : Rests σ (.waiting f)
  | leads {f c : Nat} {q : LocationCall} (hq : σ.calls[c]? = some q) (hp : q.status = .pending) :
      Rests σ (.leading f c)
  | gone {s : Stage} (hs : s.isLive = false) : Rests σ s

/-- The task is at rest, or is not there. -/
def RestsAt (σ : Resolver) (t : Nat) : Prop := ∀ l s, σ.tasks[t]? = some ⟨l, s⟩ → σ.Rests s

theorem Rests.poll_eq (h : σ.Rests s) (ht : σ.tasks[t]? = some ⟨l, s⟩) : σ.poll t = σ := by
  cases h with
  | waits hf =>
    cases hc : l.code? with
    | none => simp only [poll, ht, hc]
    | some code =>
      simp only [poll, ht, hc, loop, passes, pass, await, hf, Option.getD_some, setStage_same ht]
  | leads hq hp =>
    cases hc : l.code? with
    | none => simp only [poll, ht, hc]
    | some code => simp only [poll, ht, hc, hq, Option.map_some, hp]
  | gone hs => exact poll_of_not_live ht hs

/-- Nothing comes of advancing a task at rest. -/
theorem RestsAt.poll_eq (h : σ.RestsAt t) : σ.poll t = σ := by
  cases ht : σ.tasks[t]? with
  | none => simp only [poll, ht]
  | some k => exact (h k.lookup k.stage ht).poll_eq ht

theorem isLive_eq (ht : σ.tasks[t]? = some ⟨l, s⟩) : σ.isLive t = s.isLive := by
  simp [isLive, ht]

theorem restsAt_of_not_live (h : σ.isLive t = false) : σ.RestsAt t := fun _ _ ht => .gone (isLive_eq ht ▸ h)

/-- A task at rest looks at the flights and the calls only. -/
theorem RestsAt.congr (h : σ.RestsAt t) (ht : σ'.tasks[t]? = σ.tasks[t]?) (hf : σ'.flights = σ.flights)
    (hc : σ'.calls = σ.calls) : σ'.RestsAt t := by
  intro l s hs
  cases h l s (ht ▸ hs) with
  | waits hw => exact .waits (hf ▸ hw)
  | leads hq hp => exact .leads (hc ▸ hq) hp
  | gone hs => exact .gone hs

/-! ### One task is advanced -/

/-- What a live task does when it is advanced, and the stage at which it then stands. -/
inductive Turn (σ : Resolver) (s : Stage) (σ' : Resolver) : Stage → Prop
  | ends {g : Stage} (hg : g.isLive = false) (hc : σ'.calls.length = σ.calls.length) : Turn σ s σ' g
  | asks {f c : Nat} (hs : s.weight = 2) (hc : σ'.calls.length = σ.calls.length + 1) :
      Turn σ s σ' (.leading f c)
  | rests {g : Stage} (hr : σ'.Rests g) (hg : g.isLive = true) (hw : g.weight = s.weight)
      (hf : σ'.flights = σ.flights) (hc : σ'.calls = σ.calls) : Turn σ s σ' g

theorem AtTop.weight (hs : σ.AtTop s) : s.weight = 2 := by
  cases s with
  | fresh | waiting => rfl
  | leading | finished | dropped => exact hs.elim

theorem Advance.turn (hreg : σ.Registered) (ht : σ.tasks[t]? = some ⟨l, s⟩) (ha : Advance σ t l s σ') :
    ∃ g, σ'.tasks[t]? = some ⟨l, g⟩ ∧ Turn σ s σ' g := by
  cases ha with
  | skip | refuse | known | share => exact ⟨_, tasks_setStage_self ht _, .ends rfl rfl⟩
  | join hs _ _ _ hf =>
    exact ⟨_, tasks_setStage_self ht _, .rests (.waits (hreg _ _ hf)) rfl hs.weight.symm rfl rfl⟩
  | ask hs => exact ⟨_, ask_tasks_self ht, .asks hs.weight (by simp [ask_calls_eq])⟩
  | wait hf => exact ⟨_, ht, .rests (.waits hf) rfl rfl rfl rfl⟩
  | idle hq hp => exact ⟨_, ht, .rests (.leads hq hp) rfl rfl rfl rfl⟩
  | land => exact ⟨_, land_tasks_self ht _ _, .ends rfl (by rw [land_eq, depart_calls]; simp [setCall])⟩

/-- A live task that is advanced takes its turn, and all others stay as they are. -/
theorem FlightsOk.turn (h : σ.FlightsOk) (hl : σ.isLive t = true) :
    ∃ l s g, σ.tasks[t]? = some ⟨l, s⟩ ∧ s.isLive = true ∧ (σ.poll t).tasks[t]? = some ⟨l, g⟩ ∧
      Turn σ s (σ.poll t) g ∧ ∀ u ≠ t, (σ.poll t).tasks[u]? = σ.tasks[u]? := by
  cases ht : σ.tasks[t]? with
  | none => simp [isLive, ht] at hl
  | some k =>
    obtain ⟨l, s⟩ := k
    have hs : s.isLive = true := isLive_eq ht ▸ hl
    have ha := h.poll_advance ht hs
    obtain ⟨g, hg, hturn⟩ := ha.turn h.toRegistered ht
    exact ⟨l, s, g, rfl, hs, hg, hturn, fun u hu => ha.tasks_eq hu⟩

theorem advance_of_live (hl : x.resolver.isLive t = true) : x.advance t =
    ⟨x.resolver.poll t, if (x.resolver.poll t).isLive t then x.ended else x.ended ++ [t]⟩ := if_pos hl

theorem advance_of_not_live (hl : x.resolver.isLive t = false) : x.advance t = x :=
  if_neg (by rw [hl]; exact Bool.false_ne_true)

theorem FlightsOk.advance (h : x.resolver.FlightsOk) (t : Nat) : (x.advance t).resolver.FlightsOk := by
  unfold Settled.advance
  split
  · exact h.step (.poll t)
  · exact h

/-! ### Tasks are advanced one after the other -/

/-- What comes of advancing the tasks `ts`: each end and each question is taken off the weight, and if there
were none, these tasks are at rest, and so are all that were. -/
structure Onward (x y : Settled) (ts : List Nat) : Prop where
  ended : x.ended.length ≤ y.ended.length
  calls : x.resolver.calls.length ≤ y.resolver.calls.length
  weight : y.resolver.weight + y.ended.length + y.resolver.calls.length ≤
    x.resolver.weight + x.ended.length + x.resolver.calls.length
  still : y.ended.length = x.ended.length → y.resolver.calls.length = x.resolver.calls.length →
    (∀ t ∈ ts, y.resolver.RestsAt t) ∧ ∀ t, x.resolver.RestsAt t → y.resolver.RestsAt t

theorem Onward.refl (x : Settled) : Onward x x [] :=
  ⟨Nat.le_refl _, Nat.le_refl _, Nat.le_refl _, fun _ _ => ⟨nofun, fun _ => id⟩⟩

theorem Onward.trans (h : Onward x y ts) (h' : Onward y z us) : Onward x z (ts ++ us) := by
  refine ⟨Nat.le_trans h.ended h'.ended, Nat.le_trans h.calls h'.calls, Nat.le_trans h'.weight h.weight, ?_⟩
  intro he hc
  have hended := h.ended
  have hended' := h'.ended
  have hcalls := h.calls
  have hcalls' := h'.calls
  obtain ⟨hts, hold⟩ := h.still (by omega) (by omega)
  obtain ⟨hus, hold'⟩ := h'.still (by omega) (by omega)
  refine ⟨fun t ht => ?_, fun t ht => hold' t (hold t ht)⟩
  rcases List.mem_append.1 ht with ht | ht
  · exact hold' t (hts t ht)
  · exact hus t ht

/-- One task ended. -/
theorem Onward.of_ends (hw : σ'.weight < x.resolver.weight) (hc : σ'.calls.length = x.resolver.calls.length) :
    Onward x ⟨σ', x.ended ++ [t]⟩ ts := by
  have hlen : (x.ended ++ [t]).length = x.ended.length + 1 := List.length_append
  refine ⟨?_, Nat.le_of_eq hc.symm, ?_, fun he => ?_⟩
  · exact hlen ▸ Nat.le_succ _
  · dsimp only
    omega
  · dsimp only at he
    omega

/-- One question was put. -/
theorem Onward.of_asks (hw : σ'.weight < x.resolver.weight) (hc : σ'.calls.length = x.resolver.calls.length + 1) :
    Onward x ⟨σ', x.ended⟩ ts := by
  refine ⟨Nat.le_refl _, hc ▸ Nat.le_succ _, ?_, fun _ he => ?_⟩
  · dsimp only
    omega
  · dsimp only at he
    omega

/-- One task came to rest, and nothing happened that another one looks at. -/
theorem Onward.of_rests (hw : σ'.weight = x.resolver.weight) (hf : σ'.flights = x.resolver.flights)
    (hc : σ'.calls = x.resolver.calls) (ht : σ'.RestsAt t)
    (hu : ∀ u ≠ t, σ'.tasks[u]? = x.resolver.tasks[u]?) : Onward x ⟨σ', x.ended⟩ [t] := by
  have hcalls : σ'.calls.length = x.resolver.calls.length := by rw [hc]
  refine ⟨Nat.le_refl _, Nat.le_of_eq hcalls.symm, ?_, fun _ _ => ⟨List.forall_mem_singleton.2 ht, fun u hold => ?_⟩⟩
  · dsimp only
    omega
  · by_cases hut : u = t
    · exact hut ▸ ht
    · exact hold.congr (hu u hut) hf hc

theorem FlightsOk.advance_onward (h : x.resolver.FlightsOk) (t : Nat) : Onward x (x.advance t) [t] := by
  cases hl : x.resolver.isLive t with
  | false =>
    rw [advance_of_not_live hl]
    refine ⟨Nat.le_refl _, Nat.le_refl _, Nat.le_refl _, fun _ _ => ⟨?_, fun _ => id⟩⟩
    exact List.forall_mem_singleton.2 (restsAt_of_not_live hl)
  | true =>
    obtain ⟨l, s, g, ht, hs, hg, hturn, hu⟩ := h.turn hl
    have hw := weight_add ht hg hu
    rw [advance_of_live hl, isLive_eq hg]
    generalize x.resolver.poll t = σ' at *
    cases hturn with
    | ends hend hc =>
      have hpos := s.weight_pos hs
      rw [Stage.weight_of_not_live hend] at hw
      rw [hend, if_neg Bool.false_ne_true]
      exact .of_ends (by omega) hc
    | asks htwo hc =>
      rw [htwo, Stage.weight] at hw
      exact .of_asks (by omega) hc
    | rests hr hlive hsame hf hc =>
      rw [hlive, if_pos rfl]
      exact .of_rests (by omega) hf hc (fun _ _ ht' => stage_eq hg ht' ▸ hr) hu

theorem FlightsOk.foldl_onward (h : x.resolver.FlightsOk) (ts : List Nat) :
    Onward x (ts.foldl Settled.advance x) ts := by
  induction ts generalizing x with
  | nil => exact .refl x
  | cons t ts ih => exact (h.advance_onward t).trans (ih (h.advance t))

/-- `x` holds what became of `σ` when tasks were advanced, and those that ended on the way. -/
structure Polled (σ : Resolver) (x : Settled) : Prop where
  run : ∃ ts : List Nat, x.resolver = σ.run (ts.map .poll)
  nodup : x.ended.Nodup
  ended : ∀ t, t ∈ x.ended ↔ σ.isLive t = true ∧ x.resolver.isLive t = false
  live : ∀ t, x.resolver.isLive t = true → σ.isLive t = true

theorem Polled.refl (σ : Resolver) : Polled σ ⟨σ, []⟩ :=
  ⟨⟨[], rfl⟩, List.nodup_nil, by simp, fun _ => id⟩

theorem Polled.flightsOk (p : Polled σ x) (h : σ.FlightsOk) : x.resolver.FlightsOk := by
  obtain ⟨ts, he⟩ := p.run
  rw [he]
  exact h.run _

theorem Polled.advance (p : Polled σ x) (h : σ.FlightsOk) (t : Nat) : Polled σ (x.advance t) := by
  cases hl : x.resolver.isLive t with
  | false => exact (advance_of_not_live hl).symm ▸ p
  | true =>
    obtain ⟨-, -, -, -, -, -, -, hu⟩ := (p.flightsOk h).turn hl
    obtain ⟨ts, hts⟩ := p.run
    have hrun : x.resolver.poll t = σ.run ((ts ++ [t]).map .poll) := by
      rw [List.map_append, run_append, ← hts]
      rfl
    rw [advance_of_live hl]
    generalize x.resolver.poll t = σ' at *
    -- only this task can have ended, and it was live from the start
    have hother : ∀ u ≠ t, σ'.isLive u = x.resolver.isLive u := fun u hne => by rw [isLive, isLive, hu u hne]
    have hlive : ∀ u, σ'.isLive u = true → σ.isLive u = true := fun u hul => by
      by_cases hut : u = t
      · exact p.live u (hut ▸ hl)
      · exact p.live u (hother u hut ▸ hul)
    cases hend : σ'.isLive t with
    | true =>
      refine ⟨⟨_, hrun⟩, p.nodup, fun u => (p.ended u).trans ?_, hlive⟩
      by_cases hut : u = t
      · simp only [hut, hl, hend]
      · simp only [hother u hut]
    | false =>
      have hnot : ∀ u ∈ x.ended, u ≠ t := by
        rintro u hmem rfl
        rw [((p.ended u).1 hmem).2] at hl
        cases hl
      refine ⟨⟨_, hrun⟩, ?_, fun u => ?_, hlive⟩
      · exact List.nodup_append.2 ⟨p.nodup, List.pairwise_singleton _ t, by simpa using hnot⟩
      · by_cases hut : u = t
        · simp [hut, hend, p.live t hl]
        · simp [hut, hother u hut, p.ended u]

theorem Polled.foldl (p : Polled σ x) (h : σ.FlightsOk) (ts : List Nat) :
    Polled σ (ts.foldl Settled.advance x) := by
  induction ts generalizing x with
  | nil => exact p
  | cons t ts ih => exact ih (p.advance h t)

theorem Polled.append (p : Polled σ x) (q : Polled x.resolver y) : Polled σ ⟨y.resolver, x.ended ++ y.ended⟩ := by
  refine ⟨?_, ?_, fun t => ?_, fun t ht => p.live t (q.live t ht)⟩
  · obtain ⟨ts, hts⟩ := p.run
    obtain ⟨us, hus⟩ := q.run
    exact ⟨ts ++ us, by rw [hus, hts, List.map_append, run_append]⟩
  · refine List.nodup_append.2 ⟨p.nodup, q.nodup, ?_⟩
    rintro t ht _ hu rfl
    have hdead := ((p.ended t).1 ht).2
    rw [((q.ended t).1 hu).1] at hdead
    cases hdead
  · rw [List.mem_append, p.ended, q.ended]
    have hp := p.live t
    have hq := q.live t
    cases hx : x.resolver.isLive t with
    | true => simp [hp hx]
    | false => simp [mt hq (by simp [hx])]

/-! ### Rounds -/

theorem FlightsOk.round_polled (h : σ.FlightsOk) : Polled σ σ.round := (Polled.refl σ).foldl h _

theorem FlightsOk.round (h : σ.FlightsOk) : σ.round.resolver.FlightsOk := h.round_polled.flightsOk h

theorem FlightsOk.round_onward (h : σ.FlightsOk) : Onward ⟨σ, []⟩ σ.round (List.range σ.tasks.length) :=
  FlightsOk.foldl_onward (x := ⟨σ, []⟩) h _

/-- No task ended in a round, and no question was put. -/
def Still (σ : Resolver) : Prop := σ.round.ended = [] ∧ σ.round.resolver.calls.length = σ.calls.length

theorem rounds_of_still (h : σ.Still) (n : Nat) : σ.rounds (n + 1) = σ.round := by
  simp [rounds, h.1, h.2]

theorem rounds_of_not_still (h : ¬σ.Still) (n : Nat) : σ.rounds (n + 1) =
    ⟨(σ.round.resolver.rounds n).resolver, σ.round.ended ++ (σ.round.resolver.rounds n).ended⟩ := by
  rw [rounds]
  exact if_neg (by simpa [Still] using h)

/-- A still round leaves every task at rest. -/
theorem FlightsOk.round_rests (h : σ.FlightsOk) (hs : σ.Still) (t : Nat) : σ.round.resolver.RestsAt t := by
  obtain ⟨hall, hold⟩ := h.round_onward.still (by rw [hs.1]) hs.2
  by_cases ht : t < σ.tasks.length
  · exact hall t (List.mem_range.2 ht)
  · refine hold t fun l s hs => ?_
    rw [List.getElem?_eq_none (Nat.le_of_not_lt ht)] at hs
    cases hs

/-- Any other round takes something off what the tasks can still do. -/
theorem FlightsOk.round_weight (h : σ.FlightsOk) (hs : ¬σ.Still) : σ.round.resolver.weight < σ.weight := by
  have hcalls := h.round_onward.calls
  have hweight := h.round_onward.weight
  have hended : σ.round.ended.length = 0 → σ.round.resolver.calls.length ≠ σ.calls.length := fun h0 hc =>
    hs ⟨List.length_eq_zero_iff.1 h0, hc⟩
  simp only [List.length_nil] at hcalls hweight
  omega

theorem FlightsOk.rounds_rests (h : σ.FlightsOk) (hn : σ.weight < n) (t : Nat) :
    (σ.rounds n).resolver.RestsAt t := by
  -- on the bound: a round that is not still takes at least one off the weight, which stays below it
  induction n generalizing σ with
  | zero => cases hn
  | succ n ih =>
    by_cases hs : σ.Still
    · rw [rounds_of_still hs]
      exact h.round_rests hs t
    · rw [rounds_of_not_still hs]
      have hw := h.round_weight hs
      exact ih h.round (by omega)

/-- Rounds end by themselves, so a larger bound makes no difference. -/
theorem FlightsOk.rounds_eq {k : Nat} (h : σ.FlightsOk) (hn : σ.weight < n) (hk : n ≤ k) :
    σ.rounds k = σ.rounds n := by
  induction n generalizing σ k with
  | zero => cases hn
  | succ n ih =>
    obtain ⟨k, rfl⟩ := Nat.exists_eq_add_of_le' (Nat.lt_of_lt_of_le (Nat.succ_pos n) hk)
    by_cases hs : σ.Still
    · rw [rounds_of_still hs, rounds_of_still hs]
    · have hw := h.round_weight hs
      rw [rounds_of_not_still hs, rounds_of_not_still hs, ih h.round (by omega) (Nat.le_of_succ_le_succ hk)]

theorem FlightsOk.rounds_polled (h : σ.FlightsOk) (n : Nat) : Polled σ (σ.rounds n) := by
  induction n generalizing σ with
  | zero => exact .refl σ
  | succ n ih =>
    by_cases hs : σ.Still
    · exact rounds_of_still hs n ▸ h.round_polled
    · exact rounds_of_not_still hs n ▸ h.round_polled.append (ih h.round)

/-! ### Settling -/

/-- When a resolver has settled, nothing comes of advancing any task. -/
theorem FlightsOk.settle_rests (h : σ.FlightsOk) (t : Nat) : σ.settle.resolver.poll t = σ.settle.resolver :=
  (h.rounds_rests (Nat.lt_succ_of_le σ.weight_le) t).poll_eq

/-- Twice as many rounds as tasks, and one in which nothing happens, are all the rounds there are. -/
theorem FlightsOk.rounds_eq_settle (h : σ.FlightsOk) (hn : 2 * σ.tasks.length < n) : σ.rounds n = σ.settle :=
  h.rounds_eq (Nat.lt_succ_of_le σ.weight_le) hn

/-- To settle is to advance tasks, and the tasks that it names are those that ended, each once. -/
theorem FlightsOk.settle_polled (h : σ.FlightsOk) : Polled σ σ.settle := h.rounds_polled _

theorem FlightsOk.settle_step_eq_run (h : σ.FlightsOk) (e : Event) :
    ∃ es, (σ.step e).settle.resolver = σ.run es := by
  obtain ⟨ts, hts⟩ := (h.step e).settle_polled.run
  exact ⟨e :: ts.map .poll, hts⟩

/-- A look-up that is replied to at once is some of the things that can happen. -/
theorem FlightsOk.resolved_eq_run (h : σ.FlightsOk) (l : Lookup) (r : Reply) :
    ∃ es, (σ.resolved l r).resolver = σ.run es := by
  obtain ⟨es, hes⟩ := h.settle_step_eq_run (.start l)
  rw [resolved, started]
  split
  · exact ⟨es, hes⟩
  · obtain ⟨es', hes'⟩ := (h.run es).settle_step_eq_run (.reply σ.calls.length r)
    refine ⟨es ++ es', ?_⟩
    rw [run_append, ← hes', ← hes]
    rfl

end Resolver

end Callsign
