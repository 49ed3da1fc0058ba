import Callsign.Proofs.Resolver.Flights
import Callsign.Proofs.Resolver.Replies

/-!
# The memory of a resolver is its history

`memory_is_history`: the cache holds an entry for a key exactly if a question about it ran to
completion with a reply that leaves one, and it is that entry; and a code is marked exactly if a
completed question about it got a reply that gives the mark. `Remembers` adds what carries this
through a run: nothing is remembered for a key that a task leads for. So the one step that writes to
the cache, a landing, writes an entry for a key that had none.
-/

namespace Callsign.Resolver
variable {σ σ' : Resolver} {t f c : Nat} {l : Lookup} {s g : Stage} {code : String} {e : Event}
  {q p : LocationCall} {r : Reply} {st : CallStatus}

/-- The question ran to completion with this reply. -/
def Completed (σ : Resolver) (q : LocationCall) (r : Reply) : Prop := q ∈ σ.calls ∧ q.status = .concluded r

/-- The memory agrees with the completed questions, and knows nothing of what is being asked. -/
structure Remembers (σ : Resolver) : Prop where
  unknown : ∀ (t : Nat) (l : Lookup) (f c : Nat) (code : String), σ.tasks[t]? = some ⟨l, .leading f c⟩ →
    l.code? = some code → σ.cache.lookup (l.key code) = none
  entries : ∀ key res, σ.cache.lookup key = some res ↔
    ∃ q r, σ.Completed q r ∧ q.key = key ∧ Leaves q.lookup r res
  marks : ∀ (k : Mark) code, (k.codes σ.cache).has code = true ↔
    ∃ q r, σ.Completed q r ∧ k.By r ∧ Text.lowercase (k.codeOf q.lookup) = Text.lowercase code

/-! ### Completed questions after an update -/

/-- A question that was out completes by getting the status of a concluded one. -/
theorem completed_setCall (hp : σ.calls[c]? = some p) (ho : p.status.isOut = true) :
    (σ.setCall c st).Completed q r ↔ σ.Completed q r ∨ (st = .concluded r ∧ q = { p with status := st }) := by
  simp only [Completed, List.mem_iff_getElem?, calls_setCall]
  constructor
  · rintro ⟨⟨i, hi⟩, hq⟩
    split at hi
    · subst i
      rw [hp] at hi
      obtain rfl := Option.some.inj hi
      exact .inr ⟨hq, rfl⟩
    · exact .inl ⟨⟨i, hi⟩, hq⟩
  · rintro (⟨⟨i, hi⟩, hq⟩ | ⟨rfl, rfl⟩)
    · have hic : i ≠ c := by
        rintro rfl
        rw [hp] at hi
        obtain rfl := Option.some.inj hi
        rw [hq] at ho
        cases ho
      exact ⟨⟨i, by rw [if_neg hic, hi]⟩, hq⟩
    · exact ⟨⟨c, by rw [if_pos rfl, hp]; rfl⟩, rfl⟩

theorem completed_depart {key : EndpointKey} {fl : Flight} (hp : σ.calls[c]? = some p)
    (ho : p.status.isOut = true) : (σ.depart t f c key st fl g).Completed q r ↔
      σ.Completed q r ∨ (st = .concluded r ∧ q = { p with status := st }) := by
  rw [← completed_setCall hp ho, Completed, Completed, depart_calls]

theorem completed_ask : (σ.ask t l code).Completed q r ↔ σ.Completed q r := by
  simp only [Completed, ask_calls_eq, List.mem_append, List.mem_singleton]
  constructor
  · rintro ⟨hq | rfl, hs⟩
    · exact ⟨hq, hs⟩
    · cases hs
  · exact fun h => ⟨.inl h.1, h.2⟩

namespace Remembers

theorem initial (host : String) : Remembers { host } := by
  refine ⟨?_, ?_, ?_⟩
  · intro t l f c code h
    simp at h
  · intro key res
    simp [Completed, EndpointCache.lookup, Table.get?, Table.empty]
  · intro k code
    cases k <;> simp [Completed, Mark.codes, CodeSet.has]

/-- An update that completes nothing and leaves the cache as it is. -/
theorem frame (h : Remembers σ) (hcache : σ'.cache = σ.cache)
    (hcalls : ∀ q r, σ'.Completed q r ↔ σ.Completed q r)
    (hleads : ∀ (t : Nat) (l : Lookup) (f c : Nat) (code : String), σ'.tasks[t]? = some ⟨l, .leading f c⟩ →
      l.code? = some code → σ.cache.lookup (l.key code) = none) : Remembers σ' := by
  refine ⟨?_, ?_, ?_⟩ <;> simp only [hcache, hcalls]
  · exact hleads
  · exact h.entries
  · exact h.marks

theorem setStage (h : Remembers σ) (ht : σ.tasks[t]? = some ⟨l, s⟩) (hg : ∀ f c, g ≠ .leading f c) :
    Remembers (σ.setStage t g) :=
  h.frame rfl (fun _ _ => Iff.rfl) fun u m v d _ hu => h.unknown u m v d _ (leading_of_setStage ht hg hu)

/-- The leader sees the reply: its key was unknown, and gets the entry that the reply leaves. -/
theorem land (h : Remembers σ) (hf : FlightsOk σ) (ht : σ.tasks[t]? = some ⟨l, .leading f c⟩)
    (hc : l.code? = some code) (r : Reply) : Remembers (σ.land t f c l (l.key code) r) := by
  obtain ⟨code', hc', -, -, st, hq, ho⟩ := hf.leads t l f c ht
  obtain rfl := Option.some.inj (hc.symm.trans hc')
  have hk : σ.cache.lookup (l.key code) = none := h.unknown t l f c code ht hc
  have hcomp : ∀ q r', (σ.land t f c l (l.key code) r).Completed q r' ↔
      σ.Completed q r' ∨ (r' = r ∧ q = ⟨l, σ.inquiry l code, .concluded r⟩) := by
    intro q r'
    rw [land_eq]
    refine (completed_depart (by exact hq) ho).trans ?_
    rw [CallStatus.concluded.injEq, eq_comm (b := r')]
    rfl
  refine ⟨fun u m v d code' hu hc' => ?_, fun key res => ?_, fun k code' => ?_⟩
  · rw [land_eq] at hu
    obtain ⟨hut, hu⟩ := live_of_depart (by exact ht) rfl hu rfl
    have hkey : m.key code' ≠ l.key code := fun he => hut (hf.leader_unique hu ht hc' hc he).1
    rw [land_eq, depart_cache, Option.eq_none_iff_forall_ne_some]
    intro res hres
    rcases (EndpointCache.lookup_conclude hk _ _).1 hres with ⟨he, -⟩ | hres
    · exact hkey he
    · rw [h.unknown u m v d code' hu hc'] at hres
      cases hres
  · rw [land_eq, depart_cache, EndpointCache.lookup_conclude hk, ← land_eq, h.entries]
    simp only [hcomp]
    constructor
    · rintro (⟨rfl, hl⟩ | ⟨q, r', hq, hk, hl⟩)
      · exact ⟨_, r, .inr ⟨rfl, rfl⟩, rfl, hl⟩
      · exact ⟨q, r', .inl hq, hk, hl⟩
    · rintro ⟨q, r', hq | ⟨rfl, rfl⟩, hk, hl⟩
      · exact .inr ⟨q, r', hq, hk, hl⟩
      · exact .inl ⟨hk.symm, hl⟩
  · rw [land_eq, depart_cache, EndpointCache.has_conclude, ← land_eq, h.marks]
    simp only [hcomp]
    constructor
    · rintro (⟨hb, he⟩ | ⟨q, r', hq, hb, he⟩)
      · exact ⟨_, r, .inr ⟨rfl, rfl⟩, hb, he⟩
      · exact ⟨q, r', .inl hq, hb, he⟩
    · rintro ⟨q, r', hq | ⟨rfl, rfl⟩, hb, he⟩
      · exact .inr ⟨q, r', hq, hb, he⟩
      · exact .inl ⟨hb, he⟩

theorem of_advance (h : Remembers σ) (hf : FlightsOk σ) (ht : σ.tasks[t]? = some ⟨l, s⟩)
    (ha : Advance σ t l s σ') : Remembers σ' := by
  cases ha with
  | skip | refuse | known | join | share => exact h.setStage ht fun _ _ => nofun
  | wait | idle => exact h
  | ask hs hc _ hk _ =>
    refine h.frame rfl (fun _ _ => completed_ask) fun u m v d code' hu hc' => ?_
    rcases leading_of_ask ht hu with ⟨-, rfl, -, -⟩ | hu
    · rw [← Option.some.inj (hc.symm.trans hc'), hk]
    · exact h.unknown u m v d code' hu hc'
  | land hc hq hp => exact h.land hf ht hc _

theorem of_happens (h : Remembers σ) (hf : FlightsOk σ) (he : Happens σ e σ') : Remembers σ' := by
  cases he with
  | start l =>
    refine h.frame rfl (fun _ _ => Iff.rfl) fun u m v d code hu => ?_
    exact h.unknown u m v d code ((start_tasks_cases hu).resolve_right fun he => nomatch he.2)
  | advance ht ha => exact h.of_advance hf ht ha
  | leave ht => exact h.setStage ht fun _ _ => nofun
  | @cancel t f c l code ht hc =>
    obtain ⟨_, -, -, -, st, hq, ho⟩ := hf.leads t l f c ht
    refine h.frame depart_cache (fun q r => ?_) fun u m v d code' hu => ?_
    · simp [completed_depart hq ho]
    · exact h.unknown u m v d code' (live_of_depart ht rfl hu rfl).2
  | answer hq hp =>
    refine h.frame rfl (fun q r => ?_) h.unknown
    simp [completed_setCall hq (by rw [hp]; rfl)]
  | pollNone | dropNone | replyNone => exact h

theorem run (h : Remembers σ) (hf : FlightsOk σ) (es : List Event) : Remembers (σ.run es) :=
  hf.run_induction (P := Remembers) h (fun hf h he => h.of_happens hf he) es

/-- What every event preserves, given the memory, holds after a run. -/
theorem run_induction {P : Resolver → Prop} (h : Remembers σ) (hf : FlightsOk σ) (hP : P σ)
    (hstep : ∀ {σ σ' : Resolver} {e : Event}, FlightsOk σ → Remembers σ → P σ → Happens σ e σ' → P σ')
    (es : List Event) : P (σ.run es) := by
  have hboth : Remembers σ ∧ P σ := ⟨h, hP⟩
  refine (hf.run_induction (P := fun σ => Remembers σ ∧ P σ) hboth (fun hf hb he => ?_) es).2
  exact ⟨hb.1.of_happens hf he, hstep hf hb.1 hb.2 he⟩

end Remembers

end Callsign.Resolver
