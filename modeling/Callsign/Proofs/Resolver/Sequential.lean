import Callsign.Endpoint.Located
import Callsign.Proofs.Resolver.SingleFlight

/-!
# One look-up after the other

A look-up that a resolver runs to its end with its client is some of the things that can happen to them
(`Located.resolve_eq_run`). Where no other task is under way nobody leads, so its task ends at once or leads, and
a leader whose question is answered ends: the look-up has come to its end (`Located.resolve_tasks`).
-/

namespace Callsign
open Time (Instant)

namespace Resolver
variable {σ σ' : Resolver} {t f c : Nat} {l : Lookup} {q : LocationCall}

/-- No task is under way. -/
def Quiet (σ : Resolver) : Prop := ∀ k ∈ σ.tasks, k.stage.isLive = false

theorem Quiet.isLive (h : σ.Quiet) (t : Nat) : σ.isLive t = false := by
  cases ht : σ.tasks[t]? with
  | none => simp [Resolver.isLive, ht]
  | some k => simpa [Resolver.isLive, ht] using h k (List.mem_of_getElem? ht)

theorem Quiet.snoc (h : σ.Quiet) {r : Except Error Resolution} (he : σ'.tasks = σ.tasks ++ [⟨l, .finished r⟩]) :
    σ'.Quiet := by
  intro k hk
  rw [he] at hk
  rcases List.mem_append.1 hk with hk | hk
  · exact h k hk
  · rw [List.mem_singleton.1 hk]
    rfl

/-- The resolver when one more task has begun. -/
def launch (σ : Resolver) (l : Lookup) : Resolver := (σ.start l).poll σ.tasks.length

theorem start_tasks_last (σ : Resolver) (l : Lookup) : (σ.start l).tasks[σ.tasks.length]? = some ⟨l, .fresh⟩ :=
  List.getElem?_concat_length

theorem FlightsOk.launch_advance (h : σ.FlightsOk) (l : Lookup) :
    Advance (σ.start l) σ.tasks.length l .fresh (σ.launch l) :=
  (h.step (.start l)).poll_advance (σ.start_tasks_last l) rfl

theorem FlightsOk.launch (h : σ.FlightsOk) (l : Lookup) : (σ.launch l).FlightsOk :=
  (h.step (.start l)).step (.poll σ.tasks.length)

/-- A task that begins leads and puts a question, or puts none, and then it ends at once where nobody leads. -/
theorem FlightsOk.launch_cases (h : σ.FlightsOk) (l : Lookup) :
    ((σ.launch l).calls[σ.calls.length]? = none ∧
      (σ.inflight = .empty → ∃ r, (σ.launch l).tasks[σ.tasks.length]? = some ⟨l, .finished r⟩)) ∨
    ∃ f q, (σ.launch l).tasks[σ.tasks.length]? = some ⟨l, .leading f σ.calls.length⟩ ∧
      (σ.launch l).calls[σ.calls.length]? = some q ∧ q.status = .pending := by
  have ht := σ.start_tasks_last l
  have hn : σ.calls[σ.calls.length]? = none := List.getElem?_eq_none (Nat.le_refl _)
  have ha := h.launch_advance l
  generalize σ.launch l = σ' at ha ⊢
  cases ha with
  | skip | refuse | known => exact .inl ⟨hn, fun _ => ⟨_, tasks_setStage_self ht _⟩⟩
  | join _ _ _ _ hf =>
    refine .inl ⟨hn, fun he => ?_⟩
    have hf' : σ.inflight.get? _ = some _ := hf
    rw [he] at hf'
    cases hf'
  | ask => exact .inr ⟨_, _, ask_tasks_self ht, List.getElem?_concat_length, rfl⟩

/-- A leader ends when it sees its reply, and no other task does anything. -/
theorem FlightsOk.poll_reply (h : σ.FlightsOk) (ht : σ.tasks[t]? = some ⟨l, .leading f c⟩)
    (hq : σ.calls[c]? = some q) (hp : q.status = .pending) (r : Reply) :
    (∃ r', ((σ.reply c r).poll t).tasks[t]? = some ⟨l, .finished r'⟩) ∧
      ∀ u ≠ t, ((σ.reply c r).poll t).tasks[u]? = σ.tasks[u]? := by
  have he : σ.reply c r = σ.setCall c (.answered r) := by simp only [reply, hq, Option.map_some, hp]
  have ht' : (σ.setCall c (.answered r)).tasks[t]? = some ⟨l, .leading f c⟩ := ht
  have hc : (σ.setCall c (.answered r)).calls[c]? = some { q with status := .answered r } := by
    rw [calls_setCall, if_pos rfl, hq]
    rfl
  have h' : (σ.setCall c (.answered r)).FlightsOk := he ▸ h.step (.reply c r)
  have ha := h'.poll_advance ht' rfl
  rw [he]
  refine ⟨?_, fun u hu => ha.tasks_eq hu⟩
  generalize (σ.setCall c (.answered r)).poll t = σ' at ha ⊢
  cases ha with
  | idle hq' hp' =>
    obtain rfl := Option.some.inj (hc.symm.trans hq')
    cases hp'
  | land => exact ⟨_, land_tasks_self ht' _ _⟩
  | refuse hs | known hs | join hs | ask hs => exact hs.elim

/-- If only the last task is another one, the tasks are those there were and this one. -/
theorem tasks_of_last {g : Stage} (ht : σ'.tasks[σ.tasks.length]? = some ⟨l, g⟩)
    (hu : ∀ u ≠ σ.tasks.length, σ'.tasks[u]? = (σ.start l).tasks[u]?) : σ'.tasks = σ.tasks ++ [⟨l, g⟩] := by
  refine List.ext_getElem? fun u => ?_
  by_cases h : u = σ.tasks.length
  · rw [h, ht, List.getElem?_concat_length]
  · rw [hu u h, start, List.getElem?_append, List.getElem?_append]
    split
    · rfl
    · have hlt : 0 < u - σ.tasks.length := by omega
      rw [List.getElem?_eq_none hlt, List.getElem?_eq_none hlt]

end Resolver

namespace Located
variable {x : Located}

/-- A look-up that is run to its end is one of the things that can happen. -/
theorem resolve_eq_run (h : x.resolver.FlightsOk) (s : Signer) (now : Instant) (l : Lookup) :
    ∃ es, x.resolve s now l = x.run s es ∧ ∀ c now', .describe c now' ∈ es → now' = now := by
  rw [resolve, LocationClient.resolve, ← Resolver.launch]
  rcases h.launch_cases l with ⟨hn, -⟩ | ⟨f, ⟨m, inquiry, st⟩, -, hq, hp⟩
  · refine ⟨[.start l, .poll x.resolver.tasks.length], ?_, by simp⟩
    simp only [hn]
    rfl
  · obtain rfl : st = .pending := hp
    refine ⟨[.start l, .poll x.resolver.tasks.length, .describe x.resolver.calls.length now,
      .poll x.resolver.tasks.length], ?_, by simp⟩
    rw [Resolver.launch] at hq
    simp only [Resolver.launch, run, List.foldl_cons, List.foldl_nil, step, hq]

/-- With no other task under way a look-up comes to its end. -/
theorem resolve_tasks (h : x.resolver.FlightsOk) (hx : x.resolver.Quiet) (s : Signer) (now : Instant) (l : Lookup) :
    ∃ r, (x.resolve s now l).resolver.tasks = x.resolver.tasks ++ [⟨l, .finished r⟩] := by
  have hu : ∀ u ≠ x.resolver.tasks.length, (x.resolver.launch l).tasks[u]? = (x.resolver.start l).tasks[u]? :=
    fun u => (h.launch_advance l).tasks_eq
  rw [resolve, LocationClient.resolve, ← Resolver.launch]
  rcases h.launch_cases l with ⟨hn, hr⟩ | ⟨f, q, hf, hq, hp⟩
  · obtain ⟨r, hr⟩ := hr (h.inflight_empty hx.isLive)
    refine ⟨r, ?_⟩
    simp only [hn]
    exact Resolver.tasks_of_last hr hu
  · obtain ⟨⟨r, hr⟩, hu'⟩ := (h.launch l).poll_reply hf hq hp (LocationClient.describe s now q.inquiry x.client).1
    refine ⟨r, ?_⟩
    simp only [hq]
    exact Resolver.tasks_of_last hr fun u hne => (hu' u hne).trans (hu u hne)

end Located

end Callsign
