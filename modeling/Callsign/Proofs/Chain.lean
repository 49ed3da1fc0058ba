import Callsign.Chain

/-!
# Rounds of a chain

`each_round_asks_in_order`: a chain has its providers in the order in which they were put in, those put in front
before all others and the last of them first. Each round gives what the first of them has that has something then.
It asks those up to this one once and no other (`IsRound`), so how often one has been asked after some rounds is the
number of rounds in which all before it had nothing (`providers_rounds`).
-/

namespace Callsign

namespace Script
variable {α : Type}

/-- What there will be on the next call; an error is nothing. -/
def next? (s : Script α) : Option α := (s.offer s.calls).toOption.join

/-- The provider when it has been called `n` more times. -/
def called (s : Script α) (n : Nat) : Script α := { s with calls := s.calls + n }

end Script

namespace Chain
variable {π α : Type}

/-! ### Building a chain -/

/-- A provider to put into a chain, at one of its ends. -/
inductive Addition (π : Type)
  | back (p : π)
  | front (p : π)

namespace Addition

def front? : Addition π → Option π
  | front p => some p
  | back _ => none

def back? : Addition π → Option π
  | back p => some p
  | front _ => none

end Addition

def add (c : Chain π) : Addition π → Chain π
  | .back p => c.push p
  | .front p => c.pushFront p

/-- The chain into which some providers were put one after the other. -/
def build (as : List (Addition π)) : Chain π := as.foldl add {}

theorem foldl_add_providers (c : Chain π) (as : List (Addition π)) : (as.foldl add c).providers =
    (as.filterMap Addition.front?).reverse ++ c.providers ++ as.filterMap Addition.back? := by
  induction as generalizing c with
  | nil => simp
  | cons a as ih =>
    rw [List.foldl_cons, ih]
    cases a with
    | back p => simp [add, push, List.filterMap_cons, Addition.front?, Addition.back?]
    | front p => simp [add, pushFront, List.filterMap_cons, Addition.front?, Addition.back?]

theorem build_providers (as : List (Addition π)) : (build as).providers =
    (as.filterMap Addition.front?).reverse ++ as.filterMap Addition.back? := by
  rw [build, foldl_add_providers, List.append_nil]

/-! ### One round -/

variable {p : Script α} {ps : List (Script α)} {a : α}

theorem askAll_cons_of_some (h : p.next? = some a) : askAll Script.ask (p :: ps) = (some a, p.called 1 :: ps) := by
  rw [Script.next?] at h
  rw [askAll, Script.ask]
  cases ho : p.offer p.calls with
  | error e =>
    rw [ho] at h
    cases h
  | ok o =>
    rw [ho] at h
    obtain rfl : o = some a := h
    rfl

theorem askAll_cons_of_none (h : p.next? = none) : askAll Script.ask (p :: ps) =
    ((askAll Script.ask ps).1, p.called 1 :: (askAll Script.ask ps).2) := by
  rw [Script.next?] at h
  rw [askAll, Script.ask]
  cases ho : p.offer p.calls with
  | error e => rfl
  | ok o =>
    rw [ho] at h
    obtain rfl : o = none := h
    rfl

/-- No provider before the `i`-th has anything. -/
def reaches (ps : List (Script α)) (i : Nat) : Bool := (ps.take i).all (·.next?.isNone)

/-- A round finds what the first provider has that has something, and asks those that it reaches. -/
structure IsRound (ps : List (Script α)) (found : Option α) (ps' : List (Script α)) : Prop where
  found : found = ps.findSome? Script.next?
  length : ps'.length = ps.length
  asked : ∀ i s, ps[i]? = some s → reaches ps i = true → ps'[i]? = some (s.called 1)
  spared : ∀ i s, ps[i]? = some s → reaches ps i = false → ps'[i]? = some s

/-- Nobody behind a provider that has something is reached. -/
theorem isRound_of_some (hp : p.next? = some a) (ps : List (Script α)) :
    IsRound (p :: ps) (some a) (p.called 1 :: ps) := by
  have hreach : ∀ i, reaches (p :: ps) (i + 1) = false := fun i => by simp [reaches, hp]
  refine ⟨by rw [List.findSome?_cons, hp], rfl, fun i s hs hr => ?_, fun i s hs hr => ?_⟩
  · cases i with
    | zero =>
      obtain rfl := Option.some.inj hs
      rfl
    | succ i =>
      rw [hreach i] at hr
      cases hr
  · cases i with
    | zero => cases hr
    | succ i => exact hs

/-- A provider that has nothing is asked and makes no difference to those behind it. -/
theorem IsRound.cons {found : Option α} {ps' : List (Script α)} (hp : p.next? = none) (h : IsRound ps found ps') :
    IsRound (p :: ps) found (p.called 1 :: ps') := by
  have hreach : ∀ i, reaches (p :: ps) (i + 1) = reaches ps i := fun i => by simp [reaches, hp]
  refine ⟨by rw [List.findSome?_cons, hp]; exact h.found, congrArg (· + 1) h.length, fun i s hs hr => ?_,
    fun i s hs hr => ?_⟩
  · cases i with
    | zero =>
      obtain rfl := Option.some.inj hs
      rfl
    | succ i => exact h.asked i s hs (hreach i ▸ hr)
  · cases i with
    | zero => cases hr
    | succ i => exact h.spared i s hs (hreach i ▸ hr)

theorem askAll_isRound (ps : List (Script α)) :
    IsRound ps (askAll Script.ask ps).1 (askAll Script.ask ps).2 := by
  induction ps with
  | nil => exact ⟨rfl, rfl, nofun, nofun⟩
  | cons p ps ih =>
    cases hp : p.next? with
    | some a =>
      rw [askAll_cons_of_some hp]
      exact isRound_of_some hp ps
    | none =>
      rw [askAll_cons_of_none hp]
      exact ih.cons hp

/-! ### All rounds -/

/-- The chain after some rounds. -/
def rounds (c : Chain (Script α)) : Nat → Chain (Script α)
  | 0 => c
  | n + 1 => (ask Script.ask (rounds c n)).2

theorem ask_isRound (c : Chain (Script α)) : ∃ found, (ask Script.ask c).1 = .ok found ∧
    IsRound c.providers found (ask Script.ask c).2.providers :=
  ⟨_, rfl, askAll_isRound c.providers⟩

/-- A provider is as it was at the start, but for the calls of the rounds that reached it. -/
theorem providers_rounds (c : Chain (Script α)) {i : Nat} {s : Script α} (hs : c.providers[i]? = some s) (n : Nat) :
    (rounds c n).providers[i]? =
      some (s.called ((List.range n).countP fun m => reaches (rounds c m).providers i)) := by
  induction n with
  | zero => exact hs
  | succ n ih =>
    obtain ⟨_, -, hround⟩ := ask_isRound (rounds c n)
    rw [List.range_succ, List.countP_append, List.countP_singleton]
    cases hr : reaches (rounds c n).providers i with
    | true => exact hround.asked i _ ih hr
    | false => exact hround.spared i _ ih hr

/-- In whatever order providers were put into a chain and whatever they answer: those put in front come first, the
last of them before all others, and the rest behind them in order. Every round, after any number of others, comes to
what the first provider has that has something then, never to an error, and calls those that it reaches once and no
other. So in all rounds together a provider is called once for each round in which nobody before it had anything. -/
theorem each_round_asks_in_order (as : List (Addition (Script α))) :
    (build as).providers = (as.filterMap Addition.front?).reverse ++ as.filterMap Addition.back? ∧
    (∀ n, ∃ found, (ask Script.ask (rounds (build as) n)).1 = .ok found ∧
      IsRound (rounds (build as) n).providers found (rounds (build as) (n + 1)).providers) ∧
    ∀ n i (s : Script α), (build as).providers[i]? = some s → (rounds (build as) n).providers[i]? =
      some (s.called ((List.range n).countP fun m => reaches (rounds (build as) m).providers i)) :=
  ⟨build_providers as, fun _ => ask_isRound _, fun n _ _ hs => providers_rounds _ hs n⟩

-- The second provider is asked in the rounds in which the first fails or has nothing.
example : let flaky : Script String := .ofList [.error (.ofProblem .noRegion), .ok (some "a"), .ok none]
    (rounds (build [.back (.ofList [.ok (some "b")]), .front flaky]) 3).providers.map (·.calls) = [3, 2] := by rfl

end Chain

end Callsign
