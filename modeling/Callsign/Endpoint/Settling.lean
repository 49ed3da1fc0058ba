import Callsign.Endpoint.Resolver

/-!
# Settling a resolver

After something has happened to a resolver, its tasks are advanced in the order of their numbers,
round after round, until a round neither ends a task nor asks the location service. A task does each
of the two once at most, so no more than twice as many rounds as tasks do either, and the bound that
`settle` puts on the rounds is never what stops them (`FlightsOk.rounds_eq_settle`).
-/

namespace Callsign.Resolver

/-- A settled resolver, and the tasks that ended on the way, in the order in which they did. -/
structure Settled where
  resolver : Resolver
  ended : List Nat

/-- Advances a task that is live. -/
def Settled.advance (s : Settled) (t : Nat) : Settled :=
  if s.resolver.isLive t then
    let σ := s.resolver.poll t
    ⟨σ, if σ.isLive t then s.ended else s.ended ++ [t]⟩
  else s

/-- Advances every task once. -/
def round (σ : Resolver) : Settled := (List.range σ.tasks.length).foldl Settled.advance ⟨σ, []⟩

/-- At most `n` rounds. -/
def rounds : Nat → Resolver → Settled
  | 0, σ => ⟨σ, []⟩
  | n + 1, σ =>
    let s := σ.round
    if s.ended.isEmpty && s.resolver.calls.length = σ.calls.length then s
    else
      let s' := rounds n s.resolver
      ⟨s'.resolver, s.ended ++ s'.ended⟩

def settle (σ : Resolver) : Settled := rounds (2 * σ.tasks.length + 1) σ

/-- Starts a task and settles. -/
def started (σ : Resolver) (l : Lookup) : Settled := (σ.start l).settle

/-- Starts a task, and replies to the call that it makes, if it makes one. -/
def resolved (σ : Resolver) (l : Lookup) (r : Reply) : Settled :=
  let s := σ.started l
  if s.resolver.calls.length = σ.calls.length then s
  else
    let s' := (s.resolver.reply σ.calls.length r).settle
    ⟨s'.resolver, s.ended ++ s'.ended⟩

/-- Replies to a call and settles. -/
def replied (σ : Resolver) (c : Nat) (r : Reply) : Settled := (σ.reply c r).settle

/-- Drops a task and settles. -/
def cancelled (σ : Resolver) (t : Nat) : Settled := (σ.drop t).settle

end Callsign.Resolver
