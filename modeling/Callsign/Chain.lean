import Callsign.Error

/-!
# Chains of providers

A chain asks its providers in order until one offers something. A provider that fails is passed
over like one that has nothing, so a chain never fails.
-/

namespace Callsign

/-- What a provider gives: something, nothing, or an error. -/
abbrev Offer (α : Type) := Except Error (Option α)

/-- A provider known by its offers alone: the n-th call gets the n-th offer. -/
structure Script (α : Type) where
  offer : Nat → Offer α
  calls : Nat := 0

namespace Script

variable {α : Type}

/-- The script that gives these offers one after the other, and then the last of them for ever. -/
def ofList (offers : List (Offer α)) : Script α :=
  ⟨fun n => offers.getD n (offers.getLast?.getD (.ok none)), 0⟩

def ask (s : Script α) : Offer α × Script α := (s.offer s.calls, { s with calls := s.calls + 1 })

end Script

/-- Providers in the order in which they are asked. -/
structure Chain (π : Type) where
  providers : List π := []

namespace Chain

variable {π α : Type}

/-- The chain with a provider behind all others. -/
def push (c : Chain π) (p : π) : Chain π := ⟨c.providers ++ [p]⟩

/-- The chain with a provider before all others. -/
def pushFront (c : Chain π) (p : π) : Chain π := ⟨p :: c.providers⟩

/-- Asks providers in order up to the first that offers something, and gives them back as they are
then. -/
def askAll (ask : π → Offer α × π) : List π → Option α × List π
  | [] => (none, [])
  | p :: ps =>
    match ask p with
    | (.ok (some a), p) => (some a, p :: ps)
    | (_, p) =>
      let (a, ps) := askAll ask ps
      (a, p :: ps)

/-- What the chain offers, and the chain as it is then. -/
def ask (ask : π → Offer α × π) (c : Chain π) : Offer α × Chain π :=
  let (a, ps) := askAll ask c.providers
  (.ok a, ⟨ps⟩)

def shown (show1 : π → String) (c : Chain π) : String :=
  "ProvideCredentialChain \x7b providers: [" ++ ", ".intercalate (c.providers.map show1) ++ "] \x7d"

end Chain

end Callsign
