import Callsign.Endpoint.Location

/-!
# A resolver with its client

The client puts the questions of a resolver to the location service. Which question it puts next, and when, is
left open, as is everything else that can happen to the resolver meanwhile.
-/

namespace Callsign

/-- A resolver, and the client that answers its calls. -/
structure Located where
  resolver : Resolver
  client : LocationClient

namespace Located

/-- What can happen to a resolver with its client. -/
inductive Event
  | start (l : Lookup)
  | poll (t : Nat)
  | drop (t : Nat)
  /-- The client puts the question of a call, if it waits for a reply. -/
  | describe (c : Nat) (now : Time.Instant)

def step (s : Signer) (x : Located) : Event → Located
  | .start l => { x with resolver := x.resolver.start l }
  | .poll t => { x with resolver := x.resolver.poll t }
  | .drop t => { x with resolver := x.resolver.drop t }
  | .describe c now =>
    match x.resolver.calls[c]? with
    | some ⟨_, inquiry, .pending⟩ =>
      let (reply, client) := LocationClient.describe s now inquiry x.client
      ⟨x.resolver.reply c reply, client⟩
    | _ => x

/-- The resolver and its client after these events. -/
def run (s : Signer) (x : Located) (es : List Event) : Located := es.foldl (step s) x

/-- Runs one look-up to its end. -/
def resolve (s : Signer) (x : Located) (now : Time.Instant) (l : Lookup) : Located :=
  let (resolver, client) := LocationClient.resolve s now l x.resolver x.client
  ⟨resolver, client⟩

/-- Runs look-ups one after the other. -/
def resolveAll (s : Signer) (x : Located) (ls : List (Time.Instant × Lookup)) : Located :=
  ls.foldl (fun x (now, l) => x.resolve s now l) x

end Located

end Callsign
