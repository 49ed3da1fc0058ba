import Callsign.Config
import Callsign.Endpoint.Cache

/-!
# Resolving endpoints together

Look-ups run as tasks that are advanced one at a time. The first task that needs an unknown key
leads: it opens a flight, registers it for the key, and asks the location service. Tasks that come
later for the same key wait for the outcome of the flight. A leader that is dropped closes its
flight without an outcome, and a task that waited for it tries again.

A registered flight is open, so a task that tries again either leads or waits: two passes of its
loop are enough.

Advancing a task is one step: nothing else happens until the task ends or has to wait. Some of what a
leader looks at decides nothing for that reason, and is written out because it would if tasks were
advanced at the same time. The flight that it takes off the register is the one registered for the key
(`FlightsOk.unregister_leader`), and its second look at the cache finds no more than the first did
(`lead_eq_ask`). A leader that goes away after it has ended looks at the register once more; its flight
is off by then (`FlightsOk.unregister_land`), and that look is left out.
-/

namespace Callsign

/-- An error as the tasks that waited get it: of its cause only a rejection is kept. -/
structure SharedError where
  kind : ErrorKind
  message : String
  service : Option ServiceError
  deriving DecidableEq, Repr

namespace SharedError

def ofError (e : Error) : SharedError := ⟨e.kind, e.message, e.service?⟩

def toError (e : SharedError) : Error := ⟨e.kind, e.message, e.service.map .service⟩

end SharedError

/-- The outcome of a flight, for the tasks that waited. -/
abbrev Outcome := Except SharedError Resolution

/-- How far a flight has come. -/
inductive Flight
  | opened
  /-- Its leader finished with this outcome. -/
  | landed (o : Outcome)
  /-- Its leader was dropped. -/
  | closed

/-- How far a question to the location service has come. -/
inductive CallStatus
  | pending
  /-- The reply is there, and the leader has not seen it. -/
  | answered (r : Reply)
  /-- The leader has seen the reply. -/
  | concluded (r : Reply)
  /-- The leader was dropped before it saw a reply. -/
  | cancelled

/-- A question put to the location service for a look-up. -/
structure LocationCall where
  lookup : Lookup
  inquiry : Inquiry
  status : CallStatus

/-- Where a task stands. -/
inductive Stage
  | fresh
  | leading (flight call : Nat)
  | waiting (flight : Nat)
  | finished (r : Except Error Resolution)
  | dropped

/-- A task can still be advanced. -/
def Stage.isLive : Stage → Bool
  | fresh | leading .. | waiting _ => true
  | finished _ | dropped => false

/-- One look-up under way. -/
structure Task where
  lookup : Lookup
  stage : Stage

/-- A resolver with everything that its tasks share. Flights, calls and tasks go by their number. -/
structure Resolver where
  host : String := publicLocationEndpoint
  cache : EndpointCache := {}
  inflight : Table Nat := .empty
  flights : List Flight := []
  calls : List LocationCall := []
  tasks : List Task := []

namespace Resolver

def setStage (σ : Resolver) (t : Nat) (s : Stage) : Resolver :=
  { σ with tasks := σ.tasks.modify t ({ · with stage := s }) }

def finish (σ : Resolver) (t : Nat) (r : Except Error Resolution) : Resolver :=
  σ.setStage t (.finished r)

def setFlight (σ : Resolver) (f : Nat) (s : Flight) : Resolver :=
  { σ with flights := σ.flights.set f s }

def setCall (σ : Resolver) (c : Nat) (s : CallStatus) : Resolver :=
  { σ with calls := σ.calls.modify c ({ · with status := s }) }

/-- Takes a flight off the register, if it is the one registered for the key. -/
def unregister (σ : Resolver) (key : EndpointKey) (f : Nat) : Resolver :=
  if σ.inflight.get? key.text = some f then { σ with inflight := σ.inflight.erase key.text } else σ

/-- The leader of a flight goes away without an outcome. -/
def abandon (σ : Resolver) (key : EndpointKey) (f : Nat) : Resolver :=
  (σ.unregister key f).setFlight f .closed

/-- Opens a flight for a key and registers it. -/
def register (σ : Resolver) (key : EndpointKey) : Resolver :=
  { σ with
    flights := σ.flights ++ [.opened]
    inflight := σ.inflight.insert key.text σ.flights.length }

/-- The question for a look-up. -/
def inquiry (σ : Resolver) (l : Lookup) (code : String) : Inquiry :=
  ⟨l.region, l.type, code, σ.host⟩

/-- Where a task is in its loop: at the top of a pass, or waiting for a flight. -/
inductive Point
  | top
  | waits (flight : Nat)

/-- What a pass of the loop comes to: the task is through for now, or tries again. -/
inductive Pass
  | through (σ : Resolver)
  | again (σ : Resolver)

/-- A task looks at the flight that it waits for. -/
def await (σ : Resolver) (t : Nat) (l : Lookup) (f : Nat) : Pass :=
  match σ.flights[f]? with
  | some (.landed o) => .through (σ.finish t (o.mapError SharedError.toError))
  | some .closed =>
    if σ.cache.rejects l then .through (σ.finish t (.ok .notFound)) else .again σ
  | some .opened | none => .through (σ.setStage t (.waiting f))

/-- A task leads: the cache is looked at once more before the location service is asked. -/
def lead (σ : Resolver) (t : Nat) (l : Lookup) (code : String) : Resolver :=
  let key := l.key code
  let f := σ.flights.length
  let σ := σ.register key
  match σ.cache.lookup key with
  | some r => (σ.abandon key f).finish t (.ok r)
  | none =>
    if σ.cache.rejects l then (σ.abandon key f).finish t (.ok .notFound)
    else
      let call : LocationCall := ⟨l, σ.inquiry l code, .pending⟩
      let asked : Resolver := { σ with calls := σ.calls ++ [call] }
      asked.setStage t (.leading f σ.calls.length)

/-- One pass of the loop. -/
def pass (σ : Resolver) (t : Nat) (l : Lookup) (code : String) : Point → Pass
  | .waits f => σ.await t l f
  | .top =>
    match σ.cache.lookup (l.key code) with
    | some r => .through (σ.finish t (.ok r))
    | none =>
      match σ.inflight.get? (l.key code).text with
      | some f => σ.await t l f
      | none => .through (σ.lead t l code)

/-- At most `n` passes, none if the task would still try again. -/
def passes (t : Nat) (l : Lookup) (code : String) : Nat → Resolver → Point → Option Resolver
  | 0, _, _ => none
  | n + 1, σ, p =>
    match σ.pass t l code p with
    | .through σ => some σ
    | .again σ => passes t l code n σ .top

/-- The passes that a task makes when it is advanced. -/
def loop (σ : Resolver) (t : Nat) (l : Lookup) (code : String) (p : Point) : Resolver :=
  (passes t l code 2 σ p).getD σ

/-- A task without a code, or with a product or region that was rejected, ends at once. -/
def begin (σ : Resolver) (t : Nat) (l : Lookup) : Resolver :=
  match l.code? with
  | none => σ.finish t (.ok .skipped)
  | some code =>
    if σ.cache.rejects l then σ.finish t (.ok .notFound) else σ.loop t l code .top

/-- The leader sees the reply: what is to be remembered is, the flight is taken off the register,
and then its outcome is published. -/
def land (σ : Resolver) (t f c : Nat) (l : Lookup) (key : EndpointKey) (reply : Reply) : Resolver :=
  let (result, cache) := σ.cache.conclude l key reply
  let remembered : Resolver := { σ with cache }
  let σ := ((remembered.setCall c (.concluded reply)).unregister key f).setFlight f (.landed (result.mapError .ofError))
  σ.finish t result

/-- Advances a task until it ends or has to wait. -/
def poll (σ : Resolver) (t : Nat) : Resolver :=
  match σ.tasks[t]? with
  | none => σ
  | some ⟨l, stage⟩ =>
    match stage, l.code? with
    | .fresh, _ => σ.begin t l
    | .waiting f, some code => σ.loop t l code (.waits f)
    | .leading f c, some code =>
      match σ.calls[c]?.map LocationCall.status with
      | some (.answered reply) => σ.land t f c l (l.key code) reply
      | _ => σ
    | _, _ => σ

/-- Adds a task, which is not advanced yet. -/
def start (σ : Resolver) (l : Lookup) : Resolver := { σ with tasks := σ.tasks ++ [⟨l, .fresh⟩] }

/-- A task goes away. If it leads, so do its call and its flight. -/
def drop (σ : Resolver) (t : Nat) : Resolver :=
  match σ.tasks[t]? with
  | none => σ
  | some ⟨l, stage⟩ =>
    if stage.isLive then
      match stage, l.code? with
      | .leading f c, some code =>
        ((σ.setCall c .cancelled).abandon (l.key code) f).setStage t .dropped
      | _, _ => σ.setStage t .dropped
    else σ

/-- The location service replies to a call that waits for a reply. -/
def reply (σ : Resolver) (c : Nat) (r : Reply) : Resolver :=
  match σ.calls[c]?.map LocationCall.status with
  | some .pending => σ.setCall c (.answered r)
  | _ => σ

/-- A task is there and can still be advanced. -/
def isLive (σ : Resolver) (t : Nat) : Bool := σ.tasks[t]?.any (·.stage.isLive)

/-- A call is there and waits for a reply. -/
def isPending (σ : Resolver) (c : Nat) : Bool :=
  σ.calls[c]?.any fun call => match call.status with | .pending => true | _ => false

/-- What a task ended with, if it has. -/
def result? (σ : Resolver) (t : Nat) : Option (Except Error Resolution) :=
  σ.tasks[t]?.bind fun task => match task.stage with | .finished r => some r | _ => none

/-- What can happen to a resolver. -/
inductive Event
  | start (l : Lookup)
  | poll (t : Nat)
  | drop (t : Nat)
  | reply (c : Nat) (r : Reply)

def step (σ : Resolver) : Event → Resolver
  | .start l => σ.start l
  | .poll t => σ.poll t
  | .drop t => σ.drop t
  | .reply c r => σ.reply c r

/-- The resolver after these events. -/
def run (σ : Resolver) (es : List Event) : Resolver := es.foldl step σ

/-- The product of a look-up has a code and has not been rejected. -/
def isProductValid (σ : Resolver) (l : Lookup) : Bool :=
  l.code?.isSome && σ.cache.isProductValid l.product

/-- The product of a look-up has a code, and its region has not been rejected. -/
def isRegionValid (σ : Resolver) (l : Lookup) : Bool :=
  l.code?.isSome && σ.cache.isRegionValid l.region

end Resolver

end Callsign
