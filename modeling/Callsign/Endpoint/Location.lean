import Callsign.Endpoint.Resolver
import Callsign.Json.Record
import Callsign.Signer

/-!
# The location service

A client signs an inquiry as a call of its own, sends it, and reads the listing or the rejection
that comes back.
-/

namespace Callsign

namespace ServiceError

/-- What a rejection says of itself, as far as it does. -/
structure Document where
  code : Option String := none
  message : Option String := none
  requestId : Option String := none

def Document.fields : List (Json.Field Document) :=
  [⟨"Code", fun d => return { d with code := ← Json.Reader.optionalText }⟩,
    ⟨"Message", fun d => return { d with message := ← Json.Reader.optionalText }⟩,
    ⟨"RequestId", fun d => return { d with requestId := ← Json.Reader.optionalText }⟩]

/-- The rejection in a response. A body that says nothing of itself is the message. -/
def ofResponse (status : Nat) (body : String) : ServiceError :=
  let d := ((Json.Reader.record Document.fields {}).whole body).toOption.getD {}
  ⟨status, d.code.getD "", d.message.getD body, d.requestId⟩

end ServiceError

namespace Listed

def fields : List (Json.Field Listed) :=
  [⟨"Endpoint", fun e => return { e with endpoint := ← Json.Reader.optionalText }⟩,
    ⟨"Type", fun e => return { e with type := ← Json.Reader.optionalText }⟩,
    ⟨"Id", fun e => return { e with id := ← Json.Reader.optionalText }⟩,
    ⟨"ServiceCode", fun e => return { e with serviceCode := ← Json.Reader.optionalText }⟩,
    ⟨"SerivceCode", fun e => return { e with serivceCode := ← Json.Reader.optionalText }⟩]

end Listed

namespace Listing

/-- The list of endpoints, which stands in a record of its own. -/
def endpointFields : List (Json.Field (List Listed)) :=
  [⟨"Endpoint", fun _ => Json.Reader.list (Json.Reader.record Listed.fields {})⟩]

def fields : List (Json.Field Listing) :=
  [⟨"RequestId", fun r => return { r with requestId := ← Json.Reader.optionalText }⟩,
    ⟨"Success", fun r => return { r with success := ← Json.Reader.optionalBool }⟩,
    ⟨"Endpoints", fun r =>
      return { r with endpoints := ← Json.Reader.record endpointFields [] }⟩]

/-- The listing that a text is. -/
def ofText (s : String) : Except Json.Fault Listing := (Json.Reader.record fields {}).whole s

end Listing

/-- The call that puts an inquiry. -/
def Inquiry.call (q : Inquiry) : Call :=
  (((Call.rpc "Location" "2015-06-12" "DescribeEndpoints").setQuery "Id" q.region).setQuery
    "ServiceCode" q.code).setQuery "Type" q.type

/-- What a response says to an inquiry. -/
def Listing.ofResponse (status : Nat) (body : String) : Reply :=
  if 200 ≤ status && status < 300 then
    (Listing.ofText body).mapError fun f =>
      (Error.ofProblem .notAListing).withCause (.fault (f.message (Text.utf8 body)))
  else .error (.ofService (.ofResponse status body))

/-- What a client of the location service changes: the memory of its signer, and its HTTP client. -/
structure LocationClient where
  memory : Memory
  http : Http.Client := .absent

namespace LocationClient

/-- Puts an inquiry. Nothing is sent that cannot be signed. -/
def describe (s : Signer) (now : Time.Instant) (q : Inquiry) (c : LocationClient) :
    Reply × LocationClient :=
  match s.sign now q.host q.call c.memory with
  | (.error e, memory) => (.error e, { c with memory })
  | (.ok request, memory) =>
    let (answer, http) := c.http.sendForText request
    (answer.bind fun (status, body) => Listing.ofResponse status body, ⟨memory, http⟩)

/-- Runs one look-up of a resolver to its end; the client answers the call that it makes. -/
def resolve (s : Signer) (now : Time.Instant) (l : Lookup) (σ : Resolver) (c : LocationClient) :
    Resolver × LocationClient :=
  let t := σ.tasks.length
  let n := σ.calls.length
  let σ := (σ.start l).poll t
  match σ.calls[n]? with
  | none => (σ, c)
  | some call =>
    let (reply, c) := describe s now call.inquiry c
    ((σ.reply n reply).poll t, c)

end LocationClient

end Callsign
