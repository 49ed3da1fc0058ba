import Callsign.Http.Headers
import Callsign.Http.Uri

/-!
# Requests, responses and who sends them

A client is known by its answers alone: the n-th request it is given gets its n-th answer. It keeps
the requests that it was given.
-/

namespace Callsign.Http

structure Request where
  method : String
  uri : Uri
  headers : Headers
  body : List UInt8

structure Response where
  status : Nat
  body : List UInt8

/-- Who sends requests. -/
inductive Client
  /-- Nobody: every request fails. -/
  | absent
  /-- A client with its answers and the requests it was given, the latest first. -/
  | present (answer : Nat → Except Error Response) (given : List Request)

namespace Client

def send (req : Request) : Client → Except Error Response × Client
  | absent => (.error (.ofProblem .noHttpClient), absent)
  | present answer given => (answer given.length, present answer (req :: given))

/-- The requests sent so far, in order. -/
def sent : Client → List Request
  | absent => []
  | present _ given => given.reverse

/-- Sends a request and reads the body of the response as text. -/
def sendForText (req : Request) (c : Client) : Except Error (Nat × String) × Client :=
  let (answer, c) := c.send req
  (answer.map fun r => (r.status, Text.Utf8.decodeLossy r.body), c)

end Client

end Callsign.Http
