import Callsign.Http.Headers
import Callsign.Text.Lowercase

/-!
# Calls

One outgoing call of an API before it is signed. Its query parameters stand in the order in which
they were first set, and setting one again changes its value in place.
-/

namespace Callsign

/-- The two conventions for signing a call. -/
inductive Style
  | rpc
  | roa
  deriving DecidableEq, Repr

namespace Style

def text : Style → String
  | rpc => "RPC"
  | roa => "ROA"

/-- The style of a name, in letters of either case. -/
def ofName (s : String) : Except Error Style :=
  match Text.asciiUppercase s with
  | "RPC" => .ok rpc
  | "ROA" => .ok roa
  | name => .error (.ofProblem (.unknownStyle name))

end Style

/-- The format in which a call wants its answer. -/
inductive Format
  | json
  | xml
  | raw
  deriving DecidableEq, Repr

/-- The value of `Accept` that asks for a format. -/
def Format.accept : Format → String
  | json => "application/json"
  | xml => "application/xml"
  | raw => "application/octet-stream"

/-- An API call. -/
structure Call where
  product : String
  version : String
  action : String
  method : String := "GET"
  uriPattern : String := "/"
  pathParams : Table String := .empty
  queryParams : List (String × Option String) := []
  headers : Http.Headers := .empty
  body : Option (List UInt8) := none
  bodyParams : Table String := .empty
  locationCode : Option String := none
  endpointType : String := "openAPI"
  format : Format := .json
  style : Style := .rpc

namespace Call

/-- A call in RPC style. -/
def rpc (product version action : String) : Call := { product, version, action }

/-- A call in ROA style. -/
def roa (product version action uriPattern : String) : Call :=
  { product, version, action, uriPattern, style := .roa }

/-- Sets the first pair of `key` to `v`, or adds the pair at the end. -/
def setFirst (key : String) (v : Option String) :
    List (String × Option String) → List (String × Option String)
  | [] => [(key, v)]
  | (k, w) :: r => if k = key then (k, v) :: r else (k, w) :: setFirst key v r

/-- The call with a query parameter set, at its place if it is there. -/
def setQuery (c : Call) (key : String) (v : Option String) : Call :=
  { c with queryParams := setFirst key v c.queryParams }

/-- The value of a query parameter; none if it is not there or has no value. -/
def query? (c : Call) (key : String) : Option String := (c.queryParams.lookup key).join

end Call

end Callsign
