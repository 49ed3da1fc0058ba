import Callsign.Call

/-!
# Looking up endpoints

What is asked of the location service, and what may come of it. Product and region go by their
lowercase, the service code and the type by their exact text.
-/

namespace Callsign

/-- What to look up: where a product is served in a region. -/
structure Lookup where
  product : String
  region : String
  code : Option String := none
  type : String := "openAPI"
  deriving DecidableEq, Repr

namespace Lookup

/-- The look-up for a call that goes to a region. -/
def ofCall (call : Call) (region : String) : Lookup :=
  ⟨call.product, region, call.locationCode, call.endpointType⟩

/-- The code of the product at the location service, if it has one. -/
def code? (l : Lookup) : Option String := l.code.filter (!·.isEmpty)

end Lookup

/-- The identity of a look-up, by which its result is remembered. -/
structure EndpointKey where
  text : String
  deriving DecidableEq, Repr

/-- The key of a look-up by its parts. -/
def EndpointKey.ofParts (product code region type : String) : EndpointKey :=
  ⟨".".intercalate [Text.lowercase product, code, Text.lowercase region, type]⟩

/-- The key of a look-up under a service code. -/
def Lookup.key (l : Lookup) (code : String) : EndpointKey :=
  .ofParts l.product code l.region l.type

/-- What comes of a look-up. -/
inductive Resolution
  /-- The product has no code at the location service: there is nothing to look up. -/
  | skipped
  | notFound
  | found (endpoint : String)
  deriving DecidableEq, Repr

/-- What comes of a look-up that the location service answered. -/
def Resolution.ofEndpoint : Option String → Resolution
  | some e => found e
  | none => notFound

def Resolution.endpoint? : Resolution → Option String
  | found e => some e
  | skipped | notFound => none

/-- A question to the location service at a host. -/
structure Inquiry where
  region : String
  type : String
  code : String
  host : String
  deriving DecidableEq, Repr

/-- An endpoint that the location service lists. It spells the field of the code in two ways. -/
structure Listed where
  endpoint : Option String := none
  type : Option String := none
  id : Option String := none
  serviceCode : Option String := none
  serivceCode : Option String := none
  deriving DecidableEq, Repr

/-- The code of a listed endpoint in the first spelling that has one. -/
def Listed.code? (e : Listed) : Option String :=
  e.serviceCode.filter (!·.isEmpty) <|> e.serivceCode.filter (!·.isEmpty)

/-- An answer of the location service. -/
structure Listing where
  requestId : Option String := none
  success : Option Bool := none
  endpoints : List Listed := []
  deriving DecidableEq, Repr

/-- The endpoint of the first entry that has a code and the right type. -/
def Listing.endpointOf (r : Listing) (type : String) : Option String :=
  (r.endpoints.find? fun e => e.code?.isSome && e.type == some type).bind Listed.endpoint

/-- What the location service replies: a listing, or an error. -/
abbrev Reply := Except Error Listing

end Callsign
