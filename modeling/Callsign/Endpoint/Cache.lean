import Callsign.Endpoint.Lookup

/-!
# Remembered look-ups

The cache keeps the result of every look-up that the location service answered, and the products and
regions that it accepted or rejected. Nothing is ever forgotten.
-/

namespace Callsign

/-- Codes that are alike in lowercase are one code. -/
abbrev CodeSet := List String

namespace CodeSet

def mark (s : CodeSet) (code : String) : CodeSet := s.insert (Text.lowercase code)

def has (s : CodeSet) (code : String) : Bool := s.contains (Text.lowercase code)

end CodeSet

/-- The memory of look-ups. An entry without an endpoint is a look-up that found none. -/
structure EndpointCache where
  entries : Table (Option String) := .empty
  invalidProducts : CodeSet := []
  invalidRegions : CodeSet := []
  validProducts : CodeSet := []
  validRegions : CodeSet := []

namespace EndpointCache

/-- The remembered result of a look-up; none if it has not been made. -/
def lookup (c : EndpointCache) (key : EndpointKey) : Option Resolution :=
  (c.entries.get? key.text).map .ofEndpoint

def store (c : EndpointCache) (key : EndpointKey) (endpoint : Option String) : EndpointCache :=
  { c with entries := c.entries.insert key.text endpoint }

def size (c : EndpointCache) : Nat := c.entries.size

def markProductInvalid (c : EndpointCache) (code : String) : EndpointCache :=
  { c with invalidProducts := c.invalidProducts.mark code }

def markRegionInvalid (c : EndpointCache) (code : String) : EndpointCache :=
  { c with invalidRegions := c.invalidRegions.mark code }

def markProductValid (c : EndpointCache) (code : String) : EndpointCache :=
  { c with validProducts := c.validProducts.mark code }

def markRegionValid (c : EndpointCache) (code : String) : EndpointCache :=
  { c with validRegions := c.validRegions.mark code }

/-- The product has not been rejected. -/
def isProductValid (c : EndpointCache) (code : String) : Bool := !c.invalidProducts.has code

/-- The region has not been rejected. -/
def isRegionValid (c : EndpointCache) (code : String) : Bool := !c.invalidRegions.has code

/-- The product has been accepted. -/
def isProductConfirmed (c : EndpointCache) (code : String) : Bool := c.validProducts.has code

/-- The region has been accepted. -/
def isRegionConfirmed (c : EndpointCache) (code : String) : Bool := c.validRegions.has code

/-- The product or the region of a look-up has been rejected. -/
def rejects (c : EndpointCache) (l : Lookup) : Bool :=
  !c.isProductValid l.product || !c.isRegionValid l.region

/-- What a reply makes of a look-up, and what is remembered of it. Of the errors only the two
rejections that name a region or a product as wrong are remembered. -/
def conclude (c : EndpointCache) (l : Lookup) (key : EndpointKey) (reply : Reply) :
    Except Error Resolution × EndpointCache :=
  match reply with
  | .ok listing =>
    let endpoint := listing.endpointOf l.type
    (.ok (.ofEndpoint endpoint),
      ((c.markProductValid l.product).markRegionValid l.region).store key endpoint)
  | .error e =>
    if e.service?.any ServiceError.isInvalidRegion then
      (.ok .notFound, (c.markRegionInvalid l.region).store key none)
    else if e.service?.any ServiceError.isIllegalParameter then
      (.ok .notFound, (c.markProductInvalid l.product).store key none)
    else (.error e, c)

end EndpointCache

end Callsign
