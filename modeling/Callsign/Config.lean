import Callsign.Env

/-!
# Configuration

What a client can be told. A field that is not set is looked up in the environment; one that is set
stays, even to an empty text.
-/

namespace Callsign

/-- The host of the location service that anyone may read from. -/
def publicLocationEndpoint : String := "location-readonly.aliyuncs.com"

/-- Names of the environment variables. -/
inductive Variable
  | keyId
  | keySecret
  | securityToken
  | bearerToken
  | region
  | signatureMethod
  | locationEndpoint
  deriving DecidableEq, Repr

def Variable.name : Variable → String
  | keyId => "ALIBABA_CLOUD_ACCESS_KEY_ID"
  | keySecret => "ALIBABA_CLOUD_ACCESS_KEY_SECRET"
  | securityToken => "ALIBABA_CLOUD_SECURITY_TOKEN"
  | bearerToken => "ALIBABA_CLOUD_BEARER_TOKEN"
  | region => "ALIBABA_CLOUD_REGION_ID"
  | signatureMethod => "ALIBABA_CLOUD_SIGNATURE_METHOD"
  | locationEndpoint => "ALIBABA_CLOUD_LOCATION_ENDPOINT"

structure Config where
  keyId : Option String := none
  keySecret : Option String := none
  securityToken : Option String := none
  bearerToken : Option String := none
  region : Option String := none
  signatureMethod : Option String := none
  locationEndpoint : Option String := none
  protocol : String := "https"
  deriving DecidableEq, Repr

namespace Config

/-- The config with the fields that are not set taken from the environment. -/
def fromEnv (c : Config) (env : Env) : Config where
  keyId := c.keyId <|> env.var Variable.keyId.name
  keySecret := c.keySecret <|> env.var Variable.keySecret.name
  securityToken := c.securityToken <|> env.var Variable.securityToken.name
  bearerToken := c.bearerToken <|> env.var Variable.bearerToken.name
  region := c.region <|> env.var Variable.region.name
  signatureMethod := c.signatureMethod <|> env.var Variable.signatureMethod.name
  locationEndpoint := c.locationEndpoint <|> env.var Variable.locationEndpoint.name
  protocol := c.protocol

/-- The host of the location service. -/
def locationHost (c : Config) : String := c.locationEndpoint.getD publicLocationEndpoint

end Config

end Callsign
