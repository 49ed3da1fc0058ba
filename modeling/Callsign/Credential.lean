import Callsign.Text.Redacted
import Callsign.Time.Format

/-!
# Credentials

A key pair, with tokens that may go with it and a time after which it is worthless. Its shown form
tells no more of a secret than its two ends.
-/

namespace Callsign

structure Credential where
  keyId : String
  keySecret : String
  securityToken : Option String := none
  bearerToken : Option String := none
  expires : Option Time.Instant := none
  deriving DecidableEq, Repr

namespace Credential

/-- Something to sign with: a whole key pair or a bearer token. -/
def isComplete (c : Credential) : Bool :=
  !(c.keyId.isEmpty || c.keySecret.isEmpty) || c.bearerToken.isSome

/-- Complete, and good for two minutes at least. -/
def isValid (now : Time.Instant) (c : Credential) : Bool :=
  c.isComplete && c.expires.all ((now.plusSeconds 120).isBefore ·)

def shown (c : Credential) : String :=
  "Credential \x7b access_key_id: " ++ Text.redact (some c.keyId) ++
    ", access_key_secret: " ++ Text.redact (some c.keySecret) ++
    ", security_token: " ++ Text.redact c.securityToken ++
    ", bearer_token: " ++ Text.redact c.bearerToken ++
    ", expires_in: " ++ (match c.expires with
      | some t => "Some(" ++ Time.shown t ++ ")"
      | none => "None") ++ " \x7d"

end Credential

end Callsign
