import Callsign.Digest.Base64
import Callsign.Digest.Hmac
import Callsign.Digest.Md5
import Callsign.Digest.Sha1
import Callsign.Digest.Sha256
import Callsign.Error
import Callsign.Text.Lowercase
import Callsign.Text.Utf8

/-!
# Signature algorithms

An algorithm turns a text and a secret into a signature, and has the names by which a request says
how it is signed. Two are known by name; a signer takes any.
-/

namespace Callsign

structure Algorithm where
  name : String
  version : String
  /-- The value of `SignatureType`. -/
  signatureType : String
  /-- The signature of a text under a secret. -/
  sign (text secret : String) : String

namespace Algorithm

/-- The keyed digest of the text, written in base 64. -/
def ofDigest (name : String) (digest : List UInt8 → List UInt8) : Algorithm where
  name
  version := "1.0"
  signatureType := ""
  sign text secret := Digest.Base64.encode (Digest.hmac digest (Text.utf8 secret) (Text.utf8 text))

def hmacSha1 : Algorithm := ofDigest "HMAC-SHA1" Digest.sha1

def hmacSha256 : Algorithm := ofDigest "HMAC-SHA256" Digest.sha256

/-- The algorithm used unless told otherwise. -/
def standard : Algorithm := hmacSha1

/-- The algorithm of a name, in letters of either case. -/
def ofName (s : String) : Except Error Algorithm :=
  match Text.asciiUppercase s with
  | "HMAC-SHA1" => .ok hmacSha1
  | "HMAC-SHA256" => .ok hmacSha256
  | _ => .error (.ofProblem (.unknownAlgorithm s))

end Algorithm

end Callsign
