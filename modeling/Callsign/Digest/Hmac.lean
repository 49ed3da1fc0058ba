/-!
# Keyed digests

HMAC over a digest with blocks of 64 bytes: the message is digested under the key masked one way,
and the result again under the key masked another way.
-/

namespace Callsign.Digest

/-- A key of exactly one block: a longer key is digested first, a shorter one filled with zeros. -/
def blockKey (digest : List UInt8 → List UInt8) (key : List UInt8) : List UInt8 :=
  let k := if key.length ≤ 64 then key else digest key
  k ++ List.replicate (64 - k.length) 0

/-- The keyed digest of a message. -/
def hmac (digest : List UInt8 → List UInt8) (key m : List UInt8) : List UInt8 :=
  let k := blockKey digest key
  digest (k.map (· ^^^ 0x5c) ++ digest (k.map (· ^^^ 0x36) ++ m))

end Callsign.Digest
