import Callsign.Encoding.Percent

/-!
# Nonces

A nonce is a random identifier of sixteen bytes, six bits of which say that it is random. The bytes
come from a supply; when the supply is used up they are zeros.
-/

namespace Callsign

/-- The random bytes still to be used, sixteen for each nonce. -/
abbrev NonceSupply := List (List UInt8)

namespace Nonce

/-- The bytes with version 4 and the standard variant marked in them. -/
def marked (bs : List UInt8) : List UInt8 :=
  bs.modify 6 (fun b => (b &&& 0x0f) ||| 0x40) |>.modify 8 (fun b => (b &&& 0x3f) ||| 0x80)

/-- Two lowercase hexadecimal digits. -/
def hex (b : UInt8) : List Char :=
  [(Encoding.hexDigit (b.toNat / 16)).toLower, (Encoding.hexDigit (b.toNat % 16)).toLower]

/-- The text of an identifier: five groups of digits. -/
def text (bs : List UInt8) : String :=
  let ds := bs.flatMap hex
  let group (start size : Nat) : String := String.ofList ((ds.drop start).take size)
  "-".intercalate [group 0 8, group 8 4, group 12 4, group 16 4, group 20 12]

/-- The next nonce, and the supply without it. -/
def draw : NonceSupply → String × NonceSupply
  | bs :: rest => (text (marked bs), rest)
  | [] => (text (marked (List.replicate 16 0)), [])

end Nonce

end Callsign
