/-!
# Base64

Three bytes in four letters of the standard alphabet; the last group is filled up with `=`.
-/

namespace Callsign.Digest.Base64

def alphabet : Array Char :=
  "ABCDEFGHIJKLMNOPQRSTUVWXYZabcdefghijklmnopqrstuvwxyz0123456789+/".toList.toArray

/-- The letter of the low six bits. -/
def letter (n : Nat) : Char := alphabet.getD (n % 64) '='

def letters : List UInt8 → List Char
  | a :: b :: c :: r =>
    let n := a.toNat * 65536 + b.toNat * 256 + c.toNat
    letter (n / 262144) :: letter (n / 4096) :: letter (n / 64) :: letter n :: letters r
  | [a, b] =>
    let n := a.toNat * 65536 + b.toNat * 256
    [letter (n / 262144), letter (n / 4096), letter (n / 64), '=']
  | [a] => [letter (a.toNat / 4), letter (a.toNat * 16), '=', '=']
  | [] => []

def encode (bs : List UInt8) : String := String.ofList (letters bs)

end Callsign.Digest.Base64
