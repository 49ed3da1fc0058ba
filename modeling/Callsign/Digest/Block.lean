/-!
# Messages as blocks of words

What the block digests share: the padding of a message to whole blocks, and words read from and
written to bytes in either byte order.
-/

namespace Callsign.Digest

/-- The byte at place `i` of a number, counted from the low end. -/
def byteAt (n i : Nat) : UInt8 := (n >>> (8 * i)).toUInt8

def littleEndian (width n : Nat) : List UInt8 := (List.range width).map (byteAt n)

def bigEndian (width n : Nat) : List UInt8 := (littleEndian width n).reverse

/-- A one bit, then zeros up to eight bytes short of a whole block of 64. -/
def padding (size : Nat) : List UInt8 := 0x80 :: List.replicate ((119 - size % 64) % 64) 0

/-- The message, its padding, and its bit length in eight bytes. -/
def padded (length : Nat → Nat → List UInt8) (m : List UInt8) : List UInt8 :=
  m ++ padding m.length ++ length 8 (8 * m.length)

/-- Four bytes a word, the first byte lowest; bytes that fill no word are dropped. -/
def littleWords : List UInt8 → List UInt32
  | a :: b :: c :: d :: r =>
    (a.toUInt32 ||| b.toUInt32 <<< 8 ||| c.toUInt32 <<< 16 ||| d.toUInt32 <<< 24) :: littleWords r
  | _ => []

/-- Four bytes a word, the first byte highest; bytes that fill no word are dropped. -/
def bigWords : List UInt8 → List UInt32
  | a :: b :: c :: d :: r =>
    (a.toUInt32 <<< 24 ||| b.toUInt32 <<< 16 ||| c.toUInt32 <<< 8 ||| d.toUInt32) :: bigWords r
  | _ => []

/-- The whole blocks of `n + 1` words, in order. -/
def blocks (n : Nat) (ws : List UInt32) : List (List UInt32) :=
  if ws.length ≤ n then [] else ws.take (n + 1) :: blocks n (ws.drop (n + 1))
termination_by ws.length
decreasing_by simp only [List.length_drop]; omega

def rotateLeft (w : UInt32) (n : UInt32) : UInt32 := w <<< n ||| w >>> (32 - n)

def rotateRight (w : UInt32) (n : UInt32) : UInt32 := w >>> n ||| w <<< (32 - n)

end Callsign.Digest
