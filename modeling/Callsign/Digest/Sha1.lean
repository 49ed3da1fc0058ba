import Callsign.Digest.Block

/-!
# SHA-1

Eighty steps over each block, on a state of five words and a schedule that stretches the sixteen
words of the block to eighty.
-/

namespace Callsign.Digest.Sha1

structure State where
  a : UInt32
  b : UInt32
  c : UInt32
  d : UInt32
  e : UInt32

def initial : State := ⟨0x67452301, 0xefcdab89, 0x98badcfe, 0x10325476, 0xc3d2e1f0⟩

/-- The sixteen words of the block and the sixty-four derived from them. -/
def schedule (block : List UInt32) : Array UInt32 :=
  (List.range 64).foldl (fun w i => w.push (rotateLeft
    (w.getD (i + 13) 0 ^^^ w.getD (i + 8) 0 ^^^ w.getD (i + 2) 0 ^^^ w.getD i 0) 1)) block.toArray

/-- The mixing function and the constant of the round of step `i`. -/
def mix (s : State) (i : Nat) : UInt32 × UInt32 :=
  if i < 20 then ((s.b &&& s.c) ||| (~~~s.b &&& s.d), 0x5a827999)
  else if i < 40 then (s.b ^^^ s.c ^^^ s.d, 0x6ed9eba1)
  else if i < 60 then ((s.b &&& s.c) ||| (s.b &&& s.d) ||| (s.c &&& s.d), 0x8f1bbcdc)
  else (s.b ^^^ s.c ^^^ s.d, 0xca62c1d6)

def step (w : Array UInt32) (s : State) (i : Nat) : State :=
  let (f, k) := mix s i
  ⟨rotateLeft s.a 5 + f + s.e + k + w.getD i 0, s.a, rotateLeft s.b 30, s.c, s.d⟩

def compress (s : State) (block : List UInt32) : State :=
  let t := (List.range 80).foldl (step (schedule block)) s
  ⟨s.a + t.a, s.b + t.b, s.c + t.c, s.d + t.d, s.e + t.e⟩

def State.bytes (s : State) : List UInt8 :=
  [s.a, s.b, s.c, s.d, s.e].flatMap fun w => bigEndian 4 w.toNat

end Sha1

/-- The SHA-1 digest of a message. -/
def sha1 (m : List UInt8) : List UInt8 :=
  ((blocks 15 (bigWords (padded bigEndian m))).foldl Sha1.compress Sha1.initial).bytes

end Callsign.Digest
