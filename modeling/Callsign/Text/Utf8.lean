/-!
# Text as UTF-8 bytes

Bytes are cut into pieces once, each a character or a longest start of one that no continuation
saves; strict reading, lossy reading and the place of the first fault are views of the pieces.
-/

namespace Callsign.Text

/-- The bytes of a text. -/
def utf8 (s : String) : List UInt8 := s.toList.flatMap String.utf8EncodeChar

namespace Utf8

/-- A piece of a byte sequence. -/
inductive Piece
  | char (c : Char)
  /-- This many bytes begin a character, and the byte after them cannot go on with it. -/
  | invalid (bytes : Nat)
  /-- The sequence ends inside a character. -/
  | incomplete

/-- A character begun: the bits so far, the bytes read, the bytes still owed, and the range of the
next of them. -/
structure Pending where
  bits : Nat
  read : Nat
  owed : Nat
  low : UInt8
  high : UInt8

/-- What a first byte begins. -/
def begins (b : UInt8) : Piece ⊕ Pending :=
  if b < 0x80 then .inl (.char (Char.ofNat b.toNat))
  else if b < 0xC2 then .inl (.invalid 1)
  else if b < 0xE0 then .inr ⟨b.toNat - 0xC0, 1, 1, 0x80, 0xBF⟩
  else if b < 0xF0 then
    .inr ⟨b.toNat - 0xE0, 1, 2, if b = 0xE0 then 0xA0 else 0x80, if b = 0xED then 0x9F else 0xBF⟩
  else if b < 0xF5 then
    .inr ⟨b.toNat - 0xF0, 1, 3, if b = 0xF0 then 0x90 else 0x80, if b = 0xF4 then 0x8F else 0xBF⟩
  else .inl (.invalid 1)

/-- The next byte of a character begun, if the byte is in range. -/
def Pending.extend (p : Pending) (b : UInt8) : Piece ⊕ Pending :=
  let bits := p.bits * 64 + (b.toNat - 0x80)
  if p.owed = 1 then .inl (.char (Char.ofNat bits))
  else .inr ⟨bits, p.read + 1, p.owed - 1, 0x80, 0xBF⟩

/-- The pieces of the bytes that follow `p`. -/
def piecesFrom : Option Pending → List UInt8 → List Piece
  | none, [] => []
  | some _, [] => [.incomplete]
  | none, b :: r =>
    match begins b with
    | .inl piece => piece :: piecesFrom none r
    | .inr p => piecesFrom (some p) r
  | some p, b :: r =>
    if p.low ≤ b ∧ b ≤ p.high then
      match p.extend b with
      | .inl piece => piece :: piecesFrom none r
      | .inr q => piecesFrom (some q) r
    else
      .invalid p.read :: match begins b with
        | .inl piece => piece :: piecesFrom none r
        | .inr q => piecesFrom (some q) r

def pieces (bs : List UInt8) : List Piece := piecesFrom none bs

/-- Where bytes stop being text. -/
inductive Fault
  /-- The bytes from `index` cannot begin a character. -/
  | invalid (bytes index : Nat)
  /-- The bytes from `index` only begin one. -/
  | incomplete (index : Nat)

def Fault.message : Fault → String
  | .invalid n i => s!"invalid utf-8 sequence of {n} bytes from index {i}"
  | .incomplete i => s!"incomplete utf-8 byte sequence from index {i}"

/-- The characters, or the first fault, of pieces that begin at `index`. -/
def chars (index : Nat) : List Piece → Except Fault (List Char)
  | [] => .ok []
  | .char c :: r => (chars (index + c.utf8Size) r).map (c :: ·)
  | .invalid n :: _ => .error (.invalid n index)
  | .incomplete :: _ => .error (.incomplete index)

/-- Strict reading. -/
def decode (bs : List UInt8) : Except Fault String := (chars 0 (pieces bs)).map String.ofList

/-- Strict reading without the place of a fault. -/
def decode? (bs : List UInt8) : Option String := (decode bs).toOption

/-- Lossy reading: every piece that is no character reads as the replacement character. -/
def decodeLossy (bs : List UInt8) : String :=
  String.ofList ((pieces bs).map fun
    | .char c => c
    | _ => '\uFFFD')

end Utf8

end Callsign.Text
