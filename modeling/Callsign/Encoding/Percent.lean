import Callsign.Text.Utf8

/-!
# Percent encodings

Text goes into a URI byte by byte: a byte stands for itself, or for `%` and two digits. The
encodings differ in the bytes that stand for themselves, and form encoding in its plus for a space.
-/

namespace Callsign.Encoding

/-- An uppercase hexadecimal digit. -/
def hexDigit (n : Nat) : Char := Char.ofNat (if n < 10 then 48 + n else 55 + n)

def escaped (b : UInt8) : List Char := ['%', hexDigit (b.toNat / 16), hexDigit (b.toNat % 16)]

def isAlphanum (b : UInt8) : Bool :=
  (48 ≤ b && b ≤ 57) || (65 ≤ b && b ≤ 90) || (97 ≤ b && b ≤ 122)

def byteChar (b : UInt8) : Char := Char.ofNat b.toNat

/-- Every byte that is not kept is escaped. -/
def percent (keep : UInt8 → Bool) (s : List UInt8) : List Char :=
  s.flatMap fun b => if keep b then [byteChar b] else escaped b

/-- The bytes that form encoding keeps: letters, digits and `*-._`. -/
def keptInForm (b : UInt8) : Bool := isAlphanum b || b = 42 || b = 45 || b = 46 || b = 95

/-- The bytes kept inside a path: letters, digits and `-_.~/`. -/
def keptInPath (b : UInt8) : Bool :=
  isAlphanum b || b = 45 || b = 95 || b = 46 || b = 126 || b = 47

/-- The bytes that stand for themselves anywhere in a URI: letters, digits and `-._~`. -/
def isUnreserved (b : UInt8) : Bool := isAlphanum b || b = 45 || b = 46 || b = 95 || b = 126

/-- The strict encoding, in which no other byte stands for itself. -/
def strict (s : String) : List Char := percent isUnreserved (Text.utf8 s)

/-- Form encoding of one name or value. -/
def formText (s : String) : List Char :=
  (Text.utf8 s).flatMap fun b =>
    if b = 32 then ['+'] else if keptInForm b then [byteChar b] else escaped b

/-- Each escaped tilde becomes a plain one. -/
def plainTilde : List Char → List Char
  | '%' :: '7' :: 'E' :: r => '~' :: plainTilde r
  | c :: r => c :: plainTilde r
  | [] => []

/-- Turns form encoding into the encoding of URIs: a plus into an escaped space, a star into an
escaped star, an escaped tilde into a plain one. -/
def restyle (cs : List Char) : List Char :=
  plainTilde (cs.flatMap fun c =>
    if c = '+' then ['%', '2', '0'] else if c = '*' then ['%', '2', 'A'] else [c])

/-- The encoding of one name or value. -/
def component (s : String) : List Char := restyle (formText s)

/-- The pairs `k=v`, joined by `&`. -/
def form (pairs : List (String × String)) : List Char :=
  restyle (['&'].intercalate (pairs.map fun (k, v) => formText k ++ '=' :: formText v))

/-- The pairs `k=v`, or the bare `k` where there is no value, joined by `&`. -/
def query (pairs : List (String × Option String)) : List Char :=
  ['&'].intercalate (pairs.map fun (k, v) =>
    component k ++ match v with
      | some v => '=' :: component v
      | none => [])

end Callsign.Encoding
