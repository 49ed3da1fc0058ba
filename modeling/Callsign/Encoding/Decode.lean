import Callsign.Encoding.Percent

/-!
# Reading encoded text back

The pairs of a query stand between its `&`, the name of each before its first `=`. A form reads a
plus as a space, and a name without a value as one with an empty value.
-/

namespace Callsign.Encoding

/-- The value of a hexadecimal digit of either case. -/
def hexValue? (c : Char) : Option Nat :=
  if '0' ≤ c ∧ c ≤ '9' then some (c.toNat - 48)
  else if 'A' ≤ c ∧ c ≤ 'F' then some (c.toNat - 55)
  else if 'a' ≤ c ∧ c ≤ 'f' then some (c.toNat - 87)
  else none

/-- The bytes of encoded text. A percent sign that no two digits follow stands for itself. -/
def unescape : List Char → List UInt8
  | [] => []
  | '%' :: a :: b :: r =>
    match hexValue? a, hexValue? b with
    | some m, some n => UInt8.ofNat (16 * m + n) :: unescape r
    | _, _ => 37 :: unescape (a :: b :: r)
  | c :: r => String.utf8EncodeChar c ++ unescape r

/-- The text that was encoded. -/
def decodeText (cs : List Char) : String := Text.Utf8.decodeLossy (unescape cs)

/-- What stands between the occurrences of a character. -/
def splitAll (sep : Char) : List Char → List (List Char)
  | [] => [[]]
  | c :: r =>
    if c = sep then [] :: splitAll sep r
    else match splitAll sep r with
      | p :: ps => (c :: p) :: ps
      | [] => [[c]]

/-- What stands before the first occurrence of a character, and what behind it, if it occurs. -/
def splitFirst (sep : Char) (cs : List Char) : List Char × Option (List Char) :=
  (cs.takeWhile (· ≠ sep), (cs.dropWhile (· ≠ sep)).tail?)

/-- The pair that a piece of a query is: a name with its value, or a name alone. -/
def decodePair (piece : List Char) : String × Option String :=
  let (k, v) := splitFirst '=' piece
  (decodeText k, v.map decodeText)

/-- The pairs of a query. -/
def decodeQuery (cs : List Char) : List (String × Option String) :=
  (splitAll '&' cs).map decodePair

/-- The pairs of a form. Nothing between two `&` is no pair. -/
def decodeForm (cs : List Char) : List (String × String) :=
  ((splitAll '&' cs).filter (!·.isEmpty)).map fun piece =>
    let (k, v) := decodePair (piece.map fun c => if c = '+' then ' ' else c)
    (k, v.getD "")

end Callsign.Encoding
