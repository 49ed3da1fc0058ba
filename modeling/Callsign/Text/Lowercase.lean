import Callsign.Text.CaseTable

/-!
# Lowercase text

Each character becomes its lowercase letter. Two depend on more than themselves: a capital sigma at
the end of a word takes its final form, and a dotted capital I becomes two characters.
-/

namespace Callsign.Text

/-- The first character that case rules do not look past is one that has case. -/
def meetsCased (cs : List Char) : Bool :=
  match cs.dropWhile caseIgnorable.mem with
  | c :: _ => cased.mem c
  | [] => false

/-- The lowercase of `c` between the characters before it, nearest first, and those after it. -/
def lowercaseAt (before : List Char) (c : Char) (after : List Char) : List Char :=
  if c = 'Σ' then [if meetsCased before && !meetsCased after then 'ς' else 'σ']
  else if c = 'İ' then ['i', '\u0307']
  else [lowercaseLetter c]

def lowercaseFrom (before : List Char) : List Char → List Char
  | [] => []
  | c :: r => lowercaseAt before c r ++ lowercaseFrom (c :: before) r

/-- A text in lowercase. -/
def lowercase (s : String) : String := String.ofList (lowercaseFrom [] s.toList)

/-- A text with its ASCII letters in uppercase and all else kept. -/
def asciiUppercase (s : String) : String := s.map Char.toUpper

end Callsign.Text
