import Callsign.Text.Ranges

/-!
# White space

The characters that separate words in any script.
-/

namespace Callsign.Text

def blanks : Ranges := [(0x9, 0xd), (0x20, 0x20), (0x85, 0x85), (0xa0, 0xa0), (0x1680, 0x1680),
  (0x2000, 0x200a), (0x2028, 0x2029), (0x202f, 0x202f), (0x205f, 0x205f), (0x3000, 0x3000)]

/-- The text behind the white space it begins with. -/
def skipBlanks (cs : List Char) : List Char := cs.dropWhile blanks.mem

/-- The text behind white space, of which there is some. -/
def skipBlanks1? (cs : List Char) : Option (List Char) :=
  match cs with
  | c :: r => if blanks.mem c then some (skipBlanks r) else none
  | [] => none

end Callsign.Text
