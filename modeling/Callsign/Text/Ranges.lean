/-!
# Sets of characters as ranges

A set is an ascending list of disjoint closed ranges of code points.
-/

namespace Callsign.Text

abbrev Ranges := List (Nat × Nat)

def Ranges.mem (rs : Ranges) (c : Char) : Bool :=
  rs.any fun (first, last) => first ≤ c.toNat && c.toNat ≤ last

end Callsign.Text
