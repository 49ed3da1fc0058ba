import Callsign.Table

/-!
# Path patterns

A pattern holds places named in square brackets. The parameters are put in one after the other, in
the order of their names, each for all places that bear its name.
-/

namespace Callsign.Encoding

/-- Replaces each occurrence of `old`, from left to right; `n` characters are still part of the
occurrence before. -/
def replaceFrom (old new : List Char) : Nat → List Char → List Char
  | _, [] => []
  | n + 1, _ :: r => replaceFrom old new n r
  | 0, c :: r =>
    if old.isPrefixOf (c :: r) then new ++ replaceFrom old new (old.length - 1) r
    else c :: replaceFrom old new 0 r

def replaceAll (old new : List Char) : List Char → List Char := replaceFrom old new 0

/-- A place for the parameter `k`. -/
def placeholder (k : String) : List Char := '[' :: k.toList ++ [']']

/-- The pattern with its parameters put in. -/
def resolve (pattern : String) (params : Table String) : String :=
  String.ofList (params.entries.foldl
    (fun uri (k, v) => replaceAll (placeholder k) v.toList uri) pattern.toList)

end Callsign.Encoding
