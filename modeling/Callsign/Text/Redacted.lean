/-!
# Redacted text

Secrets show at most three bytes at either end. A cut that would fall inside a character shows
nothing, and so does a text of fewer than twelve bytes.
-/

namespace Callsign.Text.Redacted

/-- The bytes that a list of characters takes. -/
def size : List Char → Nat
  | [] => 0
  | c :: cs => c.utf8Size + size cs

/-- The characters that make up exactly the first `n` bytes, and the rest. -/
def splitAt? : Nat → List Char → Option (List Char × List Char)
  | 0, cs => some ([], cs)
  | _ + 1, [] => none
  | n + 1, c :: cs =>
    if c.utf8Size ≤ n + 1 then
      (splitAt? (n + 1 - c.utf8Size) cs).map fun (front, back) => (c :: front, back)
    else none
termination_by structural _ cs => cs

def hidden : List Char := "***".toList

def chars (cs : List Char) : List Char :=
  if size cs < 12 then hidden
  else match splitAt? 3 cs, splitAt? (size cs - 3) cs with
    | some (front, _), some (_, back) => front ++ hidden ++ back
    | _, _ => hidden

end Redacted

/-- The shown form of a secret; one that is missing or empty shows as `EMPTY`. -/
def redact (secret : Option String) : String :=
  match secret with
  | none => "EMPTY"
  | some s => if s.isEmpty then "EMPTY" else String.ofList (Redacted.chars s.toList)

end Callsign.Text
