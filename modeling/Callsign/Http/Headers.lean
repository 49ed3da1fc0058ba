import Callsign.Http.Token
import Callsign.Table

/-!
# Header fields

A name may carry several values, which stay in the order of their arrival. The names themselves
have no order but their own.
-/

namespace Callsign.Http

abbrev Headers := Table (List FieldValue)

namespace Headers

/-- The values of a name, none if it is absent. -/
def values (h : Headers) (name : String) : List FieldValue := (h.get? name).getD []

/-- The headers with `v` as the only value of the name. -/
def set (h : Headers) (name : String) (v : FieldValue) : Headers := h.insert name [v]

/-- The headers with `v` after the values of the name. -/
def append (h : Headers) (name : String) (v : FieldValue) : Headers :=
  h.insert name (h.values name ++ [v])

/-- The headers with a text as the only value of the name. -/
def setText (h : Headers) (name text : String) : Except Error Headers :=
  return h.set name (← FieldValue.ofText text)

/-- The headers with a text that is not to be shown, if there is one. -/
def setHidden (h : Headers) (name : String) : Option String → Except Error Headers
  | some text => return h.set name (← FieldValue.ofText text).hide
  | none => .ok h

/-- Every field, one for each value. -/
def fields (h : Headers) : List (String × FieldValue) :=
  h.entries.flatMap fun (name, vs) => vs.map (name, ·)

/-- The headers that some fields make, added one after the other. -/
def ofFields (fs : List (String × FieldValue)) : Headers := fs.foldl (fun h f => h.append f.1 f.2) Table.empty

end Headers

end Callsign.Http
