import Callsign.Http.Headers
import Callsign.Text.Lowercase

/-!
# The text that an ROA signature covers

The method, four header values, the headers of the service itself, and the resource: the path with
its query. What the path holds behind its first `?` counts as a name without a value.
-/

namespace Callsign.Canonical

/-- `part` stands somewhere in the text. -/
def hasPart (part : List Char) : List Char → Bool
  | [] => part.isEmpty
  | c :: r => part.isPrefixOf (c :: r) || hasPart part r

/-- Headers that belong to the service. -/
def isServiceHeader (name : String) : Bool := hasPart "x-acs-".toList name.toList

/-- The service headers, one on a line, the values of a name joined by commas. -/
def roaHeaders (h : Http.Headers) : Except Error String := do
  let lines ← (h.entries.filter fun (name, _) => isServiceHeader name).mapM fun (name, vs) => do
    let texts ← vs.mapM Http.FieldValue.text
    return name ++ ":" ++ ",".intercalate texts ++ "\n"
  return String.join lines

/-- The query pairs as a table, on top of which comes what the path holds behind its first `?`. -/
def roaParams (uri : String) (queries : List (String × Option String)) : Table (Option String) :=
  let params := Table.ofList queries
  match uri.toList.dropWhile (· ≠ '?') with
  | _ :: fragment => params.insert (String.ofList fragment) none
  | [] => params

/-- The resource: the path, and the parameters in the order of their names, not encoded. -/
def roaResource (uri : String) (queries : List (String × Option String)) : String :=
  let path := String.ofList (uri.toList.takeWhile (· ≠ '?'))
  let params := roaParams uri queries
  if params.isEmpty then path
  else
    let pairs := params.entries.map fun (k, v) =>
      match v with
      | some v => k ++ "=" ++ v
      | none => k
    path ++ "?" ++ "&".intercalate pairs

/-- The first value of a header as text, empty where there is none. -/
def firstValue (h : Http.Headers) (name : String) : Except Error String :=
  match h.values name with
  | v :: _ => v.text
  | [] => .ok ""

/-- The text to sign. -/
def roaText (method : String) (h : Http.Headers) (uri : String)
    (queries : List (String × Option String)) : Except Error String := do
  let accept ← firstValue h "accept"
  let contentMd5 ← firstValue h "content-md5"
  let contentType ← firstValue h "content-type"
  let date ← firstValue h "date"
  let headers ← roaHeaders h
  return Text.asciiUppercase method ++ "\n" ++ accept ++ "\n" ++ contentMd5 ++ "\n" ++
    contentType ++ "\n" ++ date ++ "\n" ++ headers ++ roaResource uri queries

end Callsign.Canonical
