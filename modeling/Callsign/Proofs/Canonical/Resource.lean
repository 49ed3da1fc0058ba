import Callsign.Canonical.Roa
import Callsign.Proofs.Encoding.Split
import Callsign.Proofs.Table

/-!
# The resource of a text to sign

What a path has behind its question mark is one more name without a value, so it may as well be the first pair
of the query (`roaResource_cons`). A question mark at the end of the path makes it the empty name, which the
resource has a place for (`roaResource_bare_mark`).
-/

namespace Callsign.Canonical
open Encoding
variable {path key : List Char} {queries : List (String × Option String)}

/-- A path with a table of parameters. -/
def joinParams (path : String) (params : Table (Option String)) : String :=
  if params.isEmpty then path
  else path ++ "?" ++ "&".intercalate (params.entries.map fun (k, v) =>
    match v with
    | some v => k ++ "=" ++ v
    | none => k)

theorem roaResource_path (h : '?' ∉ path) :
    roaResource (String.ofList path) queries = joinParams (String.ofList path) (.ofList queries) := by
  rw [roaResource, roaParams, String.toList_ofList, takeWhile_of_not_mem h, dropWhile_of_not_mem h]
  rfl

theorem roaResource_mark (h : '?' ∉ path) :
    roaResource (String.ofList (path ++ '?' :: key)) queries =
      joinParams (String.ofList path) ((Table.ofList queries).insert (String.ofList key) none) := by
  rw [roaResource, roaParams, String.toList_ofList, takeWhile_ne h, dropWhile_ne h]
  rfl

theorem roaResource_cons (h : '?' ∉ path) (hk : ∀ q ∈ queries, q.1 ≠ String.ofList key) :
    roaResource (String.ofList path) ((String.ofList key, none) :: queries) =
      roaResource (String.ofList (path ++ '?' :: key)) queries := by
  rw [roaResource_path h, roaResource_mark h, Table.ofList_cons hk]

/-- A question mark with nothing behind it makes the resource longer. -/
theorem roaResource_bare_mark (h : '?' ∉ path) (hq : ∀ q ∈ queries, q.1 ≠ "") :
    roaResource (String.ofList path) queries ≠ roaResource (String.ofList (path ++ ['?'])) queries := by
  have hkeys : ∀ e ∈ (Table.ofList queries).entries, e.1 ≠ "" := fun e he => hq e (Table.mem_of_mem_ofList he)
  have hentries : ((Table.ofList queries).insert (String.ofList []) none).entries = ("", none) :: _ :=
    Table.entries_insert_empty hkeys none
  rw [roaResource_path h, roaResource_mark h, joinParams, joinParams, Table.isEmpty, Table.isEmpty, hentries]
  intro he
  replace he := congrArg String.length he
  cases hes : (Table.ofList queries).entries with
  | nil => simp [hes] at he
  | cons e es => simp [hes] at he

end Callsign.Canonical
