import Callsign.Json.Value

/-!
# Records in JSON

A record is an object with known fields, all of which may be missing, or the array of its fields in
their order. Unknown fields are read over, and a field that is there twice is a fault.
-/

namespace Callsign.Json

open Reader

/-- A field of a record under construction. -/
structure Field (σ : Type) where
  name : String
  read : σ → Reader σ

namespace Record

/-- The fields of an object behind its bracket; `seen` are the names that have been there. -/
def named {σ : Type} (fields : List (Field σ)) : Nat → Bool → List String → σ → Reader σ
  | 0, _, _, _ => fail .eofObject
  | fuel + 1, first, seen, s => do
    if ← nextName first then
      let name ← Reader.string true
      match fields.find? (·.name = name) with
      | some f =>
        if seen.contains name then fail (.repeatedField name)
        else
          colon
          named fields fuel false (name :: seen) (← f.read s)
      | none =>
        colon
        skip
        named fields fuel false seen s
    else return s

/-- The fields of an array behind its bracket; those at the end may be missing. -/
def listed {σ : Type} : List (Field σ) → Bool → σ → Reader σ
  | [], _, s => do
    match ← peekToken with
    | some b => if b = byte ']' then (do drop 1; return s) else failAhead .trailingCharacters
    | none => failAhead .eofList
  | f :: fs, first, s => do
    match ← peekToken with
    | none => failAhead .eofList
    | some b =>
      if b = byte ']' then
        drop 1
        return s
      else if first then listed fs false (← f.read s)
      else if b = byte ',' then
        drop 1
        match ← peekToken with
        | none => failAhead .eofValue
        | some b =>
          if b = byte ']' then failAhead .trailingComma else listed fs false (← f.read s)
      else failAhead .expectedListEnd

end Record

namespace Reader

/-- A record whose missing fields are those of `start`. -/
def record {σ : Type} (fields : List (Field σ)) (start : σ) : Reader σ := do
  match ← peekToken with
  | none => failAhead .eofValue
  | some b =>
    if b = byte '\x7b' then
      drop 1
      Record.named fields ((← left) + 1) true [] start
    else if b = byte '[' then
      drop 1
      Record.listed fields true start
    else failAhead .wrongType

/-- A list of what `item` reads. -/
def list {α : Type} (item : Reader α) : Reader (List α) := do
  match ← peekToken with
  | none => failAhead .eofValue
  | some b =>
    if b = byte '[' then
      drop 1
      items item ((← left) + 1) true
    else failAhead .wrongType

/-- What `some` reads, or the word for nothing. -/
def orNull {α : Type} (some : UInt8 → Reader α) : Reader (Option α) := do
  match ← peekToken with
  | none => failAhead .eofValue
  | .some b =>
    if b = byte 'n' then
      drop 1
      word ['u', 'l', 'l']
      return none
    else return Option.some (← some b)

def optionalText : Reader (Option String) := orNull fun b => do
  if b = byte '"' then
    drop 1
    string true
  else failAhead .wrongType

def optionalBool : Reader (Option Bool) := orNull fun b => do
  if b = byte 't' then
    drop 1
    word ['r', 'u', 'e']
    return true
  else if b = byte 'f' then
    drop 1
    word ['a', 'l', 's', 'e']
    return false
  else failAhead .wrongType

end Reader

end Callsign.Json
