import Callsign.Error
import Callsign.Json.Number

/-!
# JSON values

Reading a whole text as one value. Values may stand in each other 127 deep. A value that nobody asks
for is read over: then only its form counts, and any depth will do.
-/

namespace Callsign

/-- A JSON value. The members of an object keep their order. -/
inductive Json
  | null
  | bool (b : Bool)
  | number (n : Json.Number)
  | string (s : String)
  | array (items : List Json)
  | object (members : List (String × Json))

namespace Json.Reader

/-- The items of an array behind its bracket, the closing one included. -/
def items {α : Type} (item : Reader α) : Nat → Bool → Reader (List α)
  | 0, _ => fail .eofList
  | fuel + 1, first => do
    match ← peekToken with
    | none => failAhead .eofList
    | some b =>
      if b = byte ']' then
        drop 1
        return []
      else if first then return (← item) :: (← items item fuel false)
      else if b = byte ',' then
        drop 1
        match ← peekToken with
        | none => failAhead .eofValue
        | some b =>
          if b = byte ']' then failAhead .trailingComma
          else return (← item) :: (← items item fuel false)
      else failAhead .expectedListEnd

/-- The colon between a name and its value. -/
def colon : Reader Unit := do
  match ← peekToken with
  | none => failAhead .eofObject
  | some b => if b = byte ':' then drop 1 else failAhead .expectedColon

/-- Whether an object goes on behind what is read of it; if so, the quote of the next name is
read, and otherwise the closing bracket. -/
def nextName (first : Bool) : Reader Bool := do
  match ← peekToken with
  | none => failAhead .eofObject
  | some b =>
    if b = byte '\x7d' then
      drop 1
      return false
    else if first then
      if b = byte '"' then
        drop 1
        return true
      else failAhead .keyMustBeString
    else if b = byte ',' then
      drop 1
      match ← peekToken with
      | none => failAhead .eofValue
      | some b =>
        if b = byte '"' then
          drop 1
          return true
        else if b = byte '\x7d' then failAhead .trailingComma
        else failAhead .keyMustBeString
    else failAhead .expectedObjectEnd

/-- The members of an object behind its bracket, the closing one included. -/
def members {α : Type} (name : Reader String) (item : Reader α) :
    Nat → Bool → Reader (List (String × α))
  | 0, _ => fail .eofObject
  | fuel + 1, first => do
    if ← nextName first then
      let k ← name
      colon
      let x ← item
      return (k, x) :: (← members name item fuel false)
    else return []

/-- What becomes of the parts of a value that is read. -/
structure Builder (α : Type) where
  strict : Bool
  word : Json → α
  text : String → α
  number : Bool → Reader α
  array : List α → α
  object : List (String × α) → α

/-- A value in which fewer than `depth` brackets stand open at once. -/
def build {α : Type} (into : Builder α) : Nat → Reader α
  | 0 => failAhead .tooDeep
  | depth + 1 => do
    match ← peekToken with
    | none => failAhead .eofValue
    | some b =>
      match Char.ofNat b.toNat with
      | 'n' => do
        drop 1
        word ['u', 'l', 'l']
        return into.word .null
      | 't' => do
        drop 1
        word ['r', 'u', 'e']
        return into.word (.bool true)
      | 'f' => do
        drop 1
        word ['a', 'l', 's', 'e']
        return into.word (.bool false)
      | '-' => do
        drop 1
        into.number true
      | '"' => do
        drop 1
        return into.text (← string into.strict)
      | '[' =>
        if depth = 0 then failAhead .tooDeep
        else do
          drop 1
          return into.array (← items (build into depth) ((← left) + 1) true)
      | '\x7b' =>
        if depth = 0 then failAhead .tooDeep
        else do
          drop 1
          return into.object
            (← members (string into.strict) (build into depth) ((← left) + 1) true)
      | _ => if isDigit b then into.number false else failAhead .expectedValue

/-- A value. -/
def value : Reader Json :=
  build ⟨true, id, .string, fun negative => .number <$> number negative, .array, .object⟩ 128

/-- Reads over a value. -/
def skip : Reader Unit := do
  build ⟨false, fun _ => (), fun _ => (), fun negative => discard (Numeral.read negative),
    fun _ => (), fun _ => ()⟩ ((← left) + 2)

/-- What the whole text reads as; behind it only white space may follow. -/
def whole {α : Type} (r : Reader α) (s : String) : Except Fault α :=
  let all : Reader α := do
    let a ← r
    match ← peekToken with
    | none => return a
    | some _ => failAhead .trailingCharacters
  (all ⟨Text.utf8 s, 0⟩).map (·.1)

end Json.Reader

/-- Reads a text as one JSON value. -/
def Json.parse (s : String) : Except Json.Fault Json := Json.Reader.value.whole s

/-- A JSON value, or the error of a text that is none. -/
def Json.read (s : String) : Except Error Json :=
  (Json.parse s).mapError fun f => .ofWords (f.message (Text.utf8 s))

end Callsign
