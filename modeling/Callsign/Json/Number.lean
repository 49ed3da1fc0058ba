import Callsign.Json.Scan

/-!
# JSON numbers

A number is written as digits with an optional fraction and exponent. It reads as a whole number
where it is written as one that fits in 64 bits, and as a floating point number elsewhere: as many
digits as fit in 64 bits, then scaled by a power of ten.
-/

namespace Callsign.Json

inductive Number
  | whole (n : Int)
  | real (x : Float)

/-- The parts of a written number, digits as values. -/
structure Numeral where
  negative : Bool
  whole : List Nat
  fraction : Option (List Nat)
  exponent : Option (Bool × List Nat)

namespace Numeral

open Reader

def digits : Reader (List Nat) := do
  return (← run isDigit).map fun b => (b - byte '0').toNat

/-- The digits before the point: a zero alone, or digits that do not begin with one. -/
def wholeDigits : Reader (List Nat) := do
  match ← next with
  | none => fail .eofValue
  | some b =>
    if b = byte '0' then
      match ← peek with
      | some d => if isDigit d then failAhead .invalidNumber else return [0]
      | none => return [0]
    else if isDigit b then return (b - byte '0').toNat :: (← digits)
    else fail .invalidNumber

def fractionDigits : Reader (Option (List Nat)) := do
  if (← peek) = some (byte '.') then
    drop 1
    let ds ← digits
    if ds.isEmpty then
      match ← peek with
      | some _ => failAhead .invalidNumber
      | none => failAhead .eofValue
    else return some ds
  else return none

/-- The exponent: whether it is negative, and its digits. -/
def exponentDigits : Reader (Option (Bool × List Nat)) := do
  match ← peek with
  | some b =>
    if b = byte 'e' || b = byte 'E' then
      drop 1
      let sign ← peek
      if sign = some (byte '+') || sign = some (byte '-') then drop 1
      match ← next with
      | none => fail .eofValue
      | some d =>
        if isDigit d then
          let ds ← digits
          return some (sign = some (byte '-'), (d - byte '0').toNat :: ds)
        else fail .invalidNumber
    else return none
  | none => return none

/-- The number whose sign, if it has one, is read. -/
def read (negative : Bool) : Reader Numeral := do
  let whole ← wholeDigits
  let fraction ← fractionDigits
  let exponent ← exponentDigits
  return ⟨negative, whole, fraction, exponent⟩

/-- Appends digits to a number for as long as it stays below `2 ^ 64`; also how many were appended,
and those that were not. -/
def gather (n : Nat) : List Nat → Nat × Nat × List Nat
  | [] => (n, 0, [])
  | d :: ds =>
    if n * 10 + d < 0x10000000000000000 then
      let (m, k, rest) := gather (n * 10 + d) ds
      (m, k + 1, rest)
    else (n, 0, d :: ds)

/-- `x * 10 ^ e`, of which a table holds the powers up to 308; too large a number is none. Three
divisions by the largest power leave nothing. -/
def scale : Nat → Float → Int → Option Float
  | 0, x, _ => some x
  | fuel + 1, x, e =>
    if e.natAbs ≤ 308 then
      if 0 ≤ e then
        let y := x * Float.ofScientific 1 false e.natAbs
        if y.isInf then none else some y
      else some (x / Float.ofScientific 1 false e.natAbs)
    else if x == 0 then some x
    else if 0 ≤ e then none
    else scale fuel (x / Float.ofScientific 1 false 308) (e + 308)

def signed (negative : Bool) (x : Float) : Float := if negative then -x else x

/-- The largest power of ten that an exponent can be. -/
def exponentLimit : Nat := 0x80000000

/-- How many digits it takes for the exponent to pass its limit. -/
def pastLimit (ds : List Nat) : Nat :=
  (List.range (ds.length + 1)).find?
    (fun k => exponentLimit ≤ (ds.take k).foldl (fun n d => n * 10 + d) 0) |>.getD ds.length

/-- The value of a numeral, or how many bytes before its end it turns out to be too large. -/
def value (n : Numeral) : Except Nat Number :=
  let (m, _, dropped) := gather 0 n.whole
  let (m', k, _) := gather m (n.fraction.getD [])
  let shift : Int := (dropped.length : Int) - k
  let real (e : Int) : Except Nat Number :=
    match scale 4 m'.toUInt64.toFloat e with
    | some x => .ok (.real (signed n.negative x))
    | none => .error 0
  match n.exponent with
  | some (negative, ds) =>
    let e : Nat := ds.foldl (fun n d => n * 10 + d) 0
    if e < exponentLimit then real (if negative then shift - e else shift + e)
    else if m' = 0 || negative then .ok (.real (signed n.negative 0))
    else .error (ds.length - pastLimit ds)
  | none =>
    if n.fraction.isSome || !dropped.isEmpty then real shift
    else if !n.negative then .ok (.whole m)
    else if 0 < m && m ≤ 0x8000000000000000 then .ok (.whole (-m))
    else .ok (.real (signed true m.toUInt64.toFloat))

end Numeral

/-- The number whose sign, if it has one, is read. -/
def Reader.number (negative : Bool) : Reader Number := do
  let n ← Numeral.read negative
  match n.value with
  | .ok x => return x
  | .error back => fun c => .error ⟨.numberOutOfRange, c.index - back⟩

end Callsign.Json
