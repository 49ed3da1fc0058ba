import Callsign.Error
import Callsign.Text.Blank
import Callsign.Time.Format

/-!
# Reading times

The two written forms that instants are read from. A reader takes the front of the text and gives
what it read with the rest; nothing may be left over at the end.
-/

namespace Callsign.Time

/-- A reader of the front of a text. -/
abbrev Front (α : Type) := StateT (List Char) Option α

namespace Front

/-- The number written by some digits. -/
def number (ds : List Char) : Nat := ds.foldl (fun n d => n * 10 + (d.toNat - 48)) 0

/-- Exactly `n` digits. -/
def numeral (n : Nat) : Front Nat := fun cs =>
  if (cs.take n).length = n ∧ (cs.take n).all Char.isDigit then
    some (number (cs.take n), cs.drop n)
  else none

/-- One character. -/
def char (c : Char) : Front Unit
  | d :: r => if c = d then some ((), r) else none
  | [] => none

/-- One of some characters. -/
def oneOf (these : List Char) : Front Char
  | d :: r => if these.contains d then some (d, r) else none
  | [] => none

/-- The longest run of digits. -/
def digitRun : Front (List Char) := fun cs => some (cs.takeWhile Char.isDigit, cs.dropWhile Char.isDigit)

/-- White space, of which there is some. -/
def blank : Front Unit := fun cs => (Text.skipBlanks1? cs).map ((), ·)

/-- White space, if there is any. -/
def blanks : Front Unit := fun cs => some ((), Text.skipBlanks cs)

/-- What `f` reads, or nothing where it cannot. -/
def optionally {α : Type} (f : Front α) : Front (Option α) := fun cs =>
  match f cs with
  | some (a, r) => some (some a, r)
  | none => some (none, cs)

/-- Fails unless the condition holds. -/
def require (b : Bool) : Front Unit := fun cs => if b then some ((), cs) else none

/-- What the whole text reads as. -/
def whole {α : Type} (f : Front α) (s : String) : Option α :=
  match f s.toList with
  | some (a, []) => some a
  | _ => none

/-- Hours and minutes ahead of Greenwich, in minutes. -/
def offset (sign : Char) (hours minutes : Nat) : Int :=
  let n : Int := hours * 60 + minutes
  if sign = '+' then n else -n

end Front

open Front

namespace Rfc3339

/-- Nanoseconds from the digits behind a decimal point; digits past the ninth do not count. -/
def nanos (ds : List Char) : Nat := number (ds ++ List.replicate (9 - ds.length) '0' |>.take 9)

def fraction : Front Nat := do
  match ← optionally (char '.') with
  | none => return 0
  | some () =>
    let ds ← digitRun
    require !ds.isEmpty
    return nanos ds

/-- The zone: `Z`, or a sign, hours and minutes of less than a day. -/
def zone : Front Int := do
  match ← oneOf ['Z', 'z', '+', '-', '−'] with
  | 'Z' | 'z' => return 0
  | sign =>
    let h ← numeral 2
    char ':'
    let m ← numeral 2
    require (h < 24 && m < 60)
    return offset sign h m

def instant : Front (Option Instant) := do
  let year ← numeral 4
  char '-'
  let month ← numeral 2
  char '-'
  let day ← numeral 2
  let _ ← oneOf ['T', 't', ' ']
  let hour ← numeral 2
  char ':'
  let minute ← numeral 2
  char ':'
  let second ← numeral 2
  let nanos ← fraction
  let ahead ← zone
  return (Reading.mk ⟨year, month, day⟩ hour minute second nanos).toInstant? ahead

end Rfc3339

namespace Rfc2822

/-- The place in a list of the three-letter name that the text begins with, in any case. -/
def name (names : List String) : Front Nat := fun cs =>
  let front := (cs.take 3).map Char.toLower
  match names.findIdx? fun n => n.toList.map Char.toLower = front with
  | some i => some (i, cs.drop 3)
  | none => none

/-- The day of the week, which a comma follows. -/
def weekday : Front (Option Nat) := do
  let day ← optionally (name weekdayNames)
  if day.isSome then char ','
  return day

/-- One or two digits. -/
def day : Front Nat := fun cs => (numeral 2 cs).or (numeral 1 cs)

/-- A year; two digits are of 1950 to 2049, and three count from 1900. -/
def year : Front Nat := do
  let ds ← digitRun
  require (2 ≤ ds.length)
  let n := number ds
  return if ds.length = 2 then (if n < 50 then n + 2000 else n + 1900)
    else if ds.length = 3 then n + 1900 else n

def second : Front Nat := do
  match ← optionally (do blanks; char ':') with
  | some () => numeral 2
  | none => return 0

/-- Hours ahead of Greenwich of the named zones. -/
def namedZone (name : String) : Option Int :=
  match name with
  | "gmt" | "ut" | "z" => some 0
  | "edt" => some (-4)
  | "est" | "cdt" => some (-5)
  | "cst" | "mdt" => some (-6)
  | "mst" | "pdt" => some (-7)
  | "pst" => some (-8)
  | _ => if name.length = 1 && name != "j" then some 0 else none

/-- The zone: a name, or a sign, hours and minutes. -/
def zone : Front Int := do
  match ← (fun cs => some (cs.takeWhile Char.isAlpha, cs.dropWhile Char.isAlpha)) with
  | [] =>
    let sign ← oneOf ['+', '-']
    let h ← numeral 2
    let m ← numeral 2
    require (h < 24 && m < 60)
    return offset sign h m
  | letters =>
    match namedZone (String.ofList (letters.map Char.toLower)) with
    | some hours => return hours * 60
    | none => failure

/-- The text behind a comment of which `depth` brackets are open; a backslash hides the character
behind it. -/
def closeComment : Nat → List Char → Option (List Char)
  | _, [] => none
  | depth, '(' :: r => closeComment (depth + 1) r
  | depth, ')' :: r => if depth ≤ 1 then some r else closeComment (depth - 1) r
  | _, ['\\'] => none
  | depth, '\\' :: _ :: r => closeComment depth r
  | depth, _ :: r => closeComment depth r

/-- The text behind white space and a comment. -/
def comment? (cs : List Char) : Option (List Char) :=
  match Text.skipBlanks cs with
  | '(' :: r => closeComment 1 r
  | _ => none

/-- The text behind all comments, of which there are no more than characters. -/
def skipComments : Nat → List Char → List Char
  | 0, cs => cs
  | n + 1, cs =>
    match comment? cs with
    | some r => skipComments n r
    | none => cs

def comments : Front Unit := fun cs => some ((), skipComments cs.length cs)

def instant : Front (Option Instant) := do
  blanks
  let weekday ← weekday
  blanks
  let day ← day
  blank
  let month ← name monthNames
  blank
  let year ← year
  blank
  let hour ← numeral 2
  blanks
  char ':'
  blanks
  let minute ← numeral 2
  let second ← second
  blank
  let ahead ← zone
  comments
  let date : Date := ⟨year, month + 1, day⟩
  require (weekday.all (· = date.weekday))
  return (Reading.mk date hour minute second 0).toInstant? ahead

end Rfc2822

/-- The instant that the front gives for a whole text; otherwise the error that names the form. -/
def parseAs (form : String) (f : Front (Option Instant)) (s : String) : Except Error Instant :=
  match (f.whole s).join with
  | some t => .ok t
  | none => .error (.ofProblem (.notATime s form))

/-- Reads the form `2021-10-20T04:27:09Z`. -/
def parseRfc3339 : String → Except Error Instant := parseAs "rfc3339" Rfc3339.instant

/-- Reads the form `Mon, 15 Aug 2022 16:50:12 GMT`. -/
def parseRfc2822 : String → Except Error Instant := parseAs "rfc2822" Rfc2822.instant

end Callsign.Time
