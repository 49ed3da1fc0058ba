import Callsign.Time.Calendar

/-!
# Written times

Two layouts for what is sent, both in Greenwich time and whole seconds, and one for what is shown.
-/

namespace Callsign.Time

def digit (n : Nat) : Char := Char.ofNat (48 + n % 10)

/-- The last `width` digits of a number. -/
def digits : Nat → Nat → List Char
  | 0, _ => []
  | width + 1, n => digits width (n / 10) ++ [digit n]

/-- A year in four digits; outside 0 to 9999 in at least four, with a sign. -/
def yearText (y : Int) : List Char :=
  if 0 ≤ y ∧ y ≤ 9999 then digits 4 y.toNat
  else (if y < 0 then '-' else '+') ::
    (if y.natAbs ≤ 9999 then digits 4 y.natAbs else Nat.toDigits 10 y.natAbs)

def weekdayNames : List String := ["Sun", "Mon", "Tue", "Wed", "Thu", "Fri", "Sat"]

def monthNames : List String :=
  ["Jan", "Feb", "Mar", "Apr", "May", "Jun", "Jul", "Aug", "Sep", "Oct", "Nov", "Dec"]

def weekdayText (d : Date) : List Char := (weekdayNames.getD d.weekday "").toList

def monthText (d : Date) : List Char := (monthNames.getD (d.month - 1) "").toList

namespace Reading

/-- The date as in `2022-03-13`. -/
def dateText (r : Reading) : List Char :=
  yearText r.date.year ++ '-' :: digits 2 r.date.month ++ '-' :: digits 2 r.date.day

/-- The time of the day as in `07:20:04`. -/
def timeText (r : Reading) : List Char :=
  digits 2 r.hour ++ ':' :: digits 2 r.minute ++ ':' :: digits 2 r.second

/-- Parts of a second in as few groups of three digits as they need. -/
def nanosText (r : Reading) : List Char :=
  if r.nanos = 0 then []
  else if r.nanos % 1000000 = 0 then '.' :: digits 3 (r.nanos / 1000000)
  else if r.nanos % 1000 = 0 then '.' :: digits 6 (r.nanos / 1000)
  else '.' :: digits 9 r.nanos

end Reading

/-- Layout `2022-03-13T07:20:04Z`. -/
def iso8601 (t : Instant) : String :=
  let r := Reading.ofInstant t
  String.ofList (r.dateText ++ 'T' :: r.timeText ++ ['Z'])

/-- Layout `Sun, 06 Nov 1994 08:49:37 GMT`. -/
def httpDate (t : Instant) : String :=
  let r := Reading.ofInstant t
  String.ofList (weekdayText r.date ++ [',', ' '] ++ digits 2 r.date.day ++ ' ' ::
    monthText r.date ++ ' ' :: yearText r.date.year ++ ' ' :: r.timeText ++ [' ', 'G', 'M', 'T'])

/-- The shown form: layout `2022-03-13T07:20:04Z` with the parts of the second. -/
def shown (t : Instant) : String :=
  let r := Reading.ofInstant t
  String.ofList (r.dateText ++ 'T' :: r.timeText ++ r.nanosText ++ ['Z'])

end Callsign.Time
