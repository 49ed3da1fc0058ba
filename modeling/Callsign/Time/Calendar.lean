/-!
# Instants and the calendar

An instant counts seconds from the start of 1970. A second of more than 10^9 nanoseconds is a leap
second: it lies past its second and before the next one. Dates are proleptic Gregorian.
-/

namespace Callsign.Time

/-- A point in time: whole seconds since 1970, and nanoseconds into the second. -/
structure Instant where
  seconds : Int
  nanos : Nat := 0
  deriving DecidableEq, Repr

namespace Instant

def isBefore (a b : Instant) : Bool :=
  a.seconds < b.seconds || (a.seconds = b.seconds && a.nanos < b.nanos)

/-- The instant `n > 0` seconds later; a leap second counts as the second it belongs to. -/
def plusSeconds (t : Instant) (n : Nat) : Instant :=
  ⟨t.seconds + n, if t.nanos < 1000000000 then t.nanos else t.nanos - 1000000000⟩

end Instant

/-- A day of the calendar. -/
structure Date where
  year : Int
  month : Nat
  day : Nat
  deriving DecidableEq, Repr

namespace Date

def isLeapYear (y : Int) : Bool := y % 4 = 0 && (y % 100 ≠ 0 || y % 400 = 0)

def monthLength (y : Int) (m : Nat) : Nat :=
  if m = 2 then (if isLeapYear y then 29 else 28)
  else if m = 4 || m = 6 || m = 9 || m = 11 then 30
  else 31

def isValid (d : Date) : Bool :=
  1 ≤ d.month && d.month ≤ 12 && 1 ≤ d.day && d.day ≤ monthLength d.year d.month

/-- Days since the start of 1970. Years are counted from March, so that the leap day ends them. -/
def toDays (d : Date) : Int :=
  let y := if d.month ≤ 2 then d.year - 1 else d.year
  let era := y / 400
  let ofEra := y - era * 400
  let ofYear := ((153 * ((d.month : Int) + (if d.month ≤ 2 then 9 else -3)) + 2) / 5) + d.day - 1
  era * 146097 + (ofEra * 365 + ofEra / 4 - ofEra / 100 + ofYear) - 719468

/-- The day that lies `n` days after the start of 1970. -/
def ofDays (n : Int) : Date :=
  let z := n + 719468
  let era := z / 146097
  let dayOfEra := z - era * 146097
  let yearOfEra := (dayOfEra - dayOfEra / 1460 + dayOfEra / 36524 - dayOfEra / 146096) / 365
  let dayOfYear := dayOfEra - (365 * yearOfEra + yearOfEra / 4 - yearOfEra / 100)
  let march := (5 * dayOfYear + 2) / 153
  let day := dayOfYear - (153 * march + 2) / 5 + 1
  let month := if march < 10 then march + 3 else march - 9
  ⟨yearOfEra + era * 400 + (if month ≤ 2 then 1 else 0), month.toNat, day.toNat⟩

/-- The day of the week, with 0 for Sunday. -/
def weekday (d : Date) : Nat := ((d.toDays + 4) % 7).toNat

end Date

/-- What a clock on the wall shows: a date and the time of the day, in which second 60 stands for
a leap second. -/
structure Reading where
  date : Date
  hour : Nat
  minute : Nat
  second : Nat
  nanos : Nat
  deriving DecidableEq, Repr

namespace Reading

def ofInstant (t : Instant) : Reading :=
  let s := (t.seconds % 86400).toNat
  let leap := 1000000000 ≤ t.nanos
  ⟨.ofDays (t.seconds / 86400), s / 3600, s / 60 % 60, s % 60 + (if leap then 1 else 0),
    if leap then t.nanos - 1000000000 else t.nanos⟩

def isValid (r : Reading) : Bool :=
  r.date.isValid && r.hour < 24 && r.minute < 60 && r.second ≤ 60

/-- The last second of the years that are told apart. -/
def lastSecond : Int := (Date.toDays ⟨262142, 12, 31⟩ + 1) * 86400 - 1

/-- The instant of a reading taken `offset` minutes ahead of Greenwich, if there is one. -/
def toInstant? (r : Reading) (offset : Int) : Option Instant :=
  if r.isValid && r.date.year ≤ 262142 then
    let leap := r.second = 60
    let seconds := r.date.toDays * 86400 + r.hour * 3600 + r.minute * 60 +
      (if leap then 59 else r.second) - offset * 60
    if seconds ≤ lastSecond then
      some ⟨seconds, if leap then r.nanos + 1000000000 else r.nanos⟩
    else none
  else none

end Reading

end Callsign.Time
