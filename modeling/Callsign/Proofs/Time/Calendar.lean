import Callsign.Time.Calendar

/-!
# Days and dates

`Date.toDays_ofDays`: the date of a day lies as many days after the start of 1970 as the day. The calendar repeats
after 400 years of 146097 days. In years that begin in March a day is told by its cycle, by the century in it, by
the four years in that, by the year in those and by its place in the year (`MarchDay`); the leap day is always the
last of its year. Both directions of the calendar are computed for such a day, and every day is one. What a clock
shows of an instant then leads back to it (`Reading.toInstant?_ofInstant`).
-/

namespace Callsign.Time

/-- A day by its place in cycles of 400 years that begin in March. Only the last of four years may have a day 365,
which is the leap day, and not that of a century unless the century is the last. -/
structure MarchDay where
  cycle : Int
  century : Int
  quad : Int
  year : Int
  day : Int
  century_range : 0 ≤ century ∧ century ≤ 3
  quad_range : 0 ≤ quad ∧ quad ≤ 24
  year_range : 0 ≤ year ∧ year ≤ 3
  day_range : 0 ≤ day ∧ day ≤ 365
  leap : day ≤ 364 ∨ year = 3 ∧ (quad ≤ 23 ∨ century = 3)

namespace MarchDay

def dayOfCycle (m : MarchDay) : Int := m.century * 36524 + m.quad * 1461 + m.year * 365 + m.day

def yearOfCycle (m : MarchDay) : Int := m.century * 100 + m.quad * 4 + m.year

/-- Days since the first of March of the year 0. -/
def number (m : MarchDay) : Int := m.cycle * 146097 + m.dayOfCycle

/-- Months since March. -/
def month (m : MarchDay) : Int := (5 * m.day + 2) / 153

/-- The year that the day is in if years begin in January. -/
def civilYear (m : MarchDay) : Int := m.yearOfCycle + m.cycle * 400 + (if m.month < 10 then 0 else 1)

/-- Every day has its place. -/
theorem exists_number (z : Int) : ∃ m : MarchDay, m.number = z := by
  let inCycle := z % 146097
  let century := min (inCycle / 36524) 3
  let inCentury := inCycle - century * 36524
  let inQuad := inCentury % 1461
  let year := min (inQuad / 365) 3
  refine ⟨⟨z / 146097, century, inCentury / 1461, year, inQuad - year * 365, ?_, ?_, ?_, ?_, ?_⟩, ?_⟩
  case refine_6 =>
    show z / 146097 * 146097 + (century * 36524 + inCentury / 1461 * 1461 + year * 365 + (inQuad - year * 365)) = z
    omega
  all_goals omega

variable (m : MarchDay)

theorem dayOfCycle_range : 0 ≤ m.dayOfCycle ∧ m.dayOfCycle < 146097 := by
  obtain ⟨cycle, century, quad, year, day, hc, hq, hy, hd, hl⟩ := m
  simp only [dayOfCycle]
  omega

theorem yearOfCycle_range : 0 ≤ m.yearOfCycle ∧ m.yearOfCycle < 400 := by
  obtain ⟨cycle, century, quad, year, day, hc, hq, hy, hd, hl⟩ := m
  simp only [yearOfCycle]
  omega

/-- The shortfall of centuries and the gain of leap days, taken off the day of the cycle, leave whole years. -/
theorem yearOfCycle_eq : (m.dayOfCycle - m.dayOfCycle / 1460 + m.dayOfCycle / 36524 - m.dayOfCycle / 146096) / 365 =
    m.yearOfCycle := by
  obtain ⟨cycle, century, quad, year, day, hc, hq, hy, hd, hl⟩ := m
  simp only [yearOfCycle]
  generalize hn : dayOfCycle _ = n
  simp only [dayOfCycle] at hn
  have hcentury : n / 36524 - n / 146096 = century := by
    have hlast : n < (century + 1) * 36524 ∨ century = 3 ∧ n = 146096 := by omega
    rcases hlast with hlt | ⟨rfl, rfl⟩
    · have hcycle : n / 146096 = 0 := by omega
      have hfirst : n / 36524 = century := by omega
      omega
    · rfl
  have hquads : n / 1460 = 25 * century + quad ∧ 24 * century + quad + 365 * year + day < 1460 ∨
      n / 1460 = 25 * century + quad + 1 ∧ 1460 ≤ 24 * century + quad + 365 * year + day := by omega
  rw [show n - n / 1460 + n / 36524 - n / 146096 = n - n / 1460 + century by omega]
  rcases hquads with ⟨hq, _⟩ | ⟨hq, _⟩ <;> rw [hq] <;> omega

theorem day_eq : m.dayOfCycle - (365 * m.yearOfCycle + m.yearOfCycle / 4 - m.yearOfCycle / 100) = m.day := by
  obtain ⟨cycle, century, quad, year, day, hc, hq, hy, hd, hl⟩ := m
  simp only [dayOfCycle, yearOfCycle]
  omega

theorem month_range : 0 ≤ m.month ∧ m.month ≤ 11 := by
  have hd := m.day_range
  rw [month]
  omega

theorem ofDays_number : Date.ofDays (m.number - 719468) =
    ⟨m.civilYear, (if m.month < 10 then m.month + 3 else m.month - 9).toNat,
      (m.day - (153 * m.month + 2) / 5 + 1).toNat⟩ := by
  have hrange := m.dayOfCycle_range
  have hcycle : (m.number - 719468 + 719468) / 146097 = m.cycle := by
    rw [number]
    omega
  have hday : m.number - 719468 + 719468 - m.cycle * 146097 = m.dayOfCycle := by
    rw [number]
    omega
  have hyear : (if (if m.month < 10 then m.month + 3 else m.month - 9) ≤ 2 then (1 : Int) else 0) =
      if m.month < 10 then 0 else 1 := by
    have hmonth := m.month_range
    split <;> split <;> omega
  simp only [Date.ofDays, hcycle, hday, yearOfCycle_eq, day_eq]
  exact congrArg (Date.mk · _ _) (congrArg (m.yearOfCycle + m.cycle * 400 + ·) hyear)

/-! ### Months -/

theorem isLeapYear_civilYear (h : m.day = 365) : Date.isLeapYear m.civilYear = true := by
  have hyear : m.civilYear = m.yearOfCycle + m.cycle * 400 + 1 := by
    rw [civilYear, month, h]
    rfl
  have hleap := m.leap
  have hquad := m.quad_range
  rw [yearOfCycle] at hyear
  simp only [Date.isLeapYear, Bool.and_eq_true, Bool.or_eq_true, decide_eq_true_eq]
  omega

/-- Months from March on are 153 days in five, so that each ends where the next begins; February comes last. -/
theorem day_le_monthLength : (m.day - (153 * m.month + 2) / 5 + 1).toNat ≤
    Date.monthLength m.civilYear (if m.month < 10 then m.month + 3 else m.month - 9).toNat := by
  have hd := m.day_range
  have hmonth : m.month = (5 * m.day + 2) / 153 := rfl
  by_cases hlast : m.month = 11
  · rw [hlast]
    -- Only in a leap year is there a day behind the 28th.
    by_cases hleap : m.day = 365
    · simp [Date.monthLength, m.isLeapYear_civilYear hleap, hleap]
    · have hfeb : 28 ≤ Date.monthLength m.civilYear 2 := by
        rw [Date.monthLength, if_pos rfl]
        split <;> decide
      refine Nat.le_trans ?_ hfeb
      omega
  · have hcases : m.month = 0 ∨ m.month = 1 ∨ m.month = 2 ∨ m.month = 3 ∨ m.month = 4 ∨ m.month = 5 ∨ m.month = 6 ∨
        m.month = 7 ∨ m.month = 8 ∨ m.month = 9 ∨ m.month = 10 := by
      have hrange := m.month_range
      omega
    rcases hcases with h | h | h | h | h | h | h | h | h | h | h
    all_goals
      rw [h]
      simp [Date.monthLength]
      omega

/-- Every day has a date that is on the calendar. -/
theorem isValid_date : (Date.ofDays (m.number - 719468)).isValid = true := by
  have hday := m.day_le_monthLength
  have hd := m.day_range
  have hm : m.month = (5 * m.day + 2) / 153 := rfl
  rw [ofDays_number]
  simp only [Date.isValid, Bool.and_eq_true, decide_eq_true_eq]
  refine ⟨⟨⟨?_, ?_⟩, ?_⟩, hday⟩
  · split <;> omega
  · split <;> omega
  · omega

/-- Days are counted by years that begin in March, whatever the month. -/
theorem toDays_march {k y : Int} {month day : Nat} (hk : 0 ≤ k ∧ k ≤ 11)
    (hm : (month : Int) = if k < 10 then k + 3 else k - 9) :
    (Date.mk (y + if k < 10 then 0 else 1) month day).toDays =
      y / 400 * 146097 + ((y - y / 400 * 400) * 365 + (y - y / 400 * 400) / 4 - (y - y / 400 * 400) / 100 +
        ((153 * k + 2) / 5 + day - 1)) - 719468 := by
  have hmarch : ¬ month ≤ 2 ↔ k < 10 := by
    split at hm <;> omega
  rw [Date.toDays]
  by_cases h : k < 10
  · rw [if_pos h] at hm ⊢
    rw [if_neg (hmarch.2 h), if_neg (hmarch.2 h), Int.add_zero, hm, Int.add_neg_cancel_right]
  · rw [if_neg h] at hm ⊢
    have hle := Classical.not_not.1 (mt hmarch.1 h)
    rw [if_pos hle, if_pos hle, Int.add_sub_cancel, hm, Int.sub_add_cancel]

theorem toDays_date : (Date.ofDays (m.number - 719468)).toDays = m.number - 719468 := by
  have hmonth := m.month_range
  have hday : ((m.day - (153 * m.month + 2) / 5 + 1).toNat : Int) = m.day - (153 * m.month + 2) / 5 + 1 := by
    have hm : m.month = (5 * m.day + 2) / 153 := rfl
    have hd := m.day_range
    omega
  have hyear := m.yearOfCycle_range
  have hcycle : (m.yearOfCycle + m.cycle * 400) / 400 = m.cycle := by omega
  have hplace := m.day_eq
  rw [ofDays_number, civilYear, toDays_march hmonth (Int.toNat_of_nonneg (by split <;> omega)), hcycle, hday,
    Int.add_sub_cancel, number]
  omega

end MarchDay

namespace Date

theorem exists_marchDay (n : Int) : ∃ m : MarchDay, n = m.number - 719468 := by
  obtain ⟨m, hm⟩ := MarchDay.exists_number (n + 719468)
  exact ⟨m, by omega⟩

theorem isValid_ofDays (n : Int) : (ofDays n).isValid = true := by
  obtain ⟨m, rfl⟩ := exists_marchDay n
  exact m.isValid_date

theorem toDays_ofDays (n : Int) : (ofDays n).toDays = n := by
  obtain ⟨m, rfl⟩ := exists_marchDay n
  exact m.toDays_date

theorem weekday_lt (d : Date) : d.weekday < 7 := by
  rw [weekday]
  omega

/-- The days of the years before 10000 end in the 25th cycle. -/
theorem lt_of_year_le {n : Int} (h : (ofDays n).year ≤ 9999) : n < 25 * 146097 - 719468 := by
  obtain ⟨m, rfl⟩ := exists_marchDay n
  have hyear : m.civilYear ≤ 9999 := by
    rwa [MarchDay.ofDays_number] at h
  have hofCycle := m.yearOfCycle_range
  have hcycle : m.cycle ≤ 24 := by
    rw [MarchDay.civilYear] at hyear
    split at hyear <;> omega
  have hday := m.dayOfCycle_range
  rw [MarchDay.number]
  omega

end Date

/-! ### Readings -/

namespace Reading
variable {t : Instant}

/-- Second 60 shows a leap second, and no other. -/
theorem second_ofInstant (hleap : 1000000000 ≤ t.nanos → t.seconds % 60 = 59) :
    (ofInstant t).second = 60 ∧ 1000000000 ≤ t.nanos ∨
      (ofInstant t).second = (t.seconds % 60).toNat ∧ t.nanos < 1000000000 := by
  have hsecond : (ofInstant t).second =
      (t.seconds % 86400).toNat % 60 + if 1000000000 ≤ t.nanos then 1 else 0 := rfl
  rw [hsecond]
  by_cases h : 1000000000 ≤ t.nanos
  · have hlast := hleap h
    rw [if_pos h]
    omega
  · rw [if_neg h]
    omega

theorem isValid_ofInstant (hleap : 1000000000 ≤ t.nanos → t.seconds % 60 = 59) : (ofInstant t).isValid = true := by
  have hdate : (ofInstant t).date.isValid = true := Date.isValid_ofDays _
  have hhour : (ofInstant t).hour = (t.seconds % 86400).toNat / 3600 := rfl
  have hminute : (ofInstant t).minute = (t.seconds % 86400).toNat / 60 % 60 := rfl
  have hsecond := second_ofInstant hleap
  simp only [isValid, hdate, Bool.true_and, Bool.and_eq_true, decide_eq_true_eq]
  omega

theorem toInstant?_of_seconds {r : Reading} {s : Int} (hvalid : r.isValid = true) (hyear : r.date.year ≤ 262142)
    (hs : r.date.toDays * 86400 + r.hour * 3600 + r.minute * 60 + (if r.second = 60 then 59 else r.second : Nat) = s)
    (hlast : s ≤ lastSecond) :
    r.toInstant? 0 = some ⟨s, if r.second = 60 then r.nanos + 1000000000 else r.nanos⟩ := by
  subst hs
  rw [toInstant?, if_pos (Bool.and_eq_true_iff.2 ⟨hvalid, decide_eq_true hyear⟩)]
  simp only [Int.zero_mul, Int.sub_zero]
  exact if_pos hlast

/-- In Greenwich a clock's reading leads back to the instant, with the parts of a second that are told. -/
theorem toInstant?_ofInstant (hleap : 1000000000 ≤ t.nanos → t.seconds % 60 = 59)
    (hyear : (ofInstant t).date.year ≤ 9999) (nanos : Nat) :
    (mk (ofInstant t).date (ofInstant t).hour (ofInstant t).minute (ofInstant t).second nanos).toInstant? 0 =
      some ⟨t.seconds, if t.nanos < 1000000000 then nanos else nanos + 1000000000⟩ := by
  have hdays : (ofInstant t).date.toDays = t.seconds / 86400 := Date.toDays_ofDays _
  have hhour : (ofInstant t).hour = (t.seconds % 86400).toNat / 3600 := rfl
  have hminute : (ofInstant t).minute = (t.seconds % 86400).toNat / 60 % 60 := rfl
  have hsecond := second_ofInstant hleap
  have hlast : t.seconds ≤ lastSecond := by
    have hlt : t.seconds / 86400 < 25 * 146097 - 719468 := Date.lt_of_year_le hyear
    rw [show lastSecond = 8210266876799 by decide]
    omega
  refine (toInstant?_of_seconds ?valid ?year ?seconds hlast).trans ?nanos
  case valid => exact isValid_ofInstant hleap
  case year => exact Int.le_trans hyear (by decide)
  case seconds =>
    dsimp only
    rw [hdays, hhour, hminute]
    rcases hsecond with ⟨hs, hn⟩ | ⟨hs, _⟩
    · have hend := hleap hn
      rw [if_pos hs]
      omega
    · rw [if_neg (by omega), hs]
      omega
  case nanos =>
    dsimp only
    rcases hsecond with ⟨hs, hn⟩ | ⟨hs, hn⟩
    · rw [if_pos hs, if_neg (Nat.not_lt.2 hn)]
    · rw [if_neg (by omega), if_pos hn]

end Reading

end Callsign.Time
