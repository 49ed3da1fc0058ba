import Callsign.Proofs.Time.Calendar
import Callsign.Proofs.Time.Front

/-!
# Written times are read back

`written_times_read_back`: from both layouts that are sent, the time is read back to the second. Each layout is
followed from the front: what the clock shows is read as it is written, and `Reading.toInstant?_ofInstant` leads back
to the instant.
-/

namespace Callsign.Time

open Front

variable {r : Reading}

/-- What the clock shows has its place in the layouts: the year fits into four digits and the rest into two. -/
structure Reading.Fits (r : Reading) : Prop where
  year : 0 ≤ r.date.year ∧ r.date.year ≤ 9999
  month : 1 ≤ r.date.month ∧ r.date.month ≤ 12
  day : r.date.day < 100
  hour : r.hour < 100
  minute : r.minute < 100
  second : r.second < 100

theorem Reading.fits_of_isValid (hvalid : r.isValid = true) (hyear : 0 ≤ r.date.year ∧ r.date.year ≤ 9999) :
    r.Fits := by
  simp only [isValid, Date.isValid, Bool.and_eq_true, decide_eq_true_eq] at hvalid
  obtain ⟨⟨⟨⟨⟨⟨hmonth, hmonth'⟩, -⟩, hday⟩, hhour⟩, hminute⟩, hsecond⟩ := hvalid
  have hlength : r.date.day ≤ 31 := by
    refine Nat.le_trans hday ?_
    unfold Date.monthLength
    split
    · split <;> decide
    · split <;> decide
  constructor <;> omega

namespace Reading.Fits
variable (h : r.Fits)
include h

theorem yearText_eq : yearText r.date.year = digits 4 r.date.year.toNat := if_pos h.year

theorem year_lt : r.date.year.toNat < 10 ^ 4 := by
  have hyear := h.year
  omega

theorem date_eq : (⟨(r.date.year.toNat : Int), r.date.month, r.date.day⟩ : Date) = r.date := by
  rw [Int.toNat_of_nonneg h.year.1]

theorem date_eq_named : (⟨(r.date.year.toNat : Int), r.date.month - 1 + 1, r.date.day⟩ : Date) = r.date := by
  rw [Nat.sub_add_cancel h.month.1, h.date_eq]

theorem rfc3339 : Rfc3339.instant (r.dateText ++ 'T' :: r.timeText ++ ['Z']) =
    some ((Reading.mk r.date r.hour r.minute r.second 0).toInstant? 0, []) := by
  have hmonth : r.date.month < 10 ^ 2 := Nat.lt_of_le_of_lt h.month.2 (by decide)
  have hfraction : Rfc3339.fraction ['Z'] = some (0, ['Z']) := rfl
  have hzone : Rfc3339.zone ['Z'] = some (0, []) := rfl
  have hmark : ∀ rest, oneOf ['T', 't', ' '] ('T' :: rest) = some ('T', rest) := fun _ => rfl
  simp only [dateText, timeText, h.yearText_eq, List.append_assoc, List.cons_append]
  unfold Rfc3339.instant
  rw [bind_eq (numeral_digits h.year_lt _), bind_eq (char_cons _ _), bind_eq (numeral_digits hmonth _),
    bind_eq (char_cons _ _), bind_eq (numeral_digits h.day _), bind_eq (hmark _)]
  rw [bind_eq (numeral_digits h.hour _), bind_eq (char_cons _ _), bind_eq (numeral_digits h.minute _),
    bind_eq (char_cons _ _), bind_eq (numeral_digits h.second _)]
  rw [bind_eq hfraction, bind_eq hzone, h.date_eq]
  rfl

theorem rfc2822 : Rfc2822.instant (weekdayText r.date ++ [',', ' '] ++ digits 2 r.date.day ++ ' ' ::
    monthText r.date ++ ' ' :: yearText r.date.year ++ ' ' :: r.timeText ++ [' ', 'G', 'M', 'T']) =
    some ((Reading.mk r.date r.hour r.minute r.second 0).toInstant? 0, []) := by
  have hweekday : Rfc2822.Known weekdayNames r.date.weekday := Rfc2822.known_weekday _ r.date.weekday_lt
  have hmonth : Rfc2822.Known monthNames (r.date.month - 1) := by
    have hrange := h.month
    exact Rfc2822.known_month _ (by omega)
  have hcolon : ∀ rest, Inked (':' :: rest) := fun _ => (by decide : Text.blanks.mem ':' = false)
  have hzone : Rfc2822.zone ['G', 'M', 'T'] = some (0, []) := by decide
  have hcomments : Rfc2822.comments [] = some ((), []) := rfl
  have hchecked : require ((some r.date.weekday).all (· = r.date.weekday)) [] = some ((), []) :=
    if_pos (decide_eq_true rfl)
  simp only [weekdayText, monthText, timeText, h.yearText_eq, List.append_assoc, List.cons_append, List.nil_append]
  unfold Rfc2822.instant
  rw [bind_eq (blanks_of_inked (Rfc2822.inked_of_known hweekday _)), bind_eq (Rfc2822.weekday_of_known hweekday _),
    bind_eq (blanks_space (inked_digits _ _ _)), bind_eq (Rfc2822.day_digits h.day _),
    bind_eq (blank_space (Rfc2822.inked_of_known hmonth _)), bind_eq (Rfc2822.name_of_known hmonth _),
    bind_eq (blank_space (inked_digits _ _ _)), bind_eq (Rfc2822.year_digits h.year_lt _)]
  -- White space may stand around the first colon only, and there is none.
  rw [bind_eq (blank_space (inked_digits _ _ _)), bind_eq (numeral_digits h.hour _),
    bind_eq (blanks_of_inked (hcolon _)), bind_eq (char_cons _ _), bind_eq (blanks_of_inked (inked_digits _ _ _)),
    bind_eq (numeral_digits h.minute _), bind_eq (Rfc2822.second_digits h.second _)]
  rw [bind_eq (blank_space (by decide)), bind_eq hzone, bind_eq hcomments]
  -- The weekday that was read is that of the date, and so passes the check.
  rw [h.date_eq_named, bind_eq hchecked]
  rfl

end Reading.Fits

theorem parseAs_eq_ok {f : Front (Option Instant)} {cs : List Char} {t : Instant} (form : String)
    (h : f cs = some (some t, [])) : parseAs form f (String.ofList cs) = .ok t := by
  have hwhole : f.whole (String.ofList cs) = some (some t) := by
    rw [whole, String.toList_ofList, h]
  rw [parseAs, hwhole]
  rfl

/-- A time of the years 0 to 9999 is read back from both layouts to the second: a leap second as one, and parts of
a second are dropped. -/
theorem written_times_read_back {t : Instant} (hleap : 1000000000 ≤ t.nanos → t.seconds % 60 = 59)
    (hyear : 0 ≤ (Reading.ofInstant t).date.year ∧ (Reading.ofInstant t).date.year ≤ 9999) :
    parseRfc3339 (iso8601 t) = .ok ⟨t.seconds, if t.nanos < 1000000000 then 0 else 1000000000⟩ ∧
      parseRfc2822 (httpDate t) = .ok ⟨t.seconds, if t.nanos < 1000000000 then 0 else 1000000000⟩ := by
  have hfits : (Reading.ofInstant t).Fits := Reading.fits_of_isValid (Reading.isValid_ofInstant hleap) hyear
  have hback := Reading.toInstant?_ofInstant hleap hyear.2 0
  constructor
  · exact parseAs_eq_ok _ (hback ▸ hfits.rfc3339)
  · exact parseAs_eq_ok _ (hback ▸ hfits.rfc2822)

/-- The leap second at the end of the leap day of the year 0, and its last nanosecond. -/
def leapSecond : Instant := ⟨-62162035201, 1999999999⟩

theorem written_times_read_back_leapSecond :
    (iso8601 leapSecond = "0000-02-29T23:59:60Z" ∧ httpDate leapSecond = "Tue, 29 Feb 0000 23:59:60 GMT") ∧
      parseRfc3339 (iso8601 leapSecond) = .ok ⟨-62162035201, 1000000000⟩ ∧
      parseRfc2822 (httpDate leapSecond) = .ok ⟨-62162035201, 1000000000⟩ :=
  ⟨by decide, written_times_read_back (t := leapSecond) (fun _ => by decide) (by decide)⟩

end Callsign.Time
