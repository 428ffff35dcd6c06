import Mathlib.Data.String.Basic
import Mathlib.Tactic.IntervalCases
import ReminderScan.Proofs.Calendar.Written
import ReminderScan.Reminder

/-! A day and a time in ASCII name a point in time exactly when the calendar has that day and a
clock shows that time. Points in time stand in the order of their texts, so what is due can be told
from the texts alone. -/

namespace ReminderScan.Calendar

open Text Number

def monthLength (year month : Nat) : Nat :=
  if month = 2 then if 4 ∣ year ∧ ¬ 100 ∣ year ∨ 400 ∣ year then 29 else 28
  else if month = 4 ∨ month = 6 ∨ month = 9 ∨ month = 11 then 30
  else 31

theorem isLeapYear_iff (year : Nat) :
    isLeapYear year = true ↔ 4 ∣ year ∧ ¬ 100 ∣ year ∨ 400 ∣ year := by
  simp only [isLeapYear, Bool.and_eq_true, Bool.or_eq_true, decide_eq_true_eq, ne_eq]
  omega

theorem daysInMonth_eq {year month : Nat} (hfirst : 1 ≤ month) (hlast : month ≤ 12) :
    daysInMonth year month = monthLength year month := by
  interval_cases month
  all_goals simp [daysInMonth, monthLength, isLeapYear_iff]

theorem isDay_iff_monthLength {year month day : Nat} (hyear : year ≤ 9999) :
    IsDay year month day ↔
      1 ≤ year ∧ (1 ≤ month ∧ month ≤ 12) ∧ 1 ≤ day ∧ day ≤ monthLength year month := by
  constructor
  · rintro ⟨hfirst, -, hmonth, hmonth', hday, hday'⟩
    rw [daysInMonth_eq hmonth hmonth'] at hday'
    exact ⟨hfirst, ⟨hmonth, hmonth'⟩, hday, hday'⟩
  · rintro ⟨hfirst, ⟨hmonth, hmonth'⟩, hday, hday'⟩
    rw [← daysInMonth_eq hmonth hmonth'] at hday'
    exact ⟨hfirst, hyear, hmonth, hmonth', hday, hday'⟩

/-- Texts whose first parts have one length are compared by these first. -/
theorem append_lt_append_iff {a b c d : List Char} (hlength : a.length = c.length) :
    a ++ b < c ++ d ↔ a < c ∨ a = c ∧ b < d := by
  induction a generalizing c with
  | nil =>
    obtain rfl := List.length_eq_zero_iff.1 hlength.symm
    simp
  | cons x a ih =>
    cases c with
    | nil => cases hlength
    | cons y c =>
      rw [List.cons_append, List.cons_append, List.cons_lt_cons_iff, List.cons_lt_cons_iff,
        ih (Nat.succ.inj hlength), List.cons.injEq]
      tauto

theorem padded_append_lt_iff {width n m : Nat} {b d : List Char} (hw : 0 < width)
    (hn : n < 10 ^ width) (hm : m < 10 ^ width) :
    padded width n ++ b < padded width m ++ d ↔ n < m ∨ n = m ∧ b < d := by
  have heq : padded width n = padded width m ↔ n = m := ⟨padded_injective, congrArg _⟩
  rw [append_lt_append_iff ((length_padded hw hn).trans (length_padded hw hm).symm),
    padded_lt_padded_iff hw hn hm, heq]

namespace Timestamp

/-- The day and the time of day, to the minute, without a mark between. -/
def minuteText (t : Timestamp) : String := t.date.text ++ t.clock

theorem toList_minuteText (t : Timestamp) : t.minuteText.toList =
    padded 4 t.date.year ++ '-' :: (padded 2 t.date.month ++ '-' :: (padded 2 t.date.day ++
      (padded 2 t.hour ++ ':' :: (padded 2 t.minute ++ [])))) := by
  simp [minuteText, Date.text, clock]

theorem minuteText_lt_iff (t u : Timestamp) : t.minuteText < u.minuteText ↔
    t.date.year < u.date.year ∨ t.date.year = u.date.year ∧
      (t.date.month < u.date.month ∨ t.date.month = u.date.month ∧
        (t.date.day < u.date.day ∨ t.date.day = u.date.day ∧
          (t.hour < u.hour ∨ t.hour = u.hour ∧ t.minute < u.minute))) := by
  obtain ⟨-, hyear, -, hmonth, -, hday⟩ := t.date.isDay
  obtain ⟨-, hyear', -, hmonth', -, hday'⟩ := u.date.isDay
  have hlast := hday.trans (Date.daysInMonth_le _ _)
  have hlast' := hday'.trans (Date.daysInMonth_le _ _)
  obtain ⟨hhour, hminute, -, -⟩ := t.isTime
  obtain ⟨hhour', hminute', -, -⟩ := u.isTime
  -- Every part has a width of its own, so the texts are compared part by part.
  have hirrefl : Std.Irrefl (fun x y : Char => x < y) := ⟨Char.lt_irrefl⟩
  rw [String.lt_iff_toList_lt, toList_minuteText, toList_minuteText,
    padded_append_lt_iff (by decide) (by omega) (by omega), List.cons_lt_cons_self,
    padded_append_lt_iff Nat.two_pos (by omega) (by omega), List.cons_lt_cons_self,
    padded_append_lt_iff Nat.two_pos (by omega) (by omega),
    padded_append_lt_iff Nat.two_pos (by omega) (by omega), List.cons_lt_cons_self,
    padded_append_lt_iff Nat.two_pos (by omega) (by omega)]
  simp

/-- A full minute is reached when its text is. -/
theorem le_iff_minuteText_le {t : Timestamp} (hsecond : t.second = 0) (hmicro : t.microsecond = 0)
    (u : Timestamp) : t ≤ u ↔ t.minuteText ≤ u.minuteText := by
  rw [← String.not_lt, minuteText_lt_iff]
  obtain ⟨-, -, -, hmonth, -, hday⟩ := t.date.isDay
  obtain ⟨-, -, -, hmonth', -, hday'⟩ := u.date.isDay
  have hlast := hday.trans (Date.daysInMonth_le _ _)
  have hlast' := hday'.trans (Date.daysInMonth_le _ _)
  obtain ⟨hhour, hminute, -, -⟩ := t.isTime
  obtain ⟨hhour', hminute', hsecond', hmicro'⟩ := u.isTime
  -- With these bounds the rank is a number whose places are the parts.
  change t.rank ≤ u.rank ↔ _
  simp only [rank, Date.rank, hsecond, hmicro]
  omega

theorem minuteText_of_written {day time : List Char} (hday : Tag.IsDay isAsciiDigit day)
    {t : Timestamp}
    (ht : ofDateAndTime? day time = some t) : t.minuteText = String.ofList (day ++ time) := by
  obtain ⟨-, hdate, -, -⟩ := ofDateAndTime?_eq_some_iff.1 ht
  rw [minuteText, clock_of_written ht, Date.text_of_ofText? hday hdate, ← String.ofList_append]

theorem le_iff_written_le {day time : List Char} (hday : Tag.IsDay isAsciiDigit day) {t : Timestamp}
    (ht : ofDateAndTime? day time = some t) (u : Timestamp) :
    t ≤ u ↔ String.ofList (day ++ time) ≤ u.minuteText := by
  obtain ⟨-, -, hsecond, hmicro⟩ := ofDateAndTime?_eq_some_iff.1 ht
  rw [le_iff_minuteText_le hsecond hmicro, minuteText_of_written hday ht]

section Written

variable {year month day : List Char} (hyear : IsRow 4 year) (hmonth : IsRow 2 month)
  (hday : IsRow 2 day)
include hyear hmonth hday

theorem exists_ofDateAndTime?_iff (time : List Char) :
    (∃ t, ofDateAndTime? (dayText year month day) time = some t) ↔
      (∃ hour minute, IsRow 2 hour ∧ IsRow 2 minute ∧ time = hour ++ ':' :: minute ∧
        digitsValue hour ≤ 23 ∧ digitsValue minute ≤ 59) ∧
      1 ≤ digitsValue year ∧ (1 ≤ digitsValue month ∧ digitsValue month ≤ 12) ∧
      1 ≤ digitsValue day ∧ digitsValue day ≤
        monthLength (digitsValue year) (digitsValue month) := by
  have hlast : digitsValue year ≤ 9999 := by
    have hlt := digitsValue_lt hyear.2
    rw [hyear.1] at hlt
    omega
  rw [← isDay_iff_monthLength hlast]
  constructor
  · rintro ⟨t, ht⟩
    obtain ⟨hclock, hdate, -, -⟩ := ofDateAndTime?_eq_some_iff.1 ht
    obtain ⟨h, m, hh, hm, htime, hhour, hminute, hhour', hminute'⟩ :=
      readClock?_eq_some_iff.1 hclock
    refine ⟨⟨h, m, hh, hm, htime, by omega, by omega⟩, ?_⟩
    rw [Date.ofText?_dayText hyear hmonth hday] at hdate
    obtain ⟨hy, hm, hd⟩ := Date.of?_eq_some_iff.1 hdate
    rw [← hy, ← hm, ← hd]
    exact t.date.isDay
  · rintro ⟨⟨h, m, hh, hm, htime, hhour, hminute⟩, hisDay⟩
    have hclock := readClock?_eq_some_iff.2 ⟨h, m, hh, hm, htime, rfl, rfl, by omega, by omega⟩
    refine ⟨⟨⟨_, _, _, hisDay⟩, digitsValue h, digitsValue m, 0,
      0, by omega, by omega, by omega, by omega⟩,
      ofDateAndTime?_eq_some_iff.2 ⟨hclock, ?_, rfl, rfl⟩⟩
    rw [Date.ofText?_dayText hyear hmonth hday]
    exact dif_pos hisDay

/-- What a written day and a written time come to. The calendar settles whether there is such a
point in time, its parts are the numbers as written, and the text tells its place among all
others. -/
theorem ofDateAndTime?_gregorian (time : List Char) :
    ((∃ t, ofDateAndTime? (dayText year month day) time = some t) ↔
      (∃ hour minute, IsRow 2 hour ∧ IsRow 2 minute ∧ time = hour ++ ':' :: minute ∧
        digitsValue hour ≤ 23 ∧ digitsValue minute ≤ 59) ∧
      1 ≤ digitsValue year ∧ (1 ≤ digitsValue month ∧ digitsValue month ≤ 12) ∧
      1 ≤ digitsValue day ∧ digitsValue day ≤ monthLength (digitsValue year) (digitsValue month)) ∧
    ∀ t, ofDateAndTime? (dayText year month day) time = some t →
      (t.date.year = digitsValue year ∧ t.date.month = digitsValue month ∧ t.date.day =
        digitsValue day ∧
        (∃ hour minute, IsRow 2 hour ∧ IsRow 2 minute ∧ time = hour ++ ':' :: minute ∧
          t.hour = digitsValue hour ∧ t.minute = digitsValue minute) ∧
        t.second = 0 ∧ t.microsecond = 0) ∧
      t.iso = String.ofList (dayText year month day) ++ "T" ++ String.ofList time ++ ":00" ∧
      (∀ day' time' t', Tag.IsDay isAsciiDigit day' → ofDateAndTime? day' time' = some t' →
        (t ≤ t' ↔ String.ofList (dayText year month day ++ time) ≤ String.ofList (day' ++ time'))) ∧
      ∀ r : Reminder, r.date = String.ofList (dayText year month day) →
        r.time = String.ofList time →
        r.scheduled = some t → ∀ now, r.isDue now = true ↔ r.date ++ r.time ≤ now.minuteText := by
  have hwritten : Tag.IsDay isAsciiDigit (dayText year month day) :=
    ⟨year, month, day, rfl, hyear, hmonth, hday⟩
  refine ⟨exists_ofDateAndTime?_iff hyear hmonth hday time,
    fun t ht => ⟨?fields, ?iso, ?order, ?due⟩⟩
  case fields =>
    obtain ⟨hclock, hdate, hsecond, hmicro⟩ := ofDateAndTime?_eq_some_iff.1 ht
    obtain ⟨h, m, hh, hm, htime, hhour, hminute, -, -⟩ := readClock?_eq_some_iff.1 hclock
    rw [Date.ofText?_dayText hyear hmonth hday, Date.of?_eq_some_iff] at hdate
    obtain ⟨hy, hm', hd⟩ := hdate
    exact ⟨hy, hm', hd, ⟨h, m, hh, hm, htime, hhour, hminute⟩, hsecond, hmicro⟩
  case iso => exact iso_of_written hwritten ht
  case order =>
    intro day' time' t' hwritten' ht'
    rw [le_iff_written_le hwritten ht, minuteText_of_written hwritten' ht']
  case due =>
    intro r hdate htime hscheduled now
    rw [hdate, htime, ← String.ofList_append, ← le_iff_written_le hwritten ht,
      Reminder.isDue, hscheduled]
    exact decide_eq_true_iff

end Written

/-- The last full century before the present one had a leap day, the one before it had none. -/
theorem ofDateAndTime?_gregorian_leapDay :
    IsRow 4 "2000".toList ∧ IsRow 4 "1900".toList ∧ IsRow 2 "02".toList ∧ IsRow 2 "29".toList ∧
    (∃ t, ofDateAndTime? (dayText "2000".toList "02".toList "29".toList) "09:05".toList = some t ∧
      t.hour = 9 ∧ t.iso = "2000-02-29T09:05:00") ∧
    ¬ ∃ t, ofDateAndTime? (dayText "1900".toList "02".toList "29".toList) "09:05".toList =
      some t := by
  have hyear : IsRow 4 "2000".toList := by decide
  have hyear' : IsRow 4 "1900".toList := by decide
  have hmonth : IsRow 2 "02".toList := by decide
  have hday : IsRow 2 "29".toList := by decide
  have htime : ∃ hour minute, IsRow 2 hour ∧ IsRow 2 minute ∧
    "09:05".toList = hour ++ ':' :: minute ∧
      digitsValue hour ≤ 23 ∧ digitsValue minute ≤ 59 :=
    ⟨['0', '9'], ['0', '5'], by decide⟩
  obtain ⟨hexists, hparts⟩ := ofDateAndTime?_gregorian hyear hmonth hday "09:05".toList
  obtain ⟨hexists', -⟩ := ofDateAndTime?_gregorian hyear' hmonth hday "09:05".toList
  refine ⟨hyear, hyear', hmonth, hday, ?_, ?_⟩
  · obtain ⟨t, ht⟩ := hexists.2 ⟨htime, by decide, by decide, by decide, by decide⟩
    obtain ⟨⟨-, -, -, ⟨h, m, hh, -, htime', hhour, -⟩, -, -⟩, hiso, -, -⟩ := hparts t ht
    refine ⟨t, ht, ?_, hiso.trans (by decide)⟩
    obtain ⟨a, b, rfl, -, -⟩ := isRow_two_iff.1 hh
    obtain ⟨rfl, hrest⟩ := List.cons.inj htime'
    obtain ⟨rfl, -⟩ := List.cons.inj hrest
    exact hhour
  · intro h
    obtain ⟨-, -, -, -, hlast⟩ := hexists'.1 h
    exact absurd hlast (by decide)

end Timestamp
end ReminderScan.Calendar
