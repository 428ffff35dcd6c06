import Mathlib.Data.List.Basic
import Mathlib.Data.List.TakeWhile
import ReminderScan.Calendar.Timestamp
import ReminderScan.Proofs.Calendar.Clock
import ReminderScan.Proofs.Number.Digits
import ReminderScan.Proofs.Tag.Grammar
import ReminderScan.Proofs.Text.Strip

/-! A day and a time that tags write in ASCII stand in the same characters in the point in time that
they name together. -/

namespace ReminderScan.Calendar

open Text Number

/-- A day in writing, from its year, its month and its day of the month. -/
def dayText (year month day : List Char) : List Char := year ++ '-' :: (month ++ '-' :: day)

theorem isDay_iff {text : List Char} : Tag.IsDay isAsciiDigit text ↔
    ∃ year month day, text = dayText year month day ∧ IsRow 4 year ∧ IsRow 2 month ∧ IsRow 2 day :=
  Iff.rfl

namespace Date

theorem isMark_of_isOneToNine {c : Char} (h : isOneToNine c = true) : IsMark c := by
  rw [isOneToNine, Bool.and_eq_true] at h
  exact Or.inl (isDecimalDigit_of_isAsciiDigit h.1)

theorem takesBetween_isMonth : TakesBetween 1 12 isMonth isOneToNine where
  pair := by
    intro a b h
    simp only [isMonth, Bool.or_eq_true, Bool.and_eq_true, decide_eq_true_eq] at h
    rcases h with ⟨rfl, (rfl | rfl) | rfl⟩ | ⟨rfl, hb⟩
    · decide
    · decide
    · decide
    · exact ⟨Or.inl rfl, isMark_of_isOneToNine hb⟩
  single := fun a => isMark_of_isOneToNine
  between := by
    intro a b ha hb
    rw [digitsValue_pair ha hb, isMonth, isOneToNine, hb]
    simp only [isAsciiDigit, Bool.and_eq_true, Bool.or_eq_true, decide_eq_true_eq, Bool.true_and,
      ← Char.toNat_inj, ne_eq] at ha hb ⊢
    change a.toNat = 49 ∧ ((b.toNat = 48 ∨ b.toNat = 49) ∨ b.toNat = 50) ∨
      a.toNat = 48 ∧ ¬b.toNat = 48 ↔ _
    omega

theorem takesBetween_isDayOfMonth : TakesBetween 1 31 isDayOfMonth isOneToNine where
  pair := by
    intro a b h
    simp only [isDayOfMonth, Bool.or_eq_true, Bool.and_eq_true, decide_eq_true_eq] at h
    rcases h with (⟨rfl, rfl | rfl⟩ | ⟨rfl | rfl, hb⟩) | ⟨rfl | rfl, hb⟩
    · decide
    · decide
    · exact ⟨Or.inl rfl, Or.inl hb⟩
    · exact ⟨Or.inl rfl, Or.inl hb⟩
    · exact ⟨Or.inl rfl, isMark_of_isOneToNine hb⟩
    · exact ⟨Or.inr rfl, isMark_of_isOneToNine hb⟩
  single := fun a => isMark_of_isOneToNine
  between := by
    intro a b ha hb
    rw [digitsValue_pair ha hb, isDayOfMonth, isOneToNine, hb, isDecimalDigit_of_isAsciiDigit hb]
    simp only [isAsciiDigit, Bool.and_eq_true, Bool.or_eq_true, decide_eq_true_eq, Bool.true_and,
      Bool.and_true, ← Char.toNat_inj, ne_eq] at ha hb ⊢
    change (a.toNat = 51 ∧ (b.toNat = 48 ∨ b.toNat = 49) ∨ (a.toNat = 49 ∨ a.toNat = 50)) ∨
      (a.toNat = 48 ∨ a.toNat = 32) ∧ ¬b.toNat = 48 ↔ _
    omega

theorem readYear?_row {year : List Char} (hy : IsRow 4 year) :
    readYear? year = some (digitsValue year, []) := by
  have hdigits : (year.length = 4 && year.all isDecimalDigit) = true := by
    simp only [hy.1, decide_true, Bool.true_and, List.all_eq_true]
    exact fun c hc => isDecimalDigit_of_isAsciiDigit (hy.2 c hc)
  simp only [readYear?, List.take_of_length_le hy.1.le, List.drop_of_length_le hy.1.le,
    if_pos hdigits]

theorem stopsAt_readYear? {c : Char} (hc : isDecimalDigit c = false) :
    Reader.StopsAt c readYear? := by
  intro text rest
  simp only [readYear?]
  by_cases hlength : 4 ≤ text.length
  · rw [List.take_append_of_le_length hlength, List.drop_append_of_le_length hlength]
    split
    · rfl
    · rfl
  · have hmem : c ∈ (text ++ c :: rest).take 4 := by
      obtain ⟨n, hn⟩ := Nat.exists_eq_add_of_lt (Nat.lt_of_not_le hlength)
      rw [List.take_append, hn, Nat.add_assoc, Nat.add_sub_cancel_left, List.take_succ_cons]
      exact List.mem_append_right _ List.mem_cons_self
    have hall : ((text ++ c :: rest).take 4).all isDecimalDigit = false :=
      List.all_eq_false.2 ⟨c, hmem, Bool.eq_false_iff.1 hc⟩
    simp [hall, hlength]

theorem stopsAt_numbers {c : Char} (hc : ¬IsMark c) (hhyphen : c ≠ '-') :
    Reader.StopsAt c numbers := by
  have hdigit : isDecimalDigit c = false := Bool.eq_false_iff.2 fun h => hc (Or.inl h)
  apply (stopsAt_readYear? hdigit).around _ hhyphen
  exact (takesBetween_isMonth.stopsAt hc).around (takesBetween_isDayOfMonth.stopsAt hc) hhyphen

theorem daysInMonth_le (year month : Nat) : daysInMonth year month ≤ 31 := by
  fun_cases daysInMonth year month
  all_goals simp

/-- A day that is written in ASCII digits is the one with these numbers, if there is one. -/
theorem ofText?_dayText {year month day : List Char} (hy : IsRow 4 year) (hm : IsRow 2 month)
    (hd : IsRow 2 day) : ofText? (dayText year month day) =
      of? (digitsValue year) (digitsValue month) (digitsValue day) := by
  have hhyphen : ¬IsMark '-' := by decide
  rw [ofText?, dayText, numbers, Reader.whole_around_append (stopsAt_readYear? (by decide)),
    Reader.whole_eq_some_iff.2 (readYear?_row hy), readMonth?,
    takesBetween_isMonth.whole_around_row hhyphen hm, readDay?,
      takesBetween_isDayOfMonth.whole_row hd]
  · by_cases hmonth : 1 ≤ digitsValue month ∧ digitsValue month ≤ 12
    · by_cases hday : 1 ≤ digitsValue day ∧ digitsValue day ≤ 31
      · rw [if_pos hmonth, if_pos hday]
        rfl
      · rw [if_pos hmonth, if_neg hday]
        symm
        apply dif_neg
        rintro ⟨-, -, -, -, hfirst, hlast⟩
        exact hday ⟨hfirst, hlast.trans (daysInMonth_le _ _)⟩
    · rw [if_neg hmonth]
      symm
      apply dif_neg
      rintro ⟨-, -, hfirst, hlast, -⟩
      exact hmonth ⟨hfirst, hlast⟩
  · intro v left hread
    rw [readYear?_row hy] at hread
    cases hread

theorem of?_eq_some_iff {year month day : Nat} {d : Date} :
    of? year month day = some d ↔ d.year = year ∧ d.month = month ∧ d.day = day := by
  rw [of?]
  constructor
  · intro h
    split at h
    · obtain rfl := Option.some.inj h
      exact ⟨rfl, rfl, rfl⟩
    · cases h
  · rintro ⟨rfl, rfl, rfl⟩
    exact dif_pos d.isDay

theorem text_of_ofText? {text : List Char} (htext : Tag.IsDay isAsciiDigit text) {d : Date}
    (hd : ofText? text = some d) : d.text = String.ofList text := by
  obtain ⟨year, month, day, rfl, hyear, hmonth, hday⟩ := isDay_iff.1 htext
  rw [ofText?_dayText hyear hmonth hday] at hd
  obtain ⟨hy, hm, hd⟩ := of?_eq_some_iff.1 hd
  rw [Date.text, hy, hm, hd, hyear.padded_eq, hmonth.padded_eq, hday.padded_eq, dayText,
    List.append_assoc, List.cons_append]

/-- A written day without the zeros at its start is the day with the year as short as it can be. -/
theorem dropWhile_zeros {text : List Char} (htext : Tag.IsDay isAsciiDigit text) {d : Date}
    (hd : ofText? text = some d) : text.dropWhile (· = '0') =
      padded 0 d.year ++ '-' :: padded 2 d.month ++ '-' :: padded 2 d.day := by
  obtain ⟨year, month, day, rfl, hyear, hmonth, hday⟩ := isDay_iff.1 htext
  rw [ofText?_dayText hyear hmonth hday] at hd
  obtain ⟨hy, hm, hd⟩ := of?_eq_some_iff.1 hd
  have hpos : 0 < digitsValue year := hy ▸ d.isDay.1
  have hshort : year.dropWhile (· = '0') = padded 0 d.year := by
    rw [← toDigits_digitsValue hyear.2 hpos, hy, padded, Nat.zero_sub]
    rfl
  have hne : (year.dropWhile (· = '0')).isEmpty = false := by
    rw [hshort]
    exact List.isEmpty_eq_false_iff.2 (padded_ne_nil 0 d.year)
  rw [hm, hd, hmonth.padded_eq, hday.padded_eq, dayText, List.dropWhile_append, hne, hshort]
  simp

/-- The text of a day names that day. -/
theorem ofText?_text (d : Date) : ofText? d.text.toList = some d := by
  obtain ⟨-, hyear, -, hmonth, -, hday⟩ := d.isDay
  have hlast := hday.trans (daysInMonth_le _ _)
  have hrow : IsRow 4 (padded 4 d.year) := isRow_padded (by decide) (by omega)
  have hrow' : IsRow 2 (padded 2 d.month) := isRow_padded (by decide) (by omega)
  have hrow'' : IsRow 2 (padded 2 d.day) := isRow_padded (by decide) (by omega)
  rw [text, String.toList_ofList]
  have hread := ofText?_dayText hrow hrow' hrow''
  rw [digitsValue_padded, digitsValue_padded, digitsValue_padded] at hread
  rw [← of?_eq_some_iff.2 ⟨rfl, rfl, rfl⟩, ← hread, dayText, List.append_assoc, List.cons_append]

theorem exists_text_iff {day : List Char} (hday : Tag.IsDay isAsciiDigit day) :
    (∃ date : Date, date.text = String.ofList day) ↔ (ofText? day).isSome = true := by
  rw [Option.isSome_iff_exists]
  constructor
  · rintro ⟨date, htext⟩
    have hread := ofText?_text date
    rw [htext, String.toList_ofList] at hread
    exact ⟨date, hread⟩
  · rintro ⟨date, hread⟩
    exact ⟨date, text_of_ofText? hday hread⟩

theorem text_injective {d other : Date} (h : d.text = other.text) : d = other := by
  have hread := ofText?_text d
  rw [h, ofText?_text] at hread
  exact (Option.some.inj hread).symm

theorem mem_written {text : List Char} (htext : Tag.IsDay isAsciiDigit text) :
    ∀ c ∈ text, isAsciiDigit c = true ∨ c = '-' := by
  obtain ⟨year, month, day, rfl, ⟨-, hyear⟩, ⟨-, hmonth⟩, ⟨-, hday⟩⟩ := htext
  intro c hc
  simp only [List.mem_append, List.mem_cons] at hc
  rcases hc with hc | rfl | hc | rfl | hc
  · exact Or.inl (hyear c hc)
  · exact Or.inr rfl
  · exact Or.inl (hmonth c hc)
  · exact Or.inr rfl
  · exact Or.inl (hday c hc)

/-- A user who names a day as tags do means the same day. -/
theorem ofUserText?_of_isDay {text : String} (htext : Tag.IsDay isAsciiDigit text.toList) :
    ofUserText? text = ofText? text.toList := by
  have hmem := mem_written htext
  have hcut : text.toList.takeWhile (· ≠ 'T') = text.toList := by
    rw [List.takeWhile_eq_self_iff]
    intro c hc
    rcases hmem c hc with hdigit | rfl
    · refine decide_eq_true ?_
      rintro rfl
      cases hdigit
    · decide
  have hblank : ∀ c ∈ text.toList, isBlank c = false := by
    intro c hc
    rcases hmem c hc with hdigit | rfl
    · exact Tag.digits_isAsciiDigit.not_blank c hdigit
    · decide
  have htrim : trim text.toList = text.toList :=
    stripBoth_of_bare ⟨fun c hc => hblank c (List.mem_of_mem_head? hc),
      fun c hc => hblank c (List.mem_of_mem_getLast? hc)⟩
  rw [ofUserText?, hcut, htrim]

end Date

namespace Timestamp

/-- Of a day and a time with `T` between the day is read as if nothing were behind it. -/
theorem whole_numbers (day : List Char) {hour minute : List Char} (hh : IsRow 2 hour)
    (hm : IsRow 2 minute) :
    numbers.whole (day ++ 'T' :: (hour ++ ':' :: minute ++ [':', '0', '0'])) =
      (Date.numbers.whole day).bind fun date =>
        (readClock? (hour ++ ':' :: minute)).map fun (h, m) => (date, h, m, 0) := by
  have hmark : ¬IsMark 'T' := by decide
  have hdate : Reader.StopsAt 'T' Date.numbers := Date.stopsAt_numbers hmark (by decide)
  have htime : Reader.StopsAt 'T' hourMinuteSecond := by
    apply (takesBetween_isHour.stopsAt hmark).around _ (by decide)
    exact (takesBetween_isMinute.stopsAt hmark).around
      (takesBetween_isSecond.stopsAt hmark) (by decide)
  rw [numbers, Reader.whole_around_append hdate fun _ left _ => htime.whole_append left _,
    whole_hourMinuteSecond hh hm]
  simp only [Option.map_map]
  rfl

/-- The hour and the minute can be read first, and the day for itself. -/
theorem ofDateAndTime?_eq (day time : List Char) : ofDateAndTime? day time =
    (readClock? time).bind fun (hour, minute) =>
      (Date.ofText? day).bind fun date => of? date hour minute 0 0 := by
  rw [ofDateAndTime?]
  by_cases hpattern : clockPattern.matchesTo List.isEmpty time = true
  · obtain ⟨hour, minute, rest, hh, hm, rfl, hends⟩ := matchesTo_clockPattern.1 hpattern
    obtain rfl := List.isEmpty_iff.1 hends
    rw [if_pos hpattern, List.append_nil, ofText?, whole_numbers day hh hm, Date.ofText?]
    cases Date.numbers.whole day with
    | none =>
      cases readClock? (hour ++ ':' :: minute) with
      | none => rfl
      | some shown => rfl
    | some date =>
      cases readClock? (hour ++ ':' :: minute) with
      | none => rfl
      | some shown => rfl
  · rw [if_neg hpattern]
    cases hclock : readClock? time with
    | none => rfl
    | some shown =>
      obtain ⟨h, m, hh, hm, rfl, -⟩ := readClock?_eq_some_iff.1 hclock
      exact absurd (matchesTo_clockPattern.2
        ⟨h, m, [], hh, hm, (List.append_nil _).symm, rfl⟩) hpattern

theorem ofDateAndTime?_eq_some_iff {day time : List Char} {t : Timestamp} :
    ofDateAndTime? day time = some t ↔
      readClock? time = some (t.hour, t.minute) ∧ Date.ofText? day = some t.date ∧
        t.second = 0 ∧ t.microsecond = 0 := by
  rw [ofDateAndTime?_eq, Option.bind_eq_some_iff]
  constructor
  · rintro ⟨⟨hour, minute⟩, hclock, h⟩
    obtain ⟨date, hdate, h⟩ := Option.bind_eq_some_iff.1 h
    rw [of?] at h
    split at h
    · obtain rfl := Option.some.inj h
      exact ⟨hclock, hdate, rfl, rfl⟩
    · cases h
  · obtain ⟨date, hour, minute, second, microsecond, htime⟩ := t
    rintro ⟨hclock, hdate, rfl, rfl⟩
    exact ⟨_, hclock, Option.bind_eq_some_iff.2 ⟨_, hdate, dif_pos htime⟩⟩

/-- A day is there exactly when it is there together with any time that a clock shows. -/
theorem date_ofDateAndTime? (day : List Char) {hour minute : List Char} (hh : IsRow 2 hour)
    (hm : IsRow 2 minute) (hhour : digitsValue hour ≤ 23) (hminute : digitsValue minute ≤ 59) :
    (ofDateAndTime? day (hour ++ ':' :: minute)).map Timestamp.date = Date.ofText? day := by
  have hclock := readClock?_eq_some_iff.2 ⟨hour, minute, hh, hm, rfl, rfl, rfl, by omega, by omega⟩
  apply Option.ext
  intro d
  rw [Option.map_eq_some_iff]
  constructor
  · rintro ⟨t, ht, rfl⟩
    exact (ofDateAndTime?_eq_some_iff.1 ht).2.1
  · intro hd
    refine ⟨⟨d, digitsValue hour, digitsValue minute, 0, 0, by omega, by omega, by omega, by omega⟩,
      ?_, rfl⟩
    exact ofDateAndTime?_eq_some_iff.2 ⟨hclock, hd, rfl, rfl⟩

/-- With a time that a clock shows, a point in time is there if the day is. -/
theorem isSome_ofDateAndTime? {time : List Char} (hclock : (readClock? time).isSome = true)
    (day : List Char) : (ofDateAndTime? day time).isSome = (Date.ofText? day).isSome := by
  obtain ⟨⟨_, _⟩, hread⟩ := Option.isSome_iff_exists.1 hclock
  obtain ⟨hour, minute, hh, hm, rfl, rfl, rfl, hhour, hminute⟩ := readClock?_eq_some_iff.1 hread
  rw [← date_ofDateAndTime? day hh hm (by omega) (by omega), Option.isSome_map]

/-- The times that go with every day are those that a clock shows. -/
theorem forall_date_iff (time : List Char) :
    (∀ date : Date, ∃ t, ofDateAndTime? date.text.toList time = some t) ↔
      (readClock? time).isSome = true := by
  constructor
  · intro hall
    obtain ⟨t, ht⟩ := hall ⟨1, 1, 1, by decide⟩
    obtain ⟨hclock, -⟩ := ofDateAndTime?_eq_some_iff.1 ht
    exact Option.isSome_of_eq_some hclock
  · intro hclock date
    apply Option.isSome_iff_exists.1
    rw [isSome_ofDateAndTime? hclock, Date.ofText?_text]
    rfl

theorem clock_of_written {day time : List Char} {t : Timestamp}
    (ht : ofDateAndTime? day time = some t) :
    t.clock = String.ofList time := by
  obtain ⟨hclock, -, -, -⟩ := ofDateAndTime?_eq_some_iff.1 ht
  rw [eq_padded_of_readClock? hclock, clock]

theorem fullClock_of_written {day time : List Char} {t : Timestamp}
    (ht : ofDateAndTime? day time = some t) : t.fullClock = String.ofList time ++ ":00" := by
  obtain ⟨-, -, hsecond, -⟩ := ofDateAndTime?_eq_some_iff.1 ht
  have hzeros : padded 2 0 = ['0', '0'] := rfl
  rw [fullClock, clock_of_written ht, hsecond, hzeros]

/-- The point in time that a day and a time name together is written with the same characters. -/
theorem iso_of_written {day time : List Char} (hday : Tag.IsDay isAsciiDigit day) {t : Timestamp}
    (ht : ofDateAndTime? day time = some t) :
    t.iso = String.ofList day ++ "T" ++ String.ofList time ++ ":00" := by
  obtain ⟨-, hdate, -, hmicro⟩ := ofDateAndTime?_eq_some_iff.1 ht
  rw [iso, fullClock_of_written ht, Date.text_of_ofText? hday hdate, if_pos hmicro,
    String.append_empty, String.append_assoc, String.append_assoc, String.append_assoc]

/-- In a listing the zeros at the start of the year are left out. -/
theorem listing_of_written {day time : List Char} (hday : Tag.IsDay isAsciiDigit day)
    {t : Timestamp} (ht : ofDateAndTime? day time = some t) :
    t.listing = String.ofList (day.dropWhile (· = '0')) ++ " " ++ String.ofList time ++ ":00" := by
  obtain ⟨-, hdate, -, -⟩ := ofDateAndTime?_eq_some_iff.1 ht
  have hshort := Date.dropWhile_zeros hday hdate
  rw [listing, fullClock_of_written ht, hshort]
  simp [String.append_assoc]

end Timestamp
end ReminderScan.Calendar
