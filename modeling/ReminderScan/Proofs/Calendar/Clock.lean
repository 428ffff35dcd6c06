import Mathlib.Data.List.Basic
import ReminderScan.Calendar.Clock
import ReminderScan.Proofs.Number.Digits
import ReminderScan.Proofs.Text.Pattern
import ReminderScan.Proofs.Text.Reader

/-! Times of day in two digits each for the hour and the minute. Settings and tags check them by one
pattern and read them by two formats; the same texts pass, and mean the same hour and minute. -/

namespace ReminderScan.Calendar

open Text Number

/-- A row of so many ASCII digits. -/
def IsRow (n : Nat) (ds : List Char) : Prop := ds.length = n ∧ ∀ c ∈ ds, isAsciiDigit c = true

instance (n : Nat) (ds : List Char) : Decidable (IsRow n ds) :=
  decidable_of_iff (ds.length = n ∧ ds.all isAsciiDigit = true) (by rw [IsRow, List.all_eq_true])

theorem isRow_two_iff {ds : List Char} : IsRow 2 ds ↔
    ∃ a b, ds = [a, b] ∧ isAsciiDigit a = true ∧ isAsciiDigit b = true := by
  constructor
  · rintro ⟨hlength, hds⟩
    obtain ⟨a, b, rfl⟩ := List.length_eq_two.1 hlength
    exact ⟨a, b, rfl, by simpa using hds⟩
  · rintro ⟨a, b, rfl, ha, hb⟩
    exact ⟨rfl, by simp [ha, hb]⟩

theorem IsRow.padded_eq {n : Nat} {ds : List Char} (h : IsRow (n + 1) ds) :
    padded (n + 1) (digitsValue ds) = ds := by
  obtain ⟨hlength, hds⟩ := h
  rw [← hlength]
  exact padded_digitsValue hds (List.ne_nil_of_length_eq_add_one hlength)

theorem isRow_padded {width n : Nat} (hw : 0 < width) (hn : n < 10 ^ width) :
    IsRow width (padded width n) :=
  ⟨length_padded hw hn, fun _ => isAsciiDigit_of_mem_padded⟩

theorem digitsValue_pair {a b : Char} (ha : isAsciiDigit a = true) (hb : isAsciiDigit b = true) :
    digitsValue [a, b] = 10 * (a.toNat - 48) + (b.toNat - 48) := by
  have hsplit := digitsValue_cons ha (List.forall_mem_singleton.2 hb)
  rw [digitsValue_singleton hb] at hsplit
  exact hsplit

/-- The hour and minute of a time written as two ASCII digits, a colon and two ASCII digits, if a
clock shows it. -/
def readClock? : List Char → Option (Nat × Nat)
  | [a, b, ':', c, d] =>
    if [a, b, c, d].all isAsciiDigit then
      let hour := digitsValue [a, b]
      let minute := digitsValue [c, d]
      if hour < 24 && minute < 60 then some (hour, minute) else none
    else none
  | _ => none

theorem readClock?_row {h m : List Char} (hh : IsRow 2 h) (hm : IsRow 2 m) :
    readClock? (h ++ ':' :: m) =
      if digitsValue h < 24 ∧ digitsValue m < 60 then some (digitsValue h, digitsValue m)
        else none := by
  obtain ⟨a, b, rfl, ha, hb⟩ := isRow_two_iff.1 hh
  obtain ⟨c, d, rfl, hc, hd⟩ := isRow_two_iff.1 hm
  simp [readClock?, ha, hb, hc, hd]

theorem readClock?_eq_some_iff {time : List Char} {hour minute : Nat} :
    readClock? time = some (hour, minute) ↔ ∃ h m, IsRow 2 h ∧ IsRow 2 m ∧ time = h ++ ':' :: m ∧
      hour = digitsValue h ∧ minute = digitsValue m ∧ hour < 24 ∧ minute < 60 := by
  constructor
  · intro h
    rw [readClock?.eq_def] at h
    split at h
    · rename_i a b c d
      split at h
      · rename_i hdigits
        obtain ⟨ha, hb, hc, hd⟩ : isAsciiDigit a = true ∧ isAsciiDigit b = true ∧
            isAsciiDigit c = true ∧ isAsciiDigit d = true := by
          simpa using hdigits
        dsimp only at h
        split at h
        · rename_i hrange
          obtain ⟨rfl, rfl⟩ := Prod.mk.inj (Option.some.inj h)
          obtain ⟨hhour, hminute⟩ : digitsValue [a, b] < 24 ∧ digitsValue [c, d] < 60 := by
            simpa using hrange
          exact ⟨[a, b], [c, d], isRow_two_iff.2 ⟨a, b, rfl, ha, hb⟩,
            isRow_two_iff.2 ⟨c, d, rfl, hc, hd⟩, rfl, rfl, rfl, hhour, hminute⟩
        · cases h
      · cases h
    · cases h
  · rintro ⟨h, m, hh, hm, rfl, rfl, rfl, hhour, hminute⟩
    rw [readClock?_row hh hm, if_pos ⟨hhour, hminute⟩]

/-- A clock time is written in the same characters as it was read. -/
theorem eq_padded_of_readClock? {time : List Char} {hour minute : Nat}
    (h : readClock? time = some (hour, minute)) :
    time = padded 2 hour ++ ':' :: padded 2 minute := by
  obtain ⟨h, m, hh, hm, rfl, rfl, rfl, -, -⟩ := readClock?_eq_some_iff.1 h
  rw [hh.padded_eq, hm.padded_eq]

/-- What numbers in a text are written with. Where a zero is left out there may be a space. -/
def IsMark (c : Char) : Prop := isDecimalDigit c = true ∨ c = ' '

instance (c : Char) : Decidable (IsMark c) := inferInstanceAs (Decidable (_ ∨ _))

/-- Of two ASCII digits those that write a number between these may stand together, and nothing but
marks of numbers stands together or alone. -/
structure TakesBetween (first last : Nat) (together : Char → Char → Bool) (alone : Char → Bool) :
    Prop where
  pair : ∀ a b, together a b = true → IsMark a ∧ IsMark b
  single : ∀ a, alone a = true → IsMark a
  between : ∀ a b, isAsciiDigit a = true → isAsciiDigit b = true →
    (together a b = true ↔ first ≤ digitsValue [a, b] ∧ digitsValue [a, b] ≤ last)

namespace TakesBetween

variable {first last : Nat} {together : Char → Char → Bool} {alone : Char → Bool} {ds : List Char}
  (h : TakesBetween first last together alone)
include h

theorem stopsAt {c : Char} (hc : ¬IsMark c) : Reader.StopsAt c (Reader.upToTwo together alone) := by
  apply Reader.stopsAt_upToTwo
  · intro b
    exact Bool.eq_false_iff.2 fun htogether => hc (h.pair c b htogether).1
  · intro a
    exact Bool.eq_false_iff.2 fun htogether => hc (h.pair a c htogether).2
  · exact Bool.eq_false_iff.2 fun halone => hc (h.single c halone)

theorem read_row (hds : IsRow 2 ds) (hfirst : first ≤ digitsValue ds)
    (hlast : digitsValue ds ≤ last) :
    Reader.upToTwo together alone ds = some (digitsValue ds, []) := by
  obtain ⟨a, b, rfl, ha, hb⟩ := isRow_two_iff.1 hds
  exact if_pos ((h.between a b ha hb).2 ⟨hfirst, hlast⟩)

/-- Of two ASCII digits that may not stand together the second is left over. -/
theorem left_row (hds : IsRow 2 ds) (hnot : ¬(first ≤ digitsValue ds ∧ digitsValue ds ≤ last))
    {v : Nat} {left : List Char} (hread : Reader.upToTwo together alone ds = some (v, left)) :
    ∃ b, left = [b] ∧ isAsciiDigit b = true := by
  obtain ⟨a, b, rfl, ha, hb⟩ := isRow_two_iff.1 hds
  rw [Reader.upToTwo, if_neg (mt (h.between a b ha hb).1 hnot)] at hread
  obtain ⟨-, hread⟩ := Option.ite_none_right_eq_some.1 hread
  cases hread
  exact ⟨b, rfl, hb⟩

theorem whole_row (hds : IsRow 2 ds) : Reader.whole (Reader.upToTwo together alone) ds =
    if first ≤ digitsValue ds ∧ digitsValue ds ≤ last then some (digitsValue ds) else none := by
  split
  · rename_i hbetween
    exact Reader.whole_eq_some_iff.2 (h.read_row hds hbetween.1 hbetween.2)
  · rename_i hnot
    apply Option.eq_none_iff_forall_ne_some.2
    intro v hwhole
    obtain ⟨b, hleft, -⟩ := h.left_row hds hnot (Reader.whole_eq_some_iff.1 hwhole)
    cases hleft

theorem whole_around_row {c : Char} {β : Type} (hc : ¬IsMark c) (hds : IsRow 2 ds)
    (second : Reader β) (rest : List Char) :
    (Reader.around c (Reader.upToTwo together alone) second).whole (ds ++ c :: rest) =
      if first ≤ digitsValue ds ∧ digitsValue ds ≤ last then
        (second.whole rest).map fun b => (digitsValue ds, b)
      else none := by
  rw [Reader.whole_around_append (h.stopsAt hc), h.whole_row hds]
  · split
    · rfl
    · rfl
  · intro v left hread
    by_cases hbetween : first ≤ digitsValue ds ∧ digitsValue ds ≤ last
    · rw [h.read_row hds hbetween.1 hbetween.2] at hread
      cases hread
    · obtain ⟨b, hleft, hb⟩ := h.left_row hds hbetween hread
      obtain ⟨rfl, -⟩ := List.cons.inj hleft
      exact absurd (Or.inl (isDecimalDigit_of_isAsciiDigit hb)) hc

end TakesBetween

section Parts

variable {a b : Char}

theorem isMark_of_isTens {last : Char} (h : isTens last a b = true) : IsMark a ∧ IsMark b := by
  simp only [isTens, Bool.and_eq_true] at h
  exact ⟨Or.inl (isDecimalDigit_of_isAsciiDigit h.1.1), Or.inl h.2⟩

theorem isTens_iff {last : Char} (ha : isAsciiDigit a = true) (hb : isAsciiDigit b = true) :
    isTens last a b = true ↔ a.toNat ≤ last.toNat := by
  rw [isTens, ha, isDecimalDigit_of_isAsciiDigit hb, Bool.true_and, Bool.and_true,
    decide_eq_true_iff, Char.le_def, UInt32.le_iff_toNat_le]
  rfl

theorem takesBetween_isHour : TakesBetween 0 23 isHour isDecimalDigit where
  pair := by
    intro a b h
    rw [isHour, Bool.or_eq_true] at h
    rcases h with h | h
    · simp only [Bool.and_eq_true, decide_eq_true_eq] at h
      obtain ⟨⟨rfl, hb⟩, -⟩ := h
      exact ⟨Or.inl rfl, Or.inl (isDecimalDigit_of_isAsciiDigit hb)⟩
    · exact isMark_of_isTens h
  single := fun a => Or.inl
  between := by
    intro a b ha hb
    rw [isHour, Bool.or_eq_true, isTens_iff ha hb, digitsValue_pair ha hb, hb]
    simp only [isAsciiDigit, Bool.and_eq_true, decide_eq_true_eq, Bool.and_true, Char.le_def,
      UInt32.le_iff_toNat_le, ← Char.toNat_inj] at ha hb ⊢
    change a.toNat = 50 ∧ b.toNat ≤ 51 ∨ a.toNat ≤ 49 ↔ _
    omega

theorem takesBetween_isMinute : TakesBetween 0 59 (isTens '5') isDecimalDigit where
  pair := fun a b => isMark_of_isTens
  single := fun a => Or.inl
  between := by
    intro a b ha hb
    rw [isTens_iff ha hb, digitsValue_pair ha hb]
    simp only [isAsciiDigit, Bool.and_eq_true, decide_eq_true_eq] at ha hb
    change a.toNat ≤ 53 ↔ _
    omega

theorem takesBetween_isSecond : TakesBetween 0 61 isSecond isDecimalDigit where
  pair := by
    intro a b h
    rw [isSecond, Bool.or_eq_true] at h
    rcases h with h | h
    · simp only [Bool.and_eq_true, Bool.or_eq_true, decide_eq_true_eq] at h
      obtain ⟨rfl, rfl | rfl⟩ := h
      · exact ⟨Or.inl rfl, Or.inl rfl⟩
      · exact ⟨Or.inl rfl, Or.inl rfl⟩
    · exact isMark_of_isTens h
  single := fun a => Or.inl
  between := by
    intro a b ha hb
    rw [isSecond, Bool.or_eq_true, isTens_iff ha hb, digitsValue_pair ha hb]
    simp only [isAsciiDigit, Bool.and_eq_true, Bool.or_eq_true, decide_eq_true_eq,
      ← Char.toNat_inj] at ha hb ⊢
    change a.toNat = 54 ∧ (b.toNat = 48 ∨ b.toNat = 49) ∨ a.toNat ≤ 53 ↔ _
    omega

end Parts

section Formats

variable {hour minute : List Char} (hh : IsRow 2 hour) (hm : IsRow 2 minute)
include hh hm

theorem whole_hourAndMinute :
    hourAndMinute.whole (hour ++ ':' :: minute) = readClock? (hour ++ ':' :: minute) := by
  rw [hourAndMinute, readHour?, takesBetween_isHour.whole_around_row (by decide) hh, readMinute?,
    takesBetween_isMinute.whole_row hm, readClock?_row hh hm]
  simp only [Nat.zero_le, true_and, Nat.lt_succ_iff]
  by_cases hhour : digitsValue hour ≤ 23
  · by_cases hminute : digitsValue minute ≤ 59
    · simp [hhour, hminute]
    · simp [hminute]
  · simp [hhour]

/-- With the seconds behind it the same hour and minute are read. -/
theorem whole_hourMinuteSecond :
    hourMinuteSecond.whole (hour ++ ':' :: minute ++ [':', '0', '0']) =
      (readClock? (hour ++ ':' :: minute)).map fun (h, m) => (h, m, 0) := by
  have hzeros : readSecond?.whole ['0', '0'] = some 0 := rfl
  have hminute : (Reader.around ':' readMinute? readSecond?).whole (minute ++ [':', '0', '0']) =
      (readMinute?.whole minute).map fun m => (m, 0) := by
    rw [readMinute?, takesBetween_isMinute.whole_around_row (by decide) hm,
      takesBetween_isMinute.whole_row hm, hzeros]
    split
    · rfl
    · rfl
  rw [← whole_hourAndMinute hh hm, List.append_assoc, List.cons_append, hourMinuteSecond,
    hourAndMinute, readHour?, takesBetween_isHour.whole_around_row (by decide) hh,
    takesBetween_isHour.whole_around_row (by decide) hh, hminute]
  split
  · rw [Option.map_map, Option.map_map]
    rfl
  · rfl

end Formats

theorem matchesTo_clockPattern {ends : List Char → Bool} {text : List Char} :
    clockPattern.matchesTo ends text = true ↔ ∃ hour minute rest, IsRow 2 hour ∧ IsRow 2 minute ∧
      text = hour ++ ':' :: minute ++ rest ∧ ends rest = true := by
  rw [Pattern.matchesTo_eq_true_iff]
  constructor
  · rintro ⟨taken, rest, _, rfl, ⟨hour, _, _, rfl, hhour, colon, _, _, rfl, hcolon,
      minute, _, _, rfl, hminute, rfl, -⟩, hends⟩
    obtain ⟨hh, rfl⟩ := Pattern.reads_times.1 hhour
    obtain ⟨rfl, rfl⟩ := Pattern.reads_literal.1 hcolon
    obtain ⟨hm, rfl⟩ := Pattern.reads_times.1 hminute
    exact ⟨hour, minute, rest, hh, hm, by simp, hends⟩
  · rintro ⟨hour, minute, rest, hh, hm, rfl, hends⟩
    refine ⟨hour ++ ':' :: minute, rest, [], rfl, ?_, hends⟩
    exact ⟨hour, [], ':' :: minute, rfl, Pattern.reads_times.2 ⟨hh, rfl⟩, [':'], [], minute, rfl,
      Pattern.reads_literal.2 ⟨rfl, rfl⟩, minute, [], [], (List.append_nil minute).symm,
      Pattern.reads_times.2 ⟨hm, rfl⟩, rfl, rfl⟩

/-- What settings take for the time of a clock. -/
theorem isClockTime_eq (text : List Char) : isClockTime text = (readClock? text).isSome := by
  rw [Bool.eq_iff_iff, isClockTime, Bool.and_eq_true, matchesTo_clockPattern]
  constructor
  · rintro ⟨⟨hour, minute, rest, hh, hm, rfl, hends⟩, hread⟩
    simp only [Bool.or_eq_true, decide_eq_true_eq] at hends
    rcases hends with rfl | rfl
    · rw [List.append_nil] at hread ⊢
      rwa [whole_hourAndMinute hh hm] at hread
    · -- No number is written with the line feed that the pattern lets pass, so the format leaves
      -- it over.
      have hmark : ¬IsMark '\n' := by decide
      have hstops : Reader.StopsAt '\n' hourAndMinute :=
        (takesBetween_isHour.stopsAt hmark).around (takesBetween_isMinute.stopsAt hmark) (by decide)
      rw [hstops.whole_append] at hread
      cases hread
  · intro hread
    obtain ⟨⟨h, m⟩, hclock⟩ := Option.isSome_iff_exists.1 hread
    obtain ⟨hour, minute, hh, hm, rfl, -, -, -, -⟩ := readClock?_eq_some_iff.1 hclock
    refine ⟨⟨hour, minute, [], hh, hm, (List.append_nil _).symm, rfl⟩, ?_⟩
    rwa [whole_hourAndMinute hh hm]

end ReminderScan.Calendar
