import ReminderScan.Proofs.Text.Pattern
import ReminderScan.Tag
import ReminderScan.Text.Blank
import ReminderScan.Text.DecimalDigit

/-! The grammar of tags, up to the colon before the message. What stands before a message can be
read in one way only, in the digits of all scripts as in those of ASCII. -/

namespace ReminderScan.Tag

open Text Pattern

variable {digit : Char → Bool} {groups after : Groups} {taken : List Char}

/-- Four digits, two and two, with hyphens between. -/
def IsDay (digit : Char → Bool) (day : List Char) : Prop :=
  ∃ y m d, day = y ++ '-' :: (m ++ '-' :: d) ∧ (y.length = 4 ∧ ∀ c ∈ y, digit c = true) ∧
    (m.length = 2 ∧ ∀ c ∈ m, digit c = true) ∧ (d.length = 2 ∧ ∀ c ∈ d, digit c = true)

/-- Nothing, or blanks and a time in square brackets, which is a row of digits and colons. -/
def IsBracket (digit : Char → Bool) (bracket : List Char) (time : Option (List Char)) : Prop :=
  bracket = [] ∧ time = none ∨
  ∃ blanks t, bracket = blanks ++ '[' :: (t ++ [']']) ∧ (∀ c ∈ blanks, isBlank c = true) ∧
    (t ≠ [] ∧ ∀ c ∈ t, (digit c || c = ':') = true) ∧ time = .some t

def IsHeader (digit : Char → Bool) (header day : List Char) (time : Option (List Char)) : Prop :=
  ∃ blanks more bracket, header = ['/', '/'] ++ (blanks ++
      (['@', 'r', 'e', 'm', 'i', 'n', 'd', 'e', 'r'] ++ (more ++ (day ++ (bracket ++ [':']))))) ∧
    (∀ c ∈ blanks, isBlank c = true) ∧ (more ≠ [] ∧ ∀ c ∈ more, isBlank c = true) ∧
    IsDay digit day ∧ IsBracket digit bracket time

def dayPart (digit : Char → Bool) : Pattern :=
  .sequence [.times 4 digit, .literal ['-'], .times 2 digit, .literal ['-'], .times 2 digit]

def bracketPart (digit : Char → Bool) : Pattern := .optional (.sequence [.many isBlank,
  .literal ['['], .group 2 (.some fun c => digit c || c = ':'), .literal [']']])

def headerParts (digit : Char → Bool) : List Pattern := [
  .literal ['/', '/'], .many isBlank, .literal ['@', 'r', 'e', 'm', 'i', 'n', 'd', 'e', 'r'],
  .some isBlank, .group 1 (dayPart digit), bracketPart digit, .literal [':']]

def noteParts : List Pattern := [.many isBlank, .group 3 (.some (· ≠ '\n'))]

theorem pattern_eq (digit : Char → Bool) :
    pattern digit = .sequence (headerParts digit ++ noteParts) := rfl

def headerGroups (day : List Char) (time : Option (List Char)) : Groups :=
  (time.map ((2, ·))).toList ++ [(1, day)]

theorem reads_dayPart :
    (dayPart digit).Reads groups taken after ↔ IsDay digit taken ∧ after = groups := by
  simp only [dayPart, reads_sequence_cons, reads_sequence_nil, reads_times, reads_literal]
  constructor
  · rintro ⟨y, _, _, rfl, ⟨hy, rfl⟩, _, _, _, rfl, ⟨rfl, rfl⟩, m, _, _, rfl, ⟨hm, rfl⟩, _, _, _,
      rfl, ⟨rfl, rfl⟩, d, _, _, rfl, ⟨hd, rfl⟩, rfl, rfl⟩
    exact ⟨⟨y, m, d, by simp, hy, hm, hd⟩, rfl⟩
  · rintro ⟨⟨y, m, d, rfl, hy, hm, hd⟩, rfl⟩
    exact ⟨y, after, _, rfl, ⟨hy, rfl⟩, ['-'], after, _, rfl, ⟨rfl, rfl⟩, m, after, _, rfl,
      ⟨hm, rfl⟩, ['-'], after, _, rfl, ⟨rfl, rfl⟩, d, after, [], by simp, ⟨hd, rfl⟩, rfl, rfl⟩

theorem reads_bracketPart : (bracketPart digit).Reads groups taken after ↔
    ∃ time, IsBracket digit taken time ∧ after = (time.map ((2, ·))).toList ++ groups := by
  simp only [bracketPart, Reads, reads_sequence_cons, reads_sequence_nil, reads_some, reads_literal]
  constructor
  · rintro (⟨blanks, _, _, rfl, ⟨hb, rfl⟩, _, _, _, rfl, ⟨rfl, rfl⟩, t, _, _, rfl,
      ⟨_, ⟨ht, rfl⟩, rfl⟩, _, _, _, rfl, ⟨rfl, rfl⟩, rfl, rfl⟩ | ⟨rfl, rfl⟩)
    · exact ⟨.some t, Or.inr ⟨blanks, t, by simp, hb, ht, rfl⟩, rfl⟩
    · exact ⟨none, Or.inl ⟨rfl, rfl⟩, rfl⟩
  · rintro ⟨time, ⟨rfl, rfl⟩ | ⟨blanks, t, rfl, hb, ht, rfl⟩, rfl⟩
    · exact Or.inr ⟨rfl, rfl⟩
    · exact Or.inl ⟨blanks, groups, _, rfl, ⟨hb, rfl⟩, ['['], groups, _, rfl, ⟨rfl, rfl⟩, t, _,
        [']'], rfl, ⟨groups, ⟨ht, rfl⟩, rfl⟩, [']'], _, [], rfl, ⟨rfl, rfl⟩, rfl, rfl⟩

/-- The pattern before the message reads what the grammar says. -/
theorem reads_header : (sequence (headerParts digit)).Reads [] taken after ↔
    ∃ day time, IsHeader digit taken day time ∧ after = headerGroups day time := by
  simp only [headerParts, reads_sequence_cons, reads_sequence_nil, reads_literal, reads_some,
    reads_many, reads_group, reads_dayPart, reads_bracketPart]
  constructor
  · rintro ⟨_, _, _, rfl, ⟨rfl, rfl⟩, blanks, _, _, rfl, ⟨hb, rfl⟩, _, _, _, rfl, ⟨rfl, rfl⟩, more,
      _, _, rfl, ⟨hm, rfl⟩, day, _, _, rfl, ⟨_, ⟨hday, rfl⟩, rfl⟩, bracket, _, _, rfl,
      ⟨time, htime, rfl⟩, _, _, _, rfl, ⟨rfl, rfl⟩, rfl, rfl⟩
    exact ⟨day, time, ⟨blanks, more, bracket, by simp, hb, hm, hday, htime⟩, rfl⟩
  · rintro ⟨day, time, ⟨blanks, more, bracket, rfl, hb, hm, hday, htime⟩, rfl⟩
    exact ⟨_, [], _, rfl, ⟨rfl, rfl⟩, blanks, [], _, rfl, ⟨hb, rfl⟩, _, [], _, rfl, ⟨rfl, rfl⟩,
      more, [], _, rfl, ⟨hm, rfl⟩, day, [(1, day)], _, rfl, ⟨[], ⟨hday, rfl⟩, rfl⟩, bracket,
      headerGroups day time, _, rfl, ⟨time, htime, rfl⟩, [':'], headerGroups day time, [], rfl,
      ⟨rfl, rfl⟩, rfl, rfl⟩

/-- No digit is blank, and none closes a bracket. -/
structure Digits (digit : Char → Bool) : Prop where
  not_blank : ∀ c, digit c = true → isBlank c = false
  not_closing : digit ']' = false

/-- What stands before the first character that is not of a kind is read in one way only. -/
theorem append_cons_inj {kind : Char → Bool} {first second : List Char} {a b : Char}
    {rest other : List Char} (hfirst : ∀ c ∈ first, kind c = true)
    (hsecond : ∀ c ∈ second, kind c = true) (ha : kind a = false) (hb : kind b = false)
    (h : first ++ a :: rest = second ++ b :: other) : first = second ∧ a = b ∧ rest = other := by
  induction first generalizing second with
  | nil =>
    cases second with
    | nil => simpa using h
    | cons c second =>
      obtain ⟨rfl, -⟩ := List.cons.inj h
      simp [hsecond a List.mem_cons_self] at ha
  | cons c first ih =>
    obtain ⟨hc, hfirst⟩ := List.forall_mem_cons.1 hfirst
    cases second with
    | nil =>
      obtain ⟨rfl, -⟩ := List.cons.inj h
      simp [hc] at hb
    | cons d second =>
      obtain ⟨rfl, htail⟩ := List.cons.inj h
      obtain ⟨rfl, hrest⟩ := ih hfirst (fun e he => hsecond e (List.mem_cons_of_mem _ he)) htail
      exact ⟨rfl, hrest⟩

theorem length_of_isDay {day : List Char} (h : IsDay digit day) : day.length = 10 := by
  obtain ⟨y, m, d, rfl, ⟨hy, -⟩, ⟨hm, -⟩, ⟨hd, -⟩⟩ := h
  simp [hy, hm, hd]

theorem exists_cons_of_isDay {day : List Char} (h : IsDay digit day) :
    ∃ c rest, day = c :: rest ∧ digit c = true := by
  obtain ⟨y, m, d, rfl, ⟨hlength, hy⟩, -, -⟩ := h
  obtain ⟨c, rest, rfl⟩ := List.exists_cons_of_length_eq_add_one hlength
  exact ⟨c, _, rfl, hy c List.mem_cons_self⟩

theorem isBracket_inj (hd : Digits digit) {first second body other : List Char}
    {time time' : Option (List Char)} (hfirst : IsBracket digit first time)
    (hsecond : IsBracket digit second time') (h : first ++ ':' :: body = second ++ ':' :: other) :
    time = time' ∧ body = other := by
  have hcolon : isBlank ':' = false := by decide
  have hopen : isBlank '[' = false := by decide
  rcases hfirst with ⟨rfl, rfl⟩ | ⟨blanks, t, rfl, hb, ⟨-, ht⟩, rfl⟩ <;>
    rcases hsecond with ⟨rfl, rfl⟩ | ⟨blanks', t', rfl, hb', ⟨-, ht'⟩, rfl⟩
  · simpa using h
  · rw [List.append_assoc] at h
    obtain ⟨-, hne, -⟩ : ([] : List Char) = blanks' ∧ _ ∧ _ :=
      append_cons_inj (by simp) hb' hcolon hopen h
    simp at hne
  · rw [List.append_assoc] at h
    obtain ⟨-, hne, -⟩ : blanks = [] ∧ _ ∧ _ := append_cons_inj hb (by simp) hopen hcolon h
    simp at hne
  · have hclose : (digit ']' || decide (']' = ':')) = false := by simp [hd.not_closing]
    have hsame : blanks ++ '[' :: (t ++ ']' :: ':' :: body) =
        blanks' ++ '[' :: (t' ++ ']' :: ':' :: other) := by simpa using h
    obtain ⟨-, -, hinside⟩ := append_cons_inj hb hb' hopen hopen hsame
    obtain ⟨rfl, -, hbehind⟩ := append_cons_inj ht ht' hclose hclose hinside
    exact ⟨rfl, (List.cons.inj hbehind).2⟩

/-- A text starts with one day and time before a message at most. -/
theorem isHeader_inj (hd : Digits digit) {first second day day' body other : List Char}
    {time time' : Option (List Char)} (hfirst : IsHeader digit first day time)
    (hsecond : IsHeader digit second day' time') (h : first ++ body = second ++ other) :
    day = day' ∧ time = time' ∧ body = other := by
  obtain ⟨blanks, more, bracket, rfl, hb, ⟨-, hm⟩, hday, htime⟩ := hfirst
  obtain ⟨blanks', more', bracket', rfl, hb', ⟨-, hm'⟩, hday', htime'⟩ := hsecond
  have hat : isBlank '@' = false := by decide
  simp only [List.append_assoc, List.append_cancel_left_eq] at h
  obtain ⟨-, -, hword⟩ := append_cons_inj hb hb' hat hat h
  have hmore : more ++ (day ++ (bracket ++ ':' :: body)) =
      more' ++ (day' ++ (bracket' ++ ':' :: other)) := by simpa using hword
  obtain ⟨c, rest, hc, hdigit⟩ := exists_cons_of_isDay hday
  obtain ⟨c', rest', hc', hdigit'⟩ := exists_cons_of_isDay hday'
  have hrest : day ++ (bracket ++ ':' :: body) = day' ++ (bracket' ++ ':' :: other) := by
    rw [hc, hc', List.cons_append, List.cons_append] at hmore ⊢
    obtain ⟨-, hhead, htail⟩ :=
      append_cons_inj hm hm' (hd.not_blank c hdigit) (hd.not_blank c' hdigit') hmore
    rw [hhead, htail]
  obtain ⟨hsame, hbehind⟩ :=
    List.append_inj hrest ((length_of_isDay hday).trans (length_of_isDay hday').symm)
  exact ⟨hsame, isBracket_inj hd htime htime' hbehind⟩

theorem isDecimalDigit_iff (c : Char) : isDecimalDigit c = true ↔
    ∃ z ∈ digitZeros, z ≤ c.toNat ∧ c.toNat ≤ z + 9 := by
  simp [isDecimalDigit, digitValue?]

theorem isAsciiDigit_iff (c : Char) :
    isAsciiDigit c = true ↔ isDecimalDigit c = true ∧ c.toNat < 128 := by
  have hfirst : ∀ z ∈ digitZeros, z < 128 → z = 48 := by decide
  rw [isDecimalDigit_iff]
  simp only [isAsciiDigit, Bool.and_eq_true, decide_eq_true_eq]
  constructor
  · rintro ⟨hlow, hhigh⟩
    exact ⟨⟨48, by decide, hlow, hhigh⟩, by omega⟩
  · rintro ⟨⟨z, hz, hlow, hhigh⟩, hc⟩
    have := hfirst z hz (by omega)
    omega

theorem digits_isDecimalDigit : Digits isDecimalDigit := by
  have hnone : ∀ z ∈ digitZeros, ∀ d < 10, isBlank (Char.ofNat (z + d)) = false := by
    decide +kernel
  refine ⟨fun c hc => ?_, by decide⟩
  obtain ⟨z, hz, hlow, hhigh⟩ := (isDecimalDigit_iff c).1 hc
  have hblank := hnone z hz (c.toNat - z) (by omega)
  rwa [Nat.add_sub_cancel' hlow, Char.ofNat_toNat] at hblank

theorem digits_isAsciiDigit : Digits isAsciiDigit :=
  ⟨fun c hc => digits_isDecimalDigit.not_blank c ((isAsciiDigit_iff c).1 hc).1, by decide⟩

def IsAscii (text : List Char) : Prop := ∀ c ∈ text, c.toNat < 128

theorem isAscii_append {first second : List Char} :
    IsAscii (first ++ second) ↔ IsAscii first ∧ IsAscii second := List.forall_mem_append

theorem isAscii_cons {c : Char} {text : List Char} :
    IsAscii (c :: text) ↔ c.toNat < 128 ∧ IsAscii text := List.forall_mem_cons

/-- Where one character is of a kind if it is of another and in ASCII, so it is for whole texts. -/
theorem forall_ascii_iff {kind other : Char → Bool}
    (h : ∀ c, kind c = true ↔ other c = true ∧ c.toNat < 128) (text : List Char) :
    (∀ c ∈ text, kind c = true) ↔ (∀ c ∈ text, other c = true) ∧ IsAscii text := by
  constructor
  · intro hall
    exact ⟨fun c hc => ((h c).1 (hall c hc)).1, fun c hc => ((h c).1 (hall c hc)).2⟩
  · rintro ⟨hother, ha⟩ c hc
    exact (h c).2 ⟨hother c hc, ha c hc⟩

theorem isDay_ascii_iff (day : List Char) :
    IsDay isAsciiDigit day ↔ IsDay isDecimalDigit day ∧ IsAscii day := by
  have hhyphen : '-'.toNat < 128 := by decide
  simp only [IsDay, forall_ascii_iff isAsciiDigit_iff]
  constructor
  · rintro ⟨y, m, d, rfl, ⟨hy, hyd, hya⟩, ⟨hm, hmd, hma⟩, ⟨hd, hdd, hda⟩⟩
    refine ⟨⟨y, m, d, rfl, ⟨hy, hyd⟩, ⟨hm, hmd⟩, ⟨hd, hdd⟩⟩, ?_⟩
    exact isAscii_append.2 ⟨hya, isAscii_cons.2 ⟨hhyphen, isAscii_append.2
      ⟨hma, isAscii_cons.2 ⟨hhyphen, hda⟩⟩⟩⟩
  · rintro ⟨⟨y, m, d, rfl, ⟨hy, hyd⟩, ⟨hm, hmd⟩, ⟨hd, hdd⟩⟩, ha⟩
    obtain ⟨hya, ha⟩ := isAscii_append.1 ha
    obtain ⟨hma, hda⟩ := isAscii_append.1 (isAscii_cons.1 ha).2
    exact ⟨y, m, d, rfl, ⟨hy, hyd, hya⟩, ⟨hm, hmd, hma⟩, ⟨hd, hdd, (isAscii_cons.1 hda).2⟩⟩

theorem isBracket_ascii_iff (bracket : List Char) (time : Option (List Char)) :
    IsBracket isAsciiDigit bracket time ↔
      IsBracket isDecimalDigit bracket time ∧ ∀ t ∈ time, IsAscii t := by
  have hkind : ∀ c, (isAsciiDigit c || c = ':') = true ↔
      (isDecimalDigit c || c = ':') = true ∧ c.toNat < 128 := by
    intro c
    by_cases hc : c = ':'
    · subst hc
      decide
    · simp [hc, isAsciiDigit_iff]
  simp only [IsBracket, forall_ascii_iff hkind]
  constructor
  · rintro (⟨rfl, rfl⟩ | ⟨blanks, t, rfl, hb, ⟨hne, ht, ha⟩, rfl⟩)
    · exact ⟨Or.inl ⟨rfl, rfl⟩, by simp⟩
    · exact ⟨Or.inr ⟨blanks, t, rfl, hb, ⟨hne, ht⟩, rfl⟩, by simpa using ha⟩
  · rintro ⟨⟨rfl, rfl⟩ | ⟨blanks, t, rfl, hb, ⟨hne, ht⟩, rfl⟩, ha⟩
    · exact Or.inl ⟨rfl, rfl⟩
    · exact Or.inr ⟨blanks, t, rfl, hb, ⟨hne, ht, ha t rfl⟩, rfl⟩

/-- A header in ASCII is one in the digits of all scripts whose day and time are in ASCII. -/
theorem isHeader_ascii_iff (header day : List Char) (time : Option (List Char)) :
    IsHeader isAsciiDigit header day time ↔
      IsHeader isDecimalDigit header day time ∧ IsAscii day ∧ ∀ t ∈ time, IsAscii t := by
  simp only [IsHeader, isDay_ascii_iff, isBracket_ascii_iff]
  constructor
  · rintro ⟨blanks, more, bracket, rfl, hb, hm, ⟨hday, ha⟩, htime, hat⟩
    exact ⟨⟨blanks, more, bracket, rfl, hb, hm, hday, htime⟩, ha, hat⟩
  · rintro ⟨⟨blanks, more, bracket, rfl, hb, hm, hday, htime⟩, ha, hat⟩
    exact ⟨blanks, more, bracket, rfl, hb, hm, ⟨hday, ha⟩, htime, hat⟩

end ReminderScan.Tag
