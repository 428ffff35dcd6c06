import ReminderScan.Proofs.Tag.Search
import ReminderScan.Snippet

/-! A filled snippet is a tag: behind two slashes it is read back as the day, the time and the
message that were put in. Values are not searched for gaps, so a message may look like one. -/

namespace ReminderScan

open Text Calendar

namespace Snippet

variable {values : List String}

theorem fillPieces_plain (values : List String) (text : List Char) (rest : List Piece) :
    fillPieces values (text.map Piece.plain ++ rest) =
      (fillPieces values rest).map (text ++ ·) := by
  induction text with
  | nil =>
    rw [List.map_nil, List.nil_append]
    cases fillPieces values rest <;> rfl
  | cons c text ih =>
    rw [List.map_cons, List.cons_append, fillPieces, ih]
    cases fillPieces values rest <;> rfl

theorem fillPieces_cons {piece : Piece} {text : List Char} (h : piece.fill values = .ok text)
    (rest : List Piece) :
    fillPieces values (piece :: rest) = (fillPieces values rest).map (text ++ ·) := by
  rw [fillPieces, h]
  cases fillPieces values rest <;> rfl

theorem fillPieces_gap {digits placeholder : List Char} {n : Nat} {value : String}
    (hlength : digits.length ≤ Number.digitLimit) (hdigits : digitsValue digits = n + 1)
    (hvalue : values[n]? = some value) (hne : value ≠ "") (rest : List Piece) :
    fillPieces values (.gap digits placeholder :: rest) =
      (fillPieces values rest).map (value.toList ++ ·) := by
  apply fillPieces_cons
  rw [Piece.fill, if_neg (Nat.not_lt.2 hlength)]
  simp only [hdigits, hvalue, if_neg hne]

theorem pieces_reminder : pieces Completion.reminder.insertText.toList =
    "@reminder ".toList.map .plain ++ (.gap ['1'] "YYYY-MM-DD".toList ::
      (" [".toList.map .plain ++ (.gap ['2'] "HH:MM".toList ::
        ("]: ".toList.map .plain ++ [.gap ['3'] "Reminder message".toList])))) := by
  decide +kernel

theorem fill_reminder {date time message : String} (hdate : date ≠ "") (htime : time ≠ "")
    (hmessage : message ≠ "") :
    fill Completion.reminder.insertText [date, time, message] =
      .ok ("@reminder " ++ date ++ " [" ++ time ++ "]: " ++ message) := by
  have hone : ∀ c : Char, [c].length ≤ Number.digitLimit := by
    intro c
    rw [List.length_singleton]
    decide
  rw [fill, pieces_reminder, fillPieces_plain,
    fillPieces_gap (n := 0) (hone '1') (by decide) rfl hdate, fillPieces_plain,
    fillPieces_gap (n := 1) (hone '2') (by decide) rfl htime, fillPieces_plain,
    fillPieces_gap (n := 2) (hone '3') (by decide) rfl hmessage]
  simp only [fillPieces, Except.map, Except.ok.injEq]
  apply String.toList_inj.1
  simp

end Snippet

namespace Tag

theorem messageOf_of_line {body : List Char} (h : '\n' ∉ body) : messageOf body = trim body := by
  have hline : ∀ c ∈ trimStart body, (decide (c ≠ '\n')) = true := by
    intro c hc
    apply decide_eq_true
    rintro rfl
    exact h ((List.dropWhile_suffix _).subset hc)
  rw [messageOf, List.takeWhile_eq_self_iff.2 hline]
  rfl

theorem annotates_filled {date time message : List Char} (hdate : IsDay isAsciiDigit date)
    (htime : time ≠ [] ∧ ∀ c ∈ time, (isAsciiDigit c || c = ':') = true) (hne : message ≠ [])
    (hline : '\n' ∉ message) :
    Annotates ("// @reminder ".toList ++ (date ++ (" [".toList ++ (time ++
      ("]: ".toList ++ message))))) date (.some time) (' ' :: message) := by
  have hblank : ∀ c ∈ [' '], isBlank c = true := by
    intro c hc
    rw [List.mem_singleton.1 hc]
    decide
  have hbracket : IsBracket isAsciiDigit ([' '] ++ '[' :: (time ++ [']'])) (.some time) :=
    Or.inr ⟨[' '], time, rfl, hblank, htime, rfl⟩
  obtain ⟨c, rest, rfl⟩ := List.exists_cons_of_ne_nil hne
  refine ⟨⟨_, ?_, [' '], [' '], _, rfl, hblank, ⟨by simp, hblank⟩, hdate, hbracket⟩, c, ?_, ?_⟩
  · simp
  · simp
  · rintro rfl
    exact hline List.mem_cons_self

end Tag

namespace Snippet

open Tag

/-- What is put into the snippet is read back from it: the day and the time as they are, and the
message without the blanks around it. -/
theorem read?_fill_reminder (date time message defaultTime : String)
    (hdate : IsDay isAsciiDigit date.toList)
    (htime : time ≠ "" ∧ ∀ c ∈ time.toList, (isAsciiDigit c || c = ':') = true)
    (hne : message ≠ "") (hline : '\n' ∉ message.toList) :
    ∃ filled, fill Completion.reminder.insertText [date, time, message] = .ok filled ∧
      read? defaultTime ("// " ++ filled).toList = some
        { date := date
          time := time
          message := String.ofList (trim message.toList)
          scheduled := Timestamp.ofDateAndTime? date.toList time.toList } := by
  have hday : date ≠ "" := by
    rintro rfl
    have hlength := length_of_isDay hdate
    simp at hlength
  refine ⟨_, fill_reminder hday htime.1 hne, ?_⟩
  have htext : ("// " ++ ("@reminder " ++ date ++ " [" ++ time ++ "]: " ++ message)).toList =
      "// @reminder ".toList ++ (date.toList ++ (" [".toList ++ (time.toList ++
        ("]: ".toList ++ message.toList)))) := by
    simp
  have htag := annotates_filled hdate ⟨by simpa using htime.1, htime.2⟩ (by simpa using hne) hline
  have hblank : messageOf (' ' :: message.toList) = trim message.toList := by
    rw [messageOf_of_line (by simpa using hline)]
    rfl
  rw [htext, read?_of_annotates htag, hblank]
  simp

/-- The message looks like a gap, and like another tag. -/
theorem read?_fill_reminder_nested :
    IsDay isAsciiDigit "2024-02-30".toList ∧
    ∃ filled, fill Completion.reminder.insertText
        ["2024-02-30", "7:5", " $\x7b1:x\x7d // @reminder 2024-01-01: y\\ "] = .ok filled ∧
      read? standardTime ("// " ++ filled).toList = some
        { date := "2024-02-30"
          time := "7:5"
          message := "$\x7b1:x\x7d // @reminder 2024-01-01: y\\"
          scheduled := none } := by
  have hday : IsDay isAsciiDigit "2024-02-30".toList :=
    ⟨"2024".toList, "02".toList, "30".toList, by decide,
      ⟨by decide, List.all_eq_true.1 (by decide)⟩,
      ⟨by decide, List.all_eq_true.1 (by decide)⟩, ⟨by decide, List.all_eq_true.1 (by decide)⟩⟩
  obtain ⟨filled, hfill, hread⟩ := read?_fill_reminder "2024-02-30" "7:5"
    " $\x7b1:x\x7d // @reminder 2024-01-01: y\\ " standardTime hday
    ⟨by decide, List.all_eq_true.1 (by decide)⟩ (by decide) (by decide)
  refine ⟨hday, filled, hfill, hread.trans ?_⟩
  decide +kernel

end Snippet
end ReminderScan
