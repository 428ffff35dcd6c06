import ReminderScan.Proofs.Calendar.Written
import ReminderScan.Proofs.Document
import ReminderScan.Proofs.Path
import ReminderScan.Proofs.Tag.Search
import ReminderScan.Proofs.Text.Strip

/-! What holds of every reminder that was found in a line: its point in time is the one that its day
and its time name, its message is trimmed and stands in one line, and its file is named from the
root on. -/

namespace ReminderScan

open Calendar Text

/-- The day and the time are as a tag writes them, and name the point in time. -/
structure IsStamped (day time : String) (scheduled : Option Timestamp) : Prop where
  isDay : Tag.IsDay isAsciiDigit day.toList
  named : scheduled = Timestamp.ofDateAndTime? day.toList time.toList

theorem IsStamped.iso {day time : String} {scheduled : Option Timestamp}
    (h : IsStamped day time scheduled) {t : Timestamp} (ht : scheduled = some t) :
    t.iso = day ++ "T" ++ time ++ ":00" := by
  have hiso := Timestamp.iso_of_written h.isDay (h.named.symm.trans ht)
  rwa [String.ofList_toList, String.ofList_toList] at hiso

/-- A row of ASCII digits and colons. -/
def IsTimeText (time : List Char) : Prop :=
  time ≠ [] ∧ ∀ c ∈ time, isAsciiDigit c = true ∨ c = ':'

theorem isTimeText_of_isBracket {bracket time : List Char}
    (h : Tag.IsBracket isAsciiDigit bracket (some time)) : IsTimeText time := by
  rcases h with ⟨-, hnone⟩ | ⟨_, t, -, -, ⟨hne, ht⟩, hsome⟩
  · cases hnone
  · obtain rfl := Option.some.inj hsome
    refine ⟨hne, fun c hc => ?_⟩
    simpa using ht c hc

theorem isTimeText_of_readClock? {time : List Char} (h : (readClock? time).isSome = true) :
    IsTimeText time := by
  obtain ⟨⟨hour, minute⟩, hclock⟩ := Option.isSome_iff_exists.1 h
  obtain ⟨a, b, ha, hb, rfl, -, -, -, -⟩ := readClock?_eq_some_iff.1 hclock
  refine ⟨List.append_ne_nil_of_right_ne_nil _ (List.cons_ne_nil _ _), fun c hc => ?_⟩
  rcases List.mem_append.1 hc with hc | hc
  · exact Or.inl (ha.2 c hc)
  · rcases List.mem_cons.1 hc with rfl | hc
    · exact Or.inr rfl
    · exact Or.inl (hb.2 c hc)

namespace Tag

variable {defaultTime : String} {line : List Char} {tag : Tag}

theorem messageOf_subset (body : List Char) : messageOf body ⊆ body := by
  intro c hc
  rw [messageOf, trimEnd, List.mem_reverse] at hc
  have hline := List.mem_reverse.1 ((List.dropWhile_sublist _).subset hc)
  exact (List.dropWhile_sublist _).subset ((List.takeWhile_sublist _).subset hline)

theorem trim_messageOf {text day body : List Char} {time : Option (List Char)}
    (h : Annotates text day time body) : trim (messageOf body) = messageOf body := by
  obtain ⟨message, hmessage, -⟩ := match?_of_annotates h
  rw [← hmessage]
  exact stripBoth_of_bare (bare_stripBoth isBlank message)

theorem isStamped_of_read? (h : read? defaultTime line = some tag) :
    IsStamped tag.date tag.time tag.scheduled := by
  obtain ⟨i, day, time, body, ⟨⟨_, -, _, _, _, -, -, -, hday, -⟩, -⟩, rfl⟩ :=
    exists_annotates_of_read? h
  refine ⟨?_, ?_⟩
  · rw [String.toList_ofList]
    exact hday
  · rw [String.toList_ofList, String.toList_ofList]

theorem isTimeText_of_read? (hdefault : IsTimeText defaultTime.toList)
    (h : read? defaultTime line = some tag) : IsTimeText tag.time.toList := by
  obtain ⟨i, day, time, body, ⟨⟨_, -, _, _, _, -, -, -, -, hbracket⟩, -⟩, rfl⟩ :=
    exists_annotates_of_read? h
  rw [String.toList_ofList]
  cases time with
  | none => exact hdefault
  | some t => exact isTimeText_of_isBracket hbracket

theorem message_of_read? (h : read? defaultTime line = some tag) :
    trim tag.message.toList = tag.message.toList ∧ tag.message.toList ⊆ line := by
  obtain ⟨i, day, time, body, hannotates, rfl⟩ := exists_annotates_of_read? h
  rw [String.toList_ofList]
  refine ⟨trim_messageOf hannotates, fun c hc => ?_⟩
  obtain ⟨⟨header, htext, -⟩, -⟩ := hannotates
  apply List.mem_of_mem_drop (i := i)
  rw [htext]
  exact List.mem_append_right header (messageOf_subset body hc)

end Tag

/-- A reminder as it is found in a file. -/
structure Reminder.IsWellFormed (r : Reminder) : Prop where
  /-- The path is absolute, wherever the program stands. -/
  file : ∀ h : Host, h.absolute r.file = r.file
  line : 1 ≤ r.line
  trimmed : trim r.message.toList = r.message.toList
  oneLine : ∀ c ∈ r.message.toList, c ≠ '\r' ∧ c ≠ '\n'
  stamped : IsStamped r.date r.time r.scheduled
  time : IsTimeText r.time.toList

namespace Host

variable {h : Host} {defaultTime path : String} {r : Reminder}

theorem exists_tag_of_mem_remindersIn (hr : r ∈ h.remindersIn defaultTime path) :
    ∃ line number tag, (∀ c ∈ line, c ≠ '\r' ∧ c ≠ '\n') ∧ 1 ≤ number ∧
      Tag.read? defaultTime line = some tag ∧ r = .ofTag path number tag := by
  unfold remindersIn at hr
  split at hr
  · obtain ⟨⟨line, number⟩, hline, hr⟩ := List.mem_filterMap.1 hr
    obtain ⟨tag, htag, rfl⟩ := Option.map_eq_some_iff.1 hr
    exact ⟨line, number, tag, not_end_of_mem_lines (List.fst_mem_of_mem_zipIdx hline),
      List.le_snd_of_mem_zipIdx hline, htag, rfl⟩
  · cases hr

theorem isStamped_of_mem_remindersIn (hr : r ∈ h.remindersIn defaultTime path) :
    IsStamped r.date r.time r.scheduled := by
  obtain ⟨line, number, tag, -, -, htag, rfl⟩ := exists_tag_of_mem_remindersIn hr
  exact Tag.isStamped_of_read? htag

theorem isWellFormed_of_mem_remindersIn (hdefault : IsTimeText defaultTime.toList)
    (hpath : Path.Settled path.toList) (hr : r ∈ h.remindersIn defaultTime path) :
    r.IsWellFormed := by
  obtain ⟨line, number, tag, hline, hnumber, htag, rfl⟩ := exists_tag_of_mem_remindersIn hr
  obtain ⟨htrimmed, hmessage⟩ := Tag.message_of_read? htag
  exact {
    file := fun g => absolute_of_settled hpath
    line := Int.ofNat_le.2 hnumber
    trimmed := htrimmed
    oneLine := fun c hc => hline c (hmessage hc)
    stamped := Tag.isStamped_of_read? htag
    time := Tag.isTimeText_of_read? hdefault htag }

end Host

/-- All reminders of a store are stamped. -/
def Store.IsStamped (s : Store) : Prop :=
  ∀ r ∈ s.toList, ReminderScan.IsStamped r.date r.time r.scheduled

theorem Store.isStamped_empty : Store.empty.IsStamped := List.forall_mem_nil _

end ReminderScan
