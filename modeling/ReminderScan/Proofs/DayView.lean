import ReminderScan.CommandLine.Run
import ReminderScan.Proofs.Watch.Reachable

/-! The list of one day. An item shows the time as it was written, and the day as well unless its
year starts with a zero. The list of a day has the reminders whose day is written so and whose time
exists, however the day was named; each of them stands on the list of one day only. -/

namespace ReminderScan

open Calendar Text Number

/-- The day that is named by the text of a valid reminder is the one on which it falls. -/
theorem IsStamped.fallsOn_iff {day time : String} {scheduled : Option Timestamp}
    (h : IsStamped day time scheduled) (d : Date) :
    Timestamp.fallsOn d scheduled = true ↔ scheduled.isSome = true ∧ day = d.text := by
  cases hscheduled : scheduled with
  | none => simp [Timestamp.fallsOn]
  | some t =>
    have ht := h.named.symm.trans hscheduled
    have hdate := (Timestamp.ofDateAndTime?_eq_some_iff.1 ht).2.1
    have htext := Date.text_of_ofText? h.isDay hdate
    rw [String.ofList_toList] at htext
    simp only [Timestamp.fallsOn, decide_eq_true_eq, Option.isSome_some, true_and, ← htext]
    exact ⟨congrArg Date.text, Date.text_injective⟩

namespace DayItem

variable {defaultTime : String} {line : List Char} {tag : Tag}

/-- The item of a reminder shows the time as it is written in the tag. The day is shown without the
zeros at its start, so it is shown as written when there are none. -/
theorem item_of_read? (hread : Tag.read? defaultTime line = some tag)
    (hvalid : tag.scheduled ≠ none) (file : String) (number : Int) :
    let item := ofReminder ⟨file, number, tag.message, tag.scheduled, tag.date, tag.time⟩
    item.description = tag.time ∧
    item.tooltip = item.label ++ "\nScheduled: " ++
      String.ofList (tag.date.toList.dropWhile (· = '0')) ++
      " " ++ tag.time ++ ":00" ∧
    (item.tooltip = item.label ++ "\nScheduled: " ++ tag.date ++ " " ++ tag.time ++ ":00" ↔
      tag.date.toList.head? ≠ some '0') := by
  obtain ⟨t, ht⟩ := Option.ne_none_iff_exists'.1 hvalid
  obtain ⟨hday, hnamed⟩ := Tag.isStamped_of_read? hread
  have hdescription := Timestamp.clock_of_written (hnamed.symm.trans ht)
  have hlisting := Timestamp.listing_of_written hday (hnamed.symm.trans ht)
  rw [String.ofList_toList] at hdescription hlisting
  intro item
  have htooltip : item.tooltip = item.label ++ "\nScheduled: " ++
      String.ofList (tag.date.toList.dropWhile (· = '0')) ++ " " ++ tag.time ++ ":00" := by
    change item.label ++ "\nScheduled: " ++ Timestamp.listing? tag.scheduled = _
    rw [ht, Timestamp.listing?, hlisting]
    simp [String.append_assoc]
  refine ⟨?_, htooltip, ?_⟩
  · change Timestamp.clock? tag.scheduled = _
    rw [ht, Timestamp.clock?, hdescription]
  · rw [htooltip, String.append_left_inj, String.append_left_inj, String.append_left_inj,
      String.append_right_inj, ← String.toList_inj, String.toList_ofList, dropWhile_eq_self_iff]
    simp only [Option.mem_def, decide_eq_false_iff_not, ne_eq]
    constructor
    · intro hhead hzero
      exact hhead _ hzero rfl
    · rintro hhead c hc rfl
      exact hhead hc

theorem item_of_read?_call : ∃ tag,
    Tag.read? standardTime "// @reminder 2024-06-01 [14:30]: call".toList = some tag ∧
    tag.scheduled ≠ none ∧
    let item := ofReminder ⟨"/w/a.py", 12, tag.message, tag.scheduled, tag.date, tag.time⟩
    item.description = tag.time ∧
    item.tooltip = item.label ++ "\nScheduled: " ++ tag.date ++ " " ++ tag.time ++ ":00" := by
  have hread : (Tag.read? standardTime "// @reminder 2024-06-01 [14:30]: call".toList).map
      (fun tag => (tag.date, tag.scheduled.isSome)) = some ("2024-06-01", true) := by decide +kernel
  obtain ⟨tag, htag, hfields⟩ := Option.map_eq_some_iff.1 hread
  obtain ⟨hdate, hsome⟩ := Prod.mk.inj hfields
  have hvalid : tag.scheduled ≠ none := Option.isSome_iff_ne_none.1 hsome
  obtain ⟨hdescription, -, htooltip⟩ := item_of_read? htag hvalid "/w/a.py" 12
  refine ⟨tag, htag, hvalid, hdescription, htooltip.2 ?_⟩
  rw [hdate]
  decide

/-- A year before the thousandth is shown with fewer digits than it is written with. -/
theorem item_of_read?_earlyYear : ∃ tag,
    Tag.read? standardTime "// @reminder 0042-03-04 [05:06]: x".toList = some tag ∧
      tag.scheduled ≠ none ∧
    let item := ofReminder ⟨"/w/a.py", 1, tag.message, tag.scheduled, tag.date, tag.time⟩
    item.tooltip = "a.py (Line 1) - x\nScheduled: 42-03-04 05:06:00" ∧
    item.label ++ "\nScheduled: " ++ tag.date ++ " " ++ tag.time ++ ":00" =
      "a.py (Line 1) - x\nScheduled: 0042-03-04 05:06:00" := by
  have hread : (Tag.read? standardTime "// @reminder 0042-03-04 [05:06]: x".toList).map (fun tag =>
      let item := ofReminder ⟨"/w/a.py", 1, tag.message, tag.scheduled, tag.date, tag.time⟩
      (tag.scheduled.isSome, item.tooltip,
        item.label ++ "\nScheduled: " ++ tag.date ++ " " ++ tag.time ++ ":00")) =
      some (true, "a.py (Line 1) - x\nScheduled: 42-03-04 05:06:00",
        "a.py (Line 1) - x\nScheduled: 0042-03-04 05:06:00") := by decide +kernel
  obtain ⟨tag, htag, hfields⟩ := Option.map_eq_some_iff.1 hread
  obtain ⟨hsome, hitem⟩ := Prod.mk.inj hfields
  obtain ⟨htooltip, hwritten⟩ := Prod.mk.inj hitem
  exact ⟨tag, htag, Option.isSome_iff_ne_none.1 hsome, htooltip, hwritten⟩

end DayItem

/-- The reminder was read from a line of a file. -/
def Reminder.IsFound (r : Reminder) : Prop :=
  ∃ defaultTime line tag file number, Tag.read? defaultTime line = some tag ∧
    r = .ofTag file number tag

/-- The reminder has a point in time, and the text of this day. -/
def Reminder.isWrittenOn (r : Reminder) (day : Date) : Bool := r.isValid && r.date = day.text

theorem Reminder.IsFound.isStamped {r : Reminder} (h : r.IsFound) :
    IsStamped r.date r.time r.scheduled := by
  obtain ⟨_, _, tag, _, _, htag, rfl⟩ := h
  exact Tag.isStamped_of_read? htag

theorem Host.isFound_of_mem_remindersIn {h : Host} {defaultTime path : String} {r : Reminder}
    (hr : r ∈ h.remindersIn defaultTime path) : r.IsFound := by
  obtain ⟨line, number, tag, -, -, htag, rfl⟩ := exists_tag_of_mem_remindersIn hr
  exact ⟨defaultTime, line, tag, path, number, htag, rfl⟩

theorem Service.isFound_scanWorkspace (s : Settings) (h : Host) (root : Option String) :
    ∀ r ∈ (scanWorkspace ⟨s, .empty⟩ h root).service.store.toList, r.IsFound :=
  (step_scanWorkspace ⟨s, .empty⟩ h root).forall_mem
    (fun _ _ _ hr => Host.isFound_of_mem_remindersIn hr) (List.forall_mem_nil _)

/-- Whatever is done, from no reminder known on: all that are known were found. -/
theorem Watch.isFound_of_foldl_after {w : Watch} (hw : w.service.store = .empty)
    {occasions : List Occasion} (hr : ∀ o ∈ occasions, o.host.IsRooted) :
    ∀ r ∈ (occasions.foldl after w).service.store.toList, r.IsFound := by
  refine foldl_after (P := fun s => ∀ r ∈ s.store.toList, r.IsFound) hr (fun _ _ hs => hs) ?_ w ?_
  · intro o _ s t _ hstep hs
    exact hstep.forall_mem (fun _ _ _ hr => Host.isFound_of_mem_remindersIn hr) hs
  · rw [hw]
    exact List.forall_mem_nil _

section Day

variable {reminders : List Reminder} {r : Reminder}

theorem dayView_of_isFound (hfound : ∀ r ∈ reminders, r.IsFound) (day : Date) :
    dayView reminders day = (reminders.filter (·.isWrittenOn day)).map .ofReminder := by
  have hsame : ∀ r ∈ reminders, Timestamp.fallsOn day r.scheduled = r.isWrittenOn day := by
    intro r hr
    rw [Bool.eq_iff_iff, (hfound r hr).isStamped.fallsOn_iff day, Reminder.isWrittenOn,
      Bool.and_eq_true, decide_eq_true_eq, Reminder.isValid]
  rw [dayView, List.filter_congr hsame]

theorem mem_dayView_iff (hfound : ∀ r ∈ reminders, r.IsFound) (day : Date) :
    DayItem.ofReminder r ∈ dayView reminders day ↔ r ∈ reminders ∧ r.isWrittenOn day = true := by
  rw [dayView_of_isFound hfound, List.mem_map]
  constructor
  · rintro ⟨other, hother, hsame⟩
    obtain rfl : other = r := congrArg DayItem.reminder hsame
    exact List.mem_filter.1 hother
  · intro hr
    exact ⟨r, List.mem_filter.2 hr, rfl⟩

theorem exists_day_of_isFound (hfound : ∀ r ∈ reminders, r.IsFound) (hr : r ∈ reminders)
    (hvalid : r.isValid = true) : ∃ day, Date.ofUserText? r.date = some day ∧
      ∀ other, DayItem.ofReminder r ∈ dayView reminders other ↔ other = day := by
  obtain ⟨hday, hnamed⟩ := (hfound r hr).isStamped
  obtain ⟨t, ht⟩ := Option.isSome_iff_exists.1 hvalid
  have hread := (Timestamp.ofDateAndTime?_eq_some_iff.1 (hnamed.symm.trans ht)).2.1
  have htext := Date.text_of_ofText? hday hread
  rw [String.ofList_toList] at htext
  refine ⟨t.date, (Date.ofUserText?_of_isDay hday).trans hread, ?_⟩
  intro other
  rw [mem_dayView_iff hfound, Reminder.isWrittenOn, hvalid, Bool.true_and,
    decide_eq_true_eq, ← htext]
  constructor
  · rintro ⟨-, hsame⟩
    exact (Date.text_injective hsame).symm
  · rintro rfl
    exact ⟨hr, rfl⟩

end Day

namespace CommandLine

/-- With a day that can be read, the list of that day is printed once the workspace was searched. -/
theorem runToday_of_day {h : Host} {s : Settings} {root : Option String} {text : String}
    {day : Date} {scan : WorkspaceScan} (hday : Date.ofUserText? text = some day)
    (hscan : (Service.scanWorkspace ⟨s, .empty⟩ h root).answer = .ok (some scan)) (verbose : Bool) :
    (runToday h s verbose root (some text)).success = .ok true ∧
    Event.line (dayListing (((Service.scanWorkspace ⟨s, .empty⟩ h root).service.store.toList.filter
      (·.isWrittenOn day)).map .ofReminder) (some day)) ∈
        (runToday h s verbose root (some text)).events := by
  rw [← dayView_of_isFound (Service.isFound_scanWorkspace s h root) day]
  unfold runToday
  dsimp only
  split
  · rename_i hrefused
    split at hrefused
    · cases hrefused
    · cases hrefused
    · rename_i hsome
      obtain rfl := Option.some.inj hsome
      rw [hday] at hrefused
      cases hrefused
  · rename_i hnamed
    split at hnamed
    · rename_i hnone
      cases hnone
    · rename_i hempty
      obtain rfl := Option.some.inj hempty
      cases hday
    · rename_i hsome
      obtain rfl := Option.some.inj hsome
      rw [hday] at hnamed
      obtain rfl := Except.ok.inj hnamed
      rw [hscan]
      simp [dayList]

end CommandLine

/-- The list of a day that a user names has, in the order in which they were found, each of the
reminders that are written on that day, and so has the command that prints it. A user can name the
days that stand in valid tags and no other days written so. So each valid reminder is on the list of
one day, the one that is named as it is written; the other reminders are on none. -/
theorem dayView_exact {reminders : List Reminder} (hfound : ∀ r ∈ reminders, r.IsFound) :
    (∀ text day, Date.ofUserText? text = some day →
      dayView reminders day = (reminders.filter (·.isWrittenOn day)).map .ofReminder ∧
      ∀ h s root scan verbose, (Service.scanWorkspace ⟨s, .empty⟩ h root).answer = .ok (some scan) →
        (CommandLine.runToday h s verbose root (some text)).success = .ok true ∧
        Event.line
          (dayListing (((Service.scanWorkspace ⟨s, .empty⟩ h root).service.store.toList.filter
          (·.isWrittenOn day)).map .ofReminder) (some day)) ∈
          (CommandLine.runToday h s verbose root (some text)).events) ∧
    (∀ text hour minute, Tag.IsDay isAsciiDigit text.toList → IsRow 2 hour → IsRow 2 minute →
      digitsValue hour ≤ 23 → digitsValue minute ≤ 59 →
      (Timestamp.ofDateAndTime? text.toList (hour ++ ':' :: minute)).map Timestamp.date =
        Date.ofUserText? text) ∧
    (∀ r ∈ reminders, r.isValid = true → ∃ day, Date.ofUserText? r.date = some day ∧
      ∀ other, DayItem.ofReminder r ∈ dayView reminders other ↔ other = day) ∧
    ∀ r ∈ reminders, r.isValid = false → ∀ day, DayItem.ofReminder r ∉ dayView reminders day := by
  refine ⟨?view, ?read, fun r hr => exists_day_of_isFound hfound hr, ?none⟩
  case view =>
    intro text day hday
    exact ⟨dayView_of_isFound hfound day,
      fun h s root scan verbose hscan => CommandLine.runToday_of_day hday hscan verbose⟩
  case read =>
    intro text hour minute htext hh hm hhour hminute
    rw [Timestamp.date_ofDateAndTime? _ hh hm hhour hminute, Date.ofUserText?_of_isDay htext]
  case none =>
    intro r hr hinvalid day hmem
    have hwritten := ((mem_dayView_iff hfound day).1 hmem).2
    rw [Reminder.isWrittenOn, hinvalid] at hwritten
    cases hwritten

/-- A document with a leap day, a day that does not exist and a day of an early year. -/
def leapHost : Host :=
  { Service.mixedHost with
    tree := Station.noteTree ("// @reminder 2024-02-29: a\n// @reminder 2023-02-29: b\n" ++
      "// @reminder 0042-03-04 [23:59]: c") (.zero false) }

def leapOccasions : List Watch.Occasion := [
  ⟨leapHost, .bool false, .call (.search (some "/w"))⟩,
  ⟨leapHost, .bool false, .call (.document .saved "/w/a.py")⟩]

def leapReminders : List Reminder :=
  (leapOccasions.foldl Watch.after Watch.noteWatch).service.store.toList

theorem dayView_exact_leapDay : (∀ r ∈ leapReminders, r.IsFound) ∧ leapReminders.length = 6 ∧
    ∃ day, Date.ofUserText? " 2024-2-29T08:00" = some day ∧
      (dayView leapReminders day).map DayItem.label = ["a.py (Line 1) - a", "a.py (Line 1) - a"] ∧
      ∀ r ∈ leapReminders, r.isValid = false →
        DayItem.ofReminder r ∉ dayView leapReminders day := by
  have hr : ∀ o ∈ leapOccasions, o.host.IsRooted := by decide
  have hfound : ∀ r ∈ leapReminders, r.IsFound := Watch.isFound_of_foldl_after rfl hr
  have hlabels : (Date.ofUserText? " 2024-2-29T08:00").map (fun day =>
      (leapReminders.filter (·.isWrittenOn day)).map fun r => (DayItem.ofReminder r).label) =
      some ["a.py (Line 1) - a", "a.py (Line 1) - a"] := by decide +kernel
  obtain ⟨day, hday, hlabels⟩ := Option.map_eq_some_iff.1 hlabels
  obtain ⟨hview, -, -, hnone⟩ := dayView_exact hfound
  refine ⟨hfound, by decide +kernel, day, hday, ?_, fun r hr hinvalid => hnone r hr hinvalid day⟩
  rw [(hview _ day hday).1, List.map_map]
  exact hlabels

end ReminderScan
