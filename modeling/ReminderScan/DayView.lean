import ReminderScan.Reminder

/-! The list of the reminders of one day, at any time of that day. -/

namespace ReminderScan

open Calendar

structure DayItem where
  label : String
  reminder : Reminder
  tooltip : String
  description : String
deriving DecidableEq

namespace DayItem

def ofReminder (r : Reminder) : DayItem :=
  let label :=
    r.fileName ++ " (Line " ++ String.ofList (Number.writtenInt r.line) ++ ") - " ++ r.message
  { label, reminder := r
    tooltip := label ++ "\nScheduled: " ++ Timestamp.listing? r.scheduled
    description := Timestamp.clock? r.scheduled }

end DayItem

def dayView (reminders : List Reminder) (day : Date) : List DayItem :=
  (reminders.filter fun r => Timestamp.fallsOn day r.scheduled).map DayItem.ofReminder

/-- The text of a list for a terminal. Without a day in the heading it speaks of today. -/
def dayListing (items : List DayItem) (heading : Option Date) : String :=
  let title := "Reminders for " ++ (match heading with | none => "today" | some day => day.text)
  let entries :=
    if items.isEmpty then ["  (none)"]
    else items.map fun item => "  🕘 " ++ item.description ++ "  " ++ item.label
  "\n".intercalate (title :: String.ofList (List.replicate title.length '=') :: entries)

end ReminderScan
