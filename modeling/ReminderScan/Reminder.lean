import ReminderScan.Tag
import ReminderScan.Json.Value
import ReminderScan.Path

/-! Reminders found in files, and the list that keeps them in the order they were found. -/

namespace ReminderScan

open Calendar

/-- A reminder: where it stands, what it says and when it is due. `date` and `time` are as
written. -/
structure Reminder where
  file : String
  line : Int
  message : String
  scheduled : Option Timestamp
  date : String := ""
  time : String := standardTime
deriving DecidableEq

namespace Reminder

def ofTag (file : String) (line : Nat) (a : Tag) : Reminder :=
  ⟨file, line, a.message, a.scheduled, a.date, a.time⟩

def isValid (r : Reminder) : Bool := r.scheduled.isSome

/-- The point in time is reached. A reminder without one is never due. -/
def isDue (r : Reminder) (now : Timestamp) : Bool :=
  match r.scheduled with
  | none => false
  | some t => t ≤ now

def fileName (r : Reminder) : String := Path.baseName r.file

def toJson (r : Reminder) : Json.Value := .object [
  ("file", .text r.file),
  ("line", .int r.line),
  ("message", .text r.message),
  ("scheduled", match r.scheduled with | none => .null | some t => .text t.iso),
  ("date", .text r.date),
  ("time", .text r.time)]

end Reminder

/-- The reminders known so far, in the order they were found. -/
structure Store where
  toList : List Reminder
deriving DecidableEq

namespace Store

def empty : Store := ⟨[]⟩

instance : Inhabited Store := ⟨empty⟩

def size (s : Store) : Nat := s.toList.length

def append (s : Store) (rs : List Reminder) : Store := ⟨s.toList ++ rs⟩

def push (s : Store) (r : Reminder) : Store := s.append [r]

def removeFile (s : Store) (file : String) : Store := ⟨s.toList.filter (·.file ≠ file)⟩

def ofFile (s : Store) (file : String) : List Reminder := s.toList.filter (·.file = file)

@[simp] theorem toList_empty : empty.toList = [] := rfl

@[simp] theorem toList_append (s : Store) (rs : List Reminder) :
    (s.append rs).toList = s.toList ++ rs := rfl

@[simp] theorem toList_removeFile (s : Store) (file : String) :
    (s.removeFile file).toList = s.toList.filter (·.file ≠ file) := rfl

theorem ofFile_append (s : Store) (rs : List Reminder) (file : String) :
    (s.append rs).ofFile file = s.ofFile file ++ rs.filter (·.file = file) := by
  simp [ofFile]

theorem ofFile_removeFile_self (s : Store) (file : String) :
    (s.removeFile file).ofFile file = [] := by
  simp [ofFile, List.filter_filter]

theorem ofFile_removeFile_of_ne (s : Store) {file other : String} (h : other ≠ file) :
    (s.removeFile file).ofFile other = s.ofFile other := by
  simp only [ofFile, toList_removeFile, List.filter_filter]
  apply List.filter_congr
  intro r _
  by_cases hr : r.file = other <;> simp [hr, h]

end Store
end ReminderScan
