import ReminderScan.Host.Basic
import ReminderScan.Journal
import ReminderScan.Text.Line
import ReminderScan.Text.Utf8

/-! The reminders of one document, and what is told while they are found. -/

namespace ReminderScan

open Calendar Text

structure DocumentRules where
  defaultTime : String
  /-- The user is warned of days and times that do not exist. -/
  reportInvalid : Bool

structure Findings where
  reminders : List Reminder
  events : List Event

def Findings.any (f : Findings) : Bool := !f.reminders.isEmpty

def truthText (b : Bool) : String := if b then "True" else "False"

namespace Document

def record (level : Level) (text : String) : Event :=
  .log ⟨"code_nudger.annotations.scanner", level, text⟩

/-- The reminders in the lines of a file, by the numbers of the lines from a first one on. -/
def remindersFrom (defaultTime file : String) (first : Nat) : List (List Char) → List Reminder
  | [] => []
  | line :: rest =>
    match Tag.read? defaultTime line with
    | some a => .ofTag file first a :: remindersFrom defaultTime file (first + 1) rest
    | none => remindersFrom defaultTime file (first + 1) rest

/-- The reminders in the lines of a file; the first line is number one. -/
def reminders (defaultTime file : String) (lines : List (List Char)) : List Reminder :=
  remindersFrom defaultTime file 1 lines

def lineText (r : Reminder) : String := String.ofList (Number.writtenInt r.line)

/-- What is told of one reminder: a warning if it is due, or that it can never be. -/
def eventsOf (rules : DocumentRules) (now : Timestamp) (r : Reminder) : List Event :=
  if !r.isValid then
    record .warning s!"Unparseable reminder date in {r.file}:{lineText r}: {r.date} [{r.time}]" ::
      if rules.reportInvalid then
        [.warning
          s!"Invalid reminder date in {r.fileName} (Line {lineText r}): {r.date} [{r.time}]"]
      else []
  else if r.isDue now then
    [.warning s!"Reminder due in {r.fileName} (Line {lineText r}): {r.message}"]
  else []

def scan (rules : DocumentRules) (now : Timestamp) (file : String) (lines : List (List Char))
    (notify : Bool) : Findings :=
  let found := reminders rules.defaultTime file lines
  let nothing := if found.isEmpty && notify then
    [Event.info s!"No reminders found in {Path.baseName file}."] else []
  { reminders := found
    events := found.flatMap (eventsOf rules now) ++ nothing ++
      [record .debug s!"Scanned {file} ({lines.length} lines, found={truthText !found.isEmpty})"] }

end Document

/-- The text of a file, with every line end as a line feed. -/
def Host.readText (h : Host) (path : String) : Except Fault (List Char) := do
  let (bytes, _) ← h.openFile path
  match Utf8.decode bytes with
  | .ok text => .ok (unifyLineEnds text)
  | .error cause => .error (.undecodable cause)

/-- The text of a document that is to be read for reminders. A file that cannot be opened or decoded
is an unreadable document. -/
def Host.readDocument (h : Host) (path : String) : Except Fault (List Char) :=
  match h.readText path with
  | .ok text => .ok text
  | .error f => .error (if f.isUnreadable then .unreadable path f.message else f)

end ReminderScan
