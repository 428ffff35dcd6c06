import ReminderScan.Fault
import ReminderScan.Reminder

/-! What a program tells while it runs: notices for the user, records for a log, and printed lines,
all in the order they arise. -/

namespace ReminderScan

structure Notice where
  severity : String
  text : String
deriving DecidableEq

namespace Notice

def info (text : String) : Notice := ⟨"info", text⟩

def warning (text : String) : Notice := ⟨"warning", text⟩

/-- The notice warns; every other severity informs. -/
def isWarning (n : Notice) : Bool := n.severity = "warning"

def terminalLine (n : Notice) : String :=
  (if n.isWarning then "⚠️  " else "CodeNudger: ") ++ n.text ++ "\n"

end Notice

inductive Level where
  | debug
  | warning
  | error
deriving DecidableEq, Repr

def Level.name : Level → String
  | debug => "DEBUG"
  | warning => "WARNING"
  | error => "ERROR"

/-- A record of the log. `source` names the part of the program that wrote it. -/
structure LogRecord where
  source : String
  level : Level
  text : String
deriving DecidableEq

inductive Event where
  | notice (n : Notice)
  | log (r : LogRecord)
  | printed (text : String)
  | complained (text : String)
  | trace
  /-- The list of the day is to be shown anew from these reminders. -/
  | refresh (store : Store) (day : Calendar.Date)
  | rest (seconds : Number.Binary64)
deriving DecidableEq

namespace Event

def info (text : String) : Event := .notice (.info text)

def warning (text : String) : Event := .notice (.warning text)

def line (text : String) : Event := .printed (text ++ "\n")

def notices (events : List Event) : List Notice :=
  events.filterMap fun | .notice n => some n | _ => none

/-- The records among events that matter without being asked for. -/
def warnings (events : List Event) : List LogRecord :=
  events.filterMap fun | .log r => if r.level = .debug then none else some r | _ => none

end Event

inductive Notifier where
  | console
  | collecting
  /-- Nothing is said about them; such a notifier takes none. -/
  | unspecified
deriving DecidableEq, Repr

/-- A notifier takes a notice, after those that it took before. -/
def Notifier.emit (kind : Notifier) (before : List Notice) (n : Notice) :
    Except Fault (List Notice) :=
  match kind with
  | .unspecified => .error .notImplemented
  | _ => .ok (before ++ [n])

/-- Drops the notices kept so far; only a notifier that keeps them can. -/
def Notifier.clear? (kind : Notifier) : Option (List Notice) :=
  match kind with
  | .collecting => some []
  | _ => none

end ReminderScan
