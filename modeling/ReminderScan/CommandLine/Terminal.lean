import ReminderScan.Journal

/-! What a terminal shows of the events of a run, on its two outputs. -/

namespace ReminderScan.CommandLine

structure Terminal where
  /-- All records of the log are shown, with their time and source; else only those that matter. -/
  verbose : Bool
  timeText : String
  traceText : String

namespace Terminal

def output : Event → String
  | .notice n => if n.isWarning then "" else n.terminalLine
  | .printed text => text
  | _ => ""

def recordLine (t : Terminal) (r : LogRecord) : String :=
  if t.verbose then s!"{t.timeText} - {r.source} - {r.level.name} - {r.text}\n"
  else if r.level = .debug then ""
  else r.text ++ "\n"

def errors (t : Terminal) : Event → String
  | .notice n => if n.isWarning then n.terminalLine else ""
  | .log r => t.recordLine r
  | .complained text => text
  | .trace => t.traceText
  | _ => ""

def allOutput (events : List Event) : String := String.join (events.map output)

def allErrors (t : Terminal) (events : List Event) : String := String.join (events.map t.errors)

end Terminal
end ReminderScan.CommandLine
