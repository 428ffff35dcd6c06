import ReminderScan.Document
import ReminderScan.Json.Output
import ReminderScan.Json.Parser
import ReminderScan.Settings.Basic
import ReminderScan.Settings.Home

/-! Settings in a file. A missing file and one that holds no object stand for the standard
settings. -/

namespace ReminderScan.Settings

open Text

def load (h : Host) (path : String) : Except Fault Settings :=
  let path := h.absoluteUser path
  if !h.pathExists path then .ok {}
  else do
    let text ← h.readText path
    match Json.parse text with
    | .error .malformed => .ok {}
    | .error (.tooManyDigits count) => .error (.tooManyDigits count)
    | .error .halfPair => .error .halfPair
    | .ok (.object members) => ofJson h (.object members)
    | .ok _ => .ok {}

/-- Settings from a path that is first given a form from the root on. -/
def loadNamed (h : Host) (path : String) : Except Fault Settings := do
  let _ ← h.absoluteUser? path
  load h path

/-- Opens a file, which empties it, and writes an output to it. What comes before a fault stays in
the file. -/
def writeOutput (h : Host) (path : String) (output : Json.Output) : Host.Attempt :=
  match h.writeFile path [] with
  | .error f => ⟨h, some f⟩
  | .ok opened =>
    match opened.writeFile path (Utf8.encode output.text) with
    | .error f => ⟨opened, some f⟩
    | .ok written => ⟨written, output.fault⟩

/-- Writes settings to a file. Directories on the way to it are made. -/
def save (s : Settings) (h : Host) (path : String) : Host.Attempt :=
  let path := h.absoluteUser path
  (h.makeDirectories (Path.parent path)).andThen fun h =>
    writeOutput h path (s.toJson.output .settings 0)

/-- Settings from the given file, or from the usual one, whose directory is found first unless it is
known. -/
def loadFrom (home : SettingsHome) (h : Host) : Option String → SettingsHome × Except Fault Settings
  | some path => (home, load h path)
  | none =>
    match home.directory h with
    | .error f => (home, .error f)
    | .ok (directory, home) => (home, load h (SettingsHome.fileIn directory))

/-- Writes settings to the given file, or to the usual one, whose directory is found and made
first. -/
def saveTo (s : Settings) (home : SettingsHome) (h : Host) :
    Option String → SettingsHome × Host.Attempt
  | some path => (home, s.save h path)
  | none =>
    match home.directory h with
    | .error f => (home, ⟨h, some f⟩)
    | .ok (directory, home) =>
      (home, (SettingsHome.ensure h directory).andThen fun h =>
        s.save h (SettingsHome.fileIn directory))

end ReminderScan.Settings
