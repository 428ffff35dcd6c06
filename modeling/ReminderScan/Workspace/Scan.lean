import ReminderScan.Document
import ReminderScan.Settings.Basic
import ReminderScan.Workspace.Candidates

/-! Looking into every file of a workspace, one after another. What is known, counted and told so
far goes from file to file; a file that cannot be read is counted and left behind. -/

namespace ReminderScan

open Text

structure WorkspaceScan where
  root : String
  scanned : Nat := 0
  skipped : Nat := 0
  failed : Nat := 0
  found : Nat := 0
  failedPaths : List String := []
deriving DecidableEq

/-- A search under way: the reminders, the counts and what was told so far. -/
structure Search where
  store : Store
  scan : WorkspaceScan
  events : List Event

namespace WorkspaceScan

def record (level : Level) (text : String) : Event :=
  .log ⟨"code_nudger.annotations.workspace", level, text⟩

def rules (s : Settings) : DocumentRules := ⟨s.defaultTime, s.reportInvalid.isTruthy⟩

/-- The document holds the marker. A marker that counts as false is never there, and one that is no
text cannot be looked for. -/
def holdsMarker (marker : Json.Value) (document : List Char) : Except Fault Bool :=
  if !marker.isTruthy then .ok false
  else
    match marker with
    | .text s => .ok (optsOut s.toList document)
    | v => .error (.notSearchable v.kindName)

end WorkspaceScan

namespace Search

def skip (p : Search) (path : String) : Search where
  store := p.store
  scan := { p.scan with skipped := p.scan.skipped + 1 }
  events := p.events ++ [WorkspaceScan.record .debug s!"Skipping {path} (opt-out marker)"]

def fail (p : Search) (path : String) (fault : Fault) : Search where
  store := p.store
  scan := { p.scan with
    failed := p.scan.failed + 1
    failedPaths := p.scan.failedPaths ++ [path] }
  events := p.events ++
    [WorkspaceScan.record .error s!"Error scanning file {path}: {fault.message}"]

/-- Adds what was found in a file, and counts by how much the store grew. -/
def add (p : Search) (findings : Findings) : Search :=
  let store := p.store.append findings.reminders
  { store
    scan := { p.scan with
      scanned := p.scan.scanned + 1
      found := p.scan.found + (store.size - p.store.size) }
    events := p.events ++ findings.events }

def visit (h : Host) (s : Settings) (p : Search) (path : String) : Except Fault Search :=
  match h.readDocument path with
  | .error (.unreadable file reason) => .ok (p.fail path (.unreadable file reason))
  | .error f => .error f
  | .ok text =>
    match WorkspaceScan.holdsMarker s.marker text with
    | .error f => .error f
    | .ok true => .ok (p.skip path)
    | .ok false =>
      .ok (p.add (Document.scan (WorkspaceScan.rules s) h.now path (lines text) false))

/-- Looks into files one after another. A fault ends the search; what came before it is kept. -/
def visitAll (h : Host) (s : Settings) : Search → List String → Search × Option Fault
  | p, [] => (p, none)
  | p, path :: rest =>
    match p.visit h s path with
    | .error f => (p, some f)
    | .ok p => visitAll h s p rest

end Search
end ReminderScan
