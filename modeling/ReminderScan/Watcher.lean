import ReminderScan.Service

/-! Watching a workspace: the times of change of its files are compared from look to look, and what
is new or changed is read again. -/

namespace ReminderScan

/-- The files of a look, in the order of their paths, with their times of change. -/
abbrev Snapshot := List (String × Number.Binary64)

/-- What is watched, and what the last look saw. -/
structure Watcher where
  root : String
  extensions : List String
  excluded : List String
  seen : Snapshot := []

/-- What a look found: files that are new, and files with another time of change. -/
structure Changes where
  opened : List String
  saved : List String
deriving DecidableEq

def Changes.isEmpty (c : Changes) : Bool := c.opened.isEmpty && c.saved.isEmpty

namespace Watcher

def new (h : Host) (root : String) (extensions excluded : List String) : Watcher :=
  { root := h.absoluteUser root, extensions, excluded }

/-- The files there are now. One whose time of change cannot be told is left out. -/
def snapshot (w : Watcher) (h : Host) : Except Fault Snapshot := do
  let files ← candidates h w.root w.extensions w.excluded
  .ok (files.filterMap fun path =>
    match h.openFile path with
    | .ok (_, modified) => some (path, modified)
    | .error _ => none)

def prime (w : Watcher) (h : Host) : Except Fault Watcher := do
  let seen ← w.snapshot h
  .ok { w with seen }

def changes (before now : Snapshot) : Changes where
  opened := (now.filter fun e => (before.lookup e.1).isNone).map (·.1)
  saved := (now.filter fun e =>
    match before.lookup e.1 with
    | none => false
    | some modified => e.2 ≠ modified).map (·.1)

def poll (w : Watcher) (h : Host) : Except Fault (Changes × Watcher) := do
  let now ← w.snapshot h
  .ok (changes w.seen now, { w with seen := now })

end Watcher

namespace Service

def serveAll (s : Service) (h : Host) : List (Trigger × String) → Outcome Unit
  | [] => ⟨.ok (), s, []⟩
  | (trigger, path) :: rest =>
    let first := s.documentChanged h trigger path
    match first.answer with
    | .error f => ⟨.error f, first.service, first.events⟩
    | .ok _ =>
      let others := first.service.serveAll h rest
      { others with events := first.events ++ others.events }

/-- Serves what a look found, the new files first, and says how many triggers that were. -/
def dispatch (s : Service) (h : Host) (c : Changes) : Outcome Nat :=
  let served := s.serveAll h (c.opened.map (Trigger.opened, ·) ++ c.saved.map (Trigger.saved, ·))
  { served with answer := served.answer.map fun _ => c.opened.length + c.saved.length }

end Service

structure Watch where
  watcher : Watcher
  service : Service
  dispatched : Nat := 0

/-- What a part of a watch leaves: whether it went well, the watch after it, and what was told. -/
structure WatchStep where
  fault : Option Fault
  watch : Watch
  events : List Event

namespace Watch

def record (level : Level) (text : String) : Event :=
  .log ⟨"code_nudger.annotations.watcher", level, text⟩

def start (w : Watch) (h : Host) : WatchStep :=
  let scan := w.service.scanWorkspace h (some w.watcher.root)
  let w := { w with service := scan.service }
  match scan.answer with
  | .error f => ⟨some f, w, scan.events⟩
  | .ok _ =>
    match w.watcher.prime h with
    | .error f => ⟨some f, w, scan.events⟩
    | .ok watcher =>
      ⟨none, { w with watcher }, scan.events ++ [.refresh w.service.store h.now.date]⟩

/-- Looks once, serves what it finds, and shows the list of the day anew if that was anything. -/
def cycle (w : Watch) (h : Host) : WatchStep :=
  match w.watcher.poll h with
  | .error f => ⟨some f, w, []⟩
  | .ok (changes, watcher) =>
    let w := { w with watcher }
    if changes.isEmpty then ⟨none, w, []⟩
    else
      let found := record .debug
        s!"Detected {changes.opened.length} new and {changes.saved.length} modified files"
      let served := w.service.dispatch h changes
      let w := { w with service := served.service }
      match served.answer with
      | .error f => ⟨some f, w, found :: served.events⟩
      | .ok count =>
        ⟨none, { w with dispatched := w.dispatched + count },
          found :: served.events ++ [.refresh served.service.store h.now.date]⟩

/-- What happens to the machine while a program rests, and the fault that ends the rest if there is
one. -/
abbrev Pause := Host → Host × Option Fault

/-- What a watch leaves: its faults and events, and the machine. -/
structure Run extends WatchStep where
  host : Host

/-- Rests and looks until the cycles are used up, or for ever if their number is not given. When no
more pauses are left the next one is broken off by the user. -/
def loop (interval : Number.Binary64) : List Pause → (cycles : Option Nat) → Host → Watch → Run
  | _, some 0, h, w => ⟨⟨none, w, []⟩, h⟩
  | [], _, h, w => ⟨⟨some .interrupted, w, [.rest interval]⟩, h⟩
  | pause :: pauses, cycles, h, w =>
    match pause h with
    | (h, some f) => ⟨⟨some f, w, [.rest interval]⟩, h⟩
    | (h, none) =>
      let step := w.cycle h
      match step.fault with
      | some f => ⟨⟨some f, step.watch, .rest interval :: step.events⟩, h⟩
      | none =>
        let later := loop interval pauses (cycles.map (· - 1)) h step.watch
        { later with events := .rest interval :: step.events ++ later.events }

def run (interval : Number.Binary64) (pauses : List Pause) (cycles : Option Nat) (h : Host)
    (w : Watch) : Run :=
  let first := w.start h
  match first.fault with
  | some f => ⟨⟨some f, first.watch, first.events⟩, h⟩
  | none =>
    let later := loop interval pauses cycles h first.watch
    { later with events := first.events ++ later.events }

end Watch
end ReminderScan
