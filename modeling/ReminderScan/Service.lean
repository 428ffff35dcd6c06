import ReminderScan.Workspace.Scan

/-! The triggers by which an editor, a terminal or a watcher has reminders looked for. Each changes
the store and tells what happens; the files are only read. -/

namespace ReminderScan

structure Service where
  settings : Settings
  store : Store

/-- What a trigger leaves: its answer or a fault, the service after it, and what was told. What
happened before a fault stands. -/
structure Outcome (α : Type) where
  answer : Except Fault α
  service : Service
  events : List Event

inductive Trigger where
  | saved
  | opened
deriving DecidableEq, Repr

def Trigger.name : Trigger → String
  | saved => "saved"
  | opened => "opened"

namespace Service

def record (level : Level) (text : String) : Event :=
  .log ⟨"code_nudger.annotations.service", level, text⟩

def withStore (s : Service) (store : Store) : Service := { s with store }

def scanLines (s : Service) (h : Host) (file : String) (lines : List (List Char)) (notify : Bool) :
    Outcome Bool :=
  let findings := Document.scan (WorkspaceScan.rules s.settings) h.now file lines notify
  ⟨.ok findings.any, s.withStore (s.store.append findings.reminders), findings.events⟩

def scanFile (s : Service) (h : Host) (path : String) (notify : Bool) : Outcome Bool :=
  let file := h.absolute path
  match h.readDocument file with
  | .error f => ⟨.error f, s, []⟩
  | .ok text => s.scanLines h file (Text.lines text) notify

/-- Drops what is known of a file, if the settings ask for that before it is read again. -/
def prune (s : Service) (file : String) : Service × List Event :=
  if s.settings.pruneOnRescan.isTruthy then
    let after := s.withStore (s.store.removeFile file)
    let removed := s.store.size - after.store.size
    (after, if removed = 0 then []
      else [record .debug s!"Pruned {removed} stale reminders for {file}"])
  else (s, [])

/-- A document was saved or opened: it is read, and the user hears if nothing is found in it or it
cannot be read. -/
def documentChanged (s : Service) (h : Host) (trigger : Trigger) (path : String) : Outcome Bool :=
  let file := h.absolute path
  let start := record .debug s!"Document {trigger.name}: {file}"
  let (pruned, pruneEvents) := s.prune file
  let scan := pruned.scanFile h file true
  let before := start :: pruneEvents ++ scan.events
  match scan.answer with
  | .ok found => ⟨.ok found, scan.service, before⟩
  | .error (.unreadable path reason) =>
    ⟨.ok false, scan.service, before ++
      [record .error s!"Error scanning file {file}: {(Fault.unreadable path reason).message}",
        .info s!"Could not read {Path.baseName file}."]⟩
  | .error f => ⟨.error f, scan.service, before⟩

/-- Searches a whole workspace: the reminders found take the place of all others. Without a
directory, or with one that is missing, nothing changes but that the user hears of it. -/
def scanRoot (s : Service) (h : Host) (root : Option String) : Outcome (Option WorkspaceScan) :=
  match root with
  | none => ⟨.ok none, s, [.info "No workspace is open."]⟩
  | some "" => ⟨.ok none, s, [.info "No workspace is open."]⟩
  | some root =>
    let root := h.absoluteUser root
    if !h.isDirectory root then ⟨.ok none, s, [.info s!"Workspace not found: {root}"]⟩
    else
      match candidates h root s.settings.extensions s.settings.excluded with
      | .error f => ⟨.error f, s.withStore .empty, []⟩
      | .ok files =>
        let start :=
          WorkspaceScan.record .debug s!"Found {files.length} candidate files under {root}"
        let (search, fault) := Search.visitAll h s.settings ⟨.empty, { root }, [start]⟩ files
        match fault with
        | some f => ⟨.error f, s.withStore search.store, search.events⟩
        | none =>
          ⟨.ok (some search.scan), s.withStore search.store,
            search.events ++ [.info "Workspace scan complete."]⟩

/-- Searches the given workspace, or the one that the settings name. -/
def scanWorkspace (s : Service) (h : Host) (root : Option String) :
    Outcome (Option WorkspaceScan) :=
  s.scanRoot h (match root with | some root => some root | none => s.settings.root)

end Service
end ReminderScan
