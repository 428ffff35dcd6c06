import ReminderScan.Host.Edit
import ReminderScan.Json.Output
import ReminderScan.Reminder

/-! Writing a document in one step: it is written to a temporary file beside its target and then
moved there, so the target is never half written. -/

namespace ReminderScan

open Text

/-- The object that an export holds: the reminders, how many there are, and how many of them can
never be due. -/
def exportJson (store : Store) : Json.Value := .object [
  ("reminders", .list (store.toList.map Reminder.toJson)),
  ("summary", .object [
    ("total", .int store.size),
    ("invalid", .int (store.toList.countP fun r => !r.isValid))])]

namespace Export

def temporaryName (n : Nat) : String :=
  String.ofList (".tmp_".toList ++ Number.padded 8 n ++ ".json".toList)

/-- The first path of a temporary file that is free in a directory and has another name than the
given one. -/
def freePath (h : Host) (directory avoided : String) : String :=
  let path (n : Nat) : String :=
    String.ofList (Path.join (h.absolute directory).toList (temporaryName n).toList)
  let isFree (n : Nat) : Bool :=
    temporaryName n ≠ avoided &&
      match h.locate false (path n) with
      | .ok (.taken ..) => false
      | _ => true
  path (((List.range (h.tree.nodes.length + 2)).find? isFree).getD 0)

def cleanUp (h : Host) (path : String) : Host :=
  if h.pathExists path then (h.remove path).toOption.getD h else h

/-- Writes an output to a temporary file beside its target and moves it there. An output that a
fault ended leaves the temporary file behind, with what was written so far; one that cannot be moved
does not. -/
def writeThrough (h : Host) (target : Path.Names) (output : Json.Output) : Host.Attempt :=
  let path := freePath h target.parent.text (target.names.getLast?.getD "")
  match h.writeFile path [] with
  | .error f => ⟨h, some f⟩
  | .ok opened =>
    match opened.writeFile path (Utf8.encode output.text) with
    | .error f => ⟨opened, some f⟩
    | .ok written =>
      match output.fault with
      | some f => ⟨written, some f⟩
      | none =>
        match written.moveFile path target.text with
        | .ok moved => ⟨cleanUp moved path, none⟩
        | .error f => ⟨cleanUp written path, some f⟩

inductive Ending where
  | done
  | failed (f : Fault)
  /-- The directory could not be made; the caller has to deal with that. -/
  | refused (f : Fault)
deriving DecidableEq

/-- Writes an output to a path; a tilde at its start stands for a home directory. The directory is
made if it is missing. -/
def writeOutput (h : Host) (path : String) (output : Json.Output) : Host × Ending :=
  let names := Path.Names.ofText (h.expandUser path)
  let directory := names.parent
  let made := h.makeWithParents directory.slashes directory.names.reverse
  match made.fault with
  | some f => (made.host, .refused f)
  | none =>
    let written := writeThrough made.host names output
    (written.host, match written.fault with | none => .done | some f => .failed f)

def write (h : Host) (path : String) (layout : Json.Layout) (data : Json.Value) : Host × Ending :=
  writeOutput h path (data.output layout 0)

/-- Writes the reminders of a store to a path. The only numbers among them count lines and
reminders; these are never too long to be written, and no limit is set to them. -/
def writeReminders (h : Host) (path : String) (store : Store) : Host × Ending :=
  writeOutput h path (.ofText ((exportJson store).document (.export 2)))

def failureLine (h : Host) (path : String) (f : Fault) : String :=
  s!"Error writing to {h.expandUser path}: {f.message}"

end Export
end ReminderScan
