import ReminderScan.Host.Listing
import ReminderScan.Text.LowerCase

/-! The files that a search looks into: those below a directory that have one of the extensions. -/

namespace ReminderScan

open Text

/-- The name has one of the extensions; capitals and small letters count the same. -/
def hasExtension (extensions : List String) (name : String) : Bool :=
  match Path.extension? name.toList with
  | none => false
  | some extension => (extensions.map fun e => lower e.toList).contains (lower extension)

def directoryPath (top : String) : List Name → String
  | [] => top
  | name :: rest => pathBelow top (name :: rest)

/-- The path of the directory is short enough for a machine to say what is in it. -/
def canList (top : String) (way : List Name) : Bool :=
  (directoryPath top way).utf8ByteSize < pathLimit

/-- The entry is a file in a directory that can be listed, by its last name one of those that are
looked into. -/
def isCandidate (h : Host) (extensions : List String) (top : String)
    (entry : List Name × Node) : Bool :=
  canList top entry.1.dropLast && !h.countsAsDirectory (pathBelow top entry.1) entry.2 &&
    match entry.1.getLast? with
    | some name => hasExtension extensions name.val
    | none => false

/-- The files to look into below a directory, in the order of their paths. Directories with one of
the excluded names are not entered, at any depth, and in one whose path is too long nothing is
found. -/
def candidates (h : Host) (root : String) (extensions excluded : List String) :
    Except Fault (List String) := do
  let top := h.absolute root
  match ← h.searchRoot? top with
  | none => .ok []
  | some place =>
    let entries := h.tree.below (fun name => !excluded.contains name) place
    .ok (Host.sortTexts
      ((entries.filter (isCandidate h extensions top)).map fun e => pathBelow top e.1))

end ReminderScan
