import ReminderScan.CommandLine.Reach
import ReminderScan.FileTree.Changes
import ReminderScan.Host.Basic
import ReminderScan.Workspace.Candidates

/-! The files of the real machine: reading as much of them as is needed into a tree, and carrying
out the changes made to a tree. What cannot be read counts as missing. -/

namespace ReminderScan.Disk

def pathOf (place : Place) : String := String.ofList ('/' :: FileTree.joined place)

def entryAt (place : Place) : IO.FS.DirEntry :=
  let name := match place.getLast? with | some name => name.val | none => "."
  ⟨⟨pathOf place.dropLast⟩, name⟩

def seconds (t : IO.FS.SystemTime) : Number.Binary64 :=
  let nanoseconds : Int := t.sec * 1000000000 + t.nsec.toNat
  .ofRatio (nanoseconds < 0) nanoseconds.natAbs 1000000000

/-- The file at a place. Its bytes are read only if `whole` says so, and not again if the older tree
has the file with the same time of change. -/
def readFile (older : FileTree) (place : Place) (whole : Bool) (data : IO.FS.Metadata) :
    IO Node := do
  let modified := seconds data.modified
  let known := match older.get? place with
    | some (.file bytes time) => if time = modified && !bytes.isEmpty then some bytes else none
    | _ => none
  match known with
  | some bytes => return .file bytes modified
  | none =>
    if whole then return .file (← IO.FS.readBinFile (entryAt place).path).toList modified
    else return .file [] modified

/-- Where the link at a place leads in the end. One that leads nowhere is given a free name. -/
def linkTarget (place : Place) : IO String := do
  try return (← IO.FS.realPath (entryAt place).path).toString
  catch _ => return pathOf place ++ ".missing"

def look? (older : FileTree) (place : Place) (whole : Bool) : IO (Option Node) := do
  try
    let data ← (entryAt place).path.symlinkMetadata
    match data.type with
    | .dir => return some .directory
    | .symlink => return some (.link (← linkTarget place))
    | _ => return some (← readFile older place whole data)
  catch _ => return none

/-- Reads what stands on the way that names lead from a place, links included. -/
partial def readWay (older : FileTree) (t : FileTree) (here : Place) : List String → IO FileTree
  | [] => return t
  | step :: rest => do
    if step = "" || step = "." then readWay older t here rest
    else if step = ".." then readWay older t here.dropLast rest
    else if h : ValidName step then
      let place := here ++ [⟨step, h⟩]
      match ← look? older place true with
      | none => return t
      | some node =>
        let t := t.insert place node
        match node with
        | .directory => readWay older t place rest
        | .file .. => return t
        | .link target =>
          readWay older t (if target.toList.head? = some '/' then [] else here)
            (stepsOf target ++ rest)
    else return t

/-- Reads what stands on the way of a path, and on the way of its shortest form. -/
def readPath (older : FileTree) (h : Host) (path : String) : IO Host := do
  let full := String.ofList (Path.join h.directory.toList (h.expandUser path).toList)
  let t ← readWay older h.tree [] (stepsOf full)
  return { h with tree := ← readWay older t [] (stepsOf (h.absoluteUser path)) }

/-- Reads what is below a directory, without entering directories with an excluded name. The bytes
of files are read only if they have one of the extensions; what is in the tree already stays as it
is. -/
partial def readBelow (older : FileTree) (extensions excluded : List String) (t : FileTree)
    (place : Place) : IO FileTree := do
  let entries ← (try (entryAt place).path.readDir catch _ => return #[])
  let mut t := t
  for entry in entries do
    if h : ValidName entry.fileName then
      let there := place ++ [⟨entry.fileName, h⟩]
      let node ← match t.get? there with
        | some node => pure (some node)
        | none => look? older there (hasExtension extensions entry.fileName)
      match node with
      | none => pure ()
      | some node =>
        t := t.insert there node
        match node with
        | .directory =>
          if !excluded.contains entry.fileName then
            t ← readBelow older extensions excluded t there
        | .file .. => pure ()
        | .link target =>
          t ← readWay older t (if target.toList.head? = some '/' then [] else place)
            (stepsOf target)
  return t

def readSearched (older : FileTree) (h : Host) (s : CommandLine.Searched) : IO Host := do
  let h ← readPath older h s.root
  match h.locate true (h.absoluteUser s.root) with
  | .ok (.taken place .directory) =>
    return { h with tree := ← readBelow older s.extensions s.excluded h.tree place }
  | _ => return h

/-- Puts what a node is at a place. A file is written beside it first, so that it is never half
there. -/
def put (place : Place) : Node → IO Unit
  | .directory => IO.FS.createDir (entryAt place).path
  | .file bytes _ => do
    let target := (entryAt place).path
    let beside := (entryAt (place.dropLast)).path.join ⟨".tmp_" ++ (entryAt place).fileName⟩
    IO.FS.writeBinFile beside ⟨bytes.toArray⟩
    IO.FS.rename beside target
  | .link _ => return ()

def carryOut (before after : FileTree) : IO Unit := do
  for (place, node) in FileTree.removed before after do
    match node with
    | .directory => IO.FS.removeDir (entryAt place).path
    | _ => IO.FS.removeFile (entryAt place).path
  for (place, node) in FileTree.placed before after do
    put place node

end ReminderScan.Disk
