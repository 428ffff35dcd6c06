import ReminderScan.FileTree.Below
import ReminderScan.Host.Basic

/-! Lists of what a machine holds below a directory, in the order of code points. -/

namespace ReminderScan

def pathBelow (top : String) (names : List Name) : String :=
  String.ofList (Path.join top.toList (FileTree.joined names))

namespace Host

def sortTexts (texts : List String) : List String := texts.mergeSort fun a b => decide (a ≤ b)

/-- The place of a directory that is to be searched. There is none if nothing or no directory is
there; only a NUL in the path is a fault. -/
def searchRoot? (h : Host) (path : String) : Except Fault (Option Place) :=
  match h.locate true path with
  | .error .nullByte => .error .nullByte
  | .ok (.taken place .directory) => .ok (some place)
  | _ => .ok none

/-- The entry with this path counts as a directory: it is one, or a link and the path leads to
one. -/
def countsAsDirectory (h : Host) (path : String) : Node → Bool
  | .directory => true
  | .file .. => false
  | .link _ => h.isDirectory path

/-- Every entry below a directory, by its names from there on. Directories, and links to them, end
in a slash. -/
def listing (h : Host) (path : String) : Except Fault (List String) := do
  match ← h.searchRoot? path with
  | none => .ok []
  | some root =>
    .ok (sortTexts ((h.tree.below (fun _ => true) root).map fun (names, node) =>
      String.ofList (FileTree.joined names ++
        if h.countsAsDirectory (pathBelow path names) node then ['/'] else [])))

end Host
end ReminderScan
