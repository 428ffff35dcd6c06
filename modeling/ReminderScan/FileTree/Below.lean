import ReminderScan.FileTree.Resolve

/-! What stands below a directory, reached through directories only: links to directories are not
entered. -/

namespace ReminderScan

def relative? : Place → Place → Option (List Name)
  | [], place => some place
  | _ :: _, [] => none
  | n :: root, m :: place => if n = m then relative? root place else none

theorem relative?_eq_some_iff {root place : Place} {names : List Name} :
    relative? root place = some names ↔ place = root ++ names := by
  fun_induction relative? root place <;> simp_all
  intro h hh; simp_all

namespace FileTree

/-- Each of the names leads from one directory to the next. `enter` says which names are entered. -/
def isWay (t : FileTree) (enter : String → Bool) (here : Place) : List Name → Bool
  | [] => true
  | name :: rest =>
    enter name.val && t.isDirectory (here ++ [name]) && t.isWay enter (here ++ [name]) rest

/-- An entry below a place, by its names from there on, if the way to it is entered. -/
def entryBelow? (t : FileTree) (enter : String → Bool) (root : Place) :
    Place × Node → Option (List Name × Node)
  | (place, node) =>
    match relative? root place with
    | none => none
    | some [] => none
    | some (name :: rest) =>
      if t.isWay enter root (name :: rest).dropLast then some (name :: rest, node) else none

/-- The entries below a place, by their names from there on, as far as the way to them is
entered. -/
def below (t : FileTree) (enter : String → Bool) (root : Place) : List (List Name × Node) :=
  t.nodes.filterMap (t.entryBelow? enter root)

def joined (names : List Name) : List Char := List.intercalate ['/'] (names.map (·.val.toList))

end FileTree
end ReminderScan
