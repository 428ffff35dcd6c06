import ReminderScan.Fault
import ReminderScan.FileTree.Basic

/-! Following the names of a path through a tree of files, links included. -/

namespace ReminderScan

/-- Where a path leads: to something, or to a free name in a directory. -/
inductive Spot where
  | taken (place : Place) (node : Node)
  /-- `slash` says that the path ends with a slash and so asks for a directory. -/
  | free (directory : Place) (name : Name) (slash : Bool)

/-- The names of a path as they are followed. The empty name at the end of a path that ends with a
slash is kept; it asks for a directory like a dot. -/
def stepsOf (path : String) : List String :=
  let names := path.toList.splitOn '/'
  let steps := names.filter (· ≠ [])
  (steps ++ (if names.getLast? = some [] && !steps.isEmpty then [[]] else [])).map String.ofList

/-- A path with this many bytes is too long. -/
def pathLimit : Nat := 4096

def linkLimit : Nat := 40

/-- How far names lead without following a link: to their end, or to a link in the way, from which
to go on at a place with other names. -/
inductive Stride where
  | arrived (spot : Spot)
  | detour (here : Place) (steps : List String)

namespace FileTree

/-- Follows names from a place on up to the first link that has to be followed. A link at the end is
followed only if `follow` says so. -/
def stride (t : FileTree) (follow : Bool) (here : Place) : List String → Except SystemError Stride
  | [] =>
    match t.get? here with
    | some node => .ok (.arrived (.taken here node))
    | none => .error .notFound
  | step :: rest =>
    if !t.isDirectory here then .error .notDirectory
    else if step = "" || step = "." then t.stride follow here rest
    else if step = ".." then t.stride follow here.dropLast rest
    else if nameLimit < step.utf8ByteSize then .error .nameTooLong
    else if h : ValidName step then
      match t.get? (here ++ [⟨step, h⟩]) with
      | none =>
        if rest = [] || rest = [""] then .ok (.arrived (.free here ⟨step, h⟩ (rest ≠ [])))
        else .error .notFound
      | some (.link target) =>
        if rest = [] && !follow then .ok (.arrived (.taken (here ++ [⟨step, h⟩]) (.link target)))
        else
          .ok (.detour (if target.toList.head? = some '/' then [] else here)
            (stepsOf target ++ rest))
      | some _ => t.stride follow (here ++ [⟨step, h⟩]) rest
    else .error .notFound

/-- Follows names from a place on. A link in the way is replaced by the path it holds, at most as
many times as `links` says. -/
def walk (t : FileTree) (follow : Bool) (links : Nat) (here : Place) (steps : List String) :
    Except SystemError Spot :=
  match t.stride follow here steps with
  | .error e => .error e
  | .ok (.arrived spot) => .ok spot
  | .ok (.detour here steps) =>
    match links with
    | 0 => .error .tooManyLinks
    | links + 1 => t.walk follow links here steps

end FileTree
end ReminderScan
