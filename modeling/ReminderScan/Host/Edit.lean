import ReminderScan.Host.Basic

/-! The ways to change the files of a machine. Each gives the changed machine or says why it
refused; then nothing is changed. -/

namespace ReminderScan.Host

def put (h : Host) (place : Place) (node : Node) : Host :=
  { h with tree := h.tree.insert place node }

def stampTime (h : Host) : Number.Binary64 := .ofRatio false h.stamp 1

/-- Writes a whole file: an old one is replaced, a free name is taken. -/
def writeFile (h : Host) (path : String) (bytes : List UInt8) : Except Fault Host :=
  match h.locate true path with
  | .error f => .error f
  | .ok (.taken place (.file ..)) => .ok (h.put place (.file bytes h.stampTime))
  | .ok (.free directory name false) => .ok (h.put (directory ++ [name]) (.file bytes h.stampTime))
  | .ok _ => .error (.system .isDirectory path none)

/-- The path without slashes at its end, unless it has nothing else. -/
def withoutLastSlashes (path : String) : String :=
  let short := dropSlashes path.toList
  if short.isEmpty then path else String.ofList short

def makeDirectory (h : Host) (path : String) : Except Fault Host :=
  match h.locate false (withoutLastSlashes path) with
  | .error (.system e _ _) => .error (.system e path none)
  | .error f => .error f
  | .ok (.free directory name _) => .ok (h.put (directory ++ [name]) .directory)
  | .ok (.taken ..) => .error (.system .alreadyExists path none)

def ensureDirectory (h : Host) (path : String) : Except Fault Host :=
  match h.makeDirectory path with
  | .ok h => .ok h
  | .error .nullByte => .error .nullByte
  | .error f => if h.isDirectory path then .ok h else .error f

/-- The paths on the way to a path as it is written, the shortest first, the path itself left
out. -/
def ancestors (path : String) : List String :=
  let path := dropSlashes path.toList
  (List.range path.length).filterMap fun n =>
    let head := path.take n
    if path[n]? = some '/' && head.getLast?.any (· ≠ '/') then some (String.ofList head) else none

/-- What an attempt that takes several steps leaves: the machine, with the steps done so far, and
the fault that ended it if there was one. -/
structure Attempt where
  host : Host
  fault : Option Fault

def attempt (h : Host) : Except Fault Host → Attempt
  | .ok h => ⟨h, none⟩
  | .error f => ⟨h, some f⟩

def Attempt.andThen (a : Attempt) (next : Host → Attempt) : Attempt :=
  match a.fault with
  | none => next a.host
  | some _ => a

/-- Makes those of the directories that nothing stands at. Something in the way that is no directory
is left for the next step to find. -/
def makeMissing (h : Host) : List String → Attempt
  | [] => ⟨h, none⟩
  | path :: rest =>
    if h.pathExists path then h.makeMissing rest
    else
      match h.ensureDirectory path with
      | .ok h => h.makeMissing rest
      | .error (.system .alreadyExists _ _) => h.makeMissing rest
      | .error f => ⟨h, some f⟩

/-- Makes a directory, and before it those on the way to it. -/
def makeDirectories (h : Host) (path : String) : Attempt :=
  (h.makeMissing (ancestors path)).andThen fun h => h.attempt (h.ensureDirectory path)

/-- Makes a directory; where that fails because the containing one is missing, makes that first. The
names of the path stand in reverse. -/
def makeWithParents (h : Host) (slashes : Nat) : List String → Attempt
  | [] => h.attempt (h.ensureDirectory (Path.Names.text ⟨slashes, []⟩))
  | name :: before =>
    let path := Path.Names.text ⟨slashes, (name :: before).reverse⟩
    match h.makeDirectory path with
    | .error (.system .notFound ..) =>
      (h.makeWithParents slashes before).andThen fun h => h.attempt (h.ensureDirectory path)
    | _ => h.attempt (h.ensureDirectory path)

def remove (h : Host) (path : String) : Except Fault Host :=
  match h.locate false path with
  | .error f => .error f
  | .ok (.taken _ .directory) => .error (.system .isDirectory path none)
  | .ok (.taken place _) => .ok { h with tree := h.tree.erase place }
  | .ok (.free ..) => .error (.system .notFound path none)

def removeAll (h : Host) (path : String) : Except Fault Host :=
  match h.locate false path with
  | .error f => .error f
  | .ok (.taken place _) => .ok { h with tree := h.tree.erase place }
  | .ok (.free ..) => .error (.system .notFound path none)

def makeLink (h : Host) (path target : String) : Except Fault Host :=
  let refuse (e : SystemError) : Except Fault Host := .error (.system e target (some path))
  if '\x00' ∈ target.toList then .error .nullByte
  else
    match h.locate false path with
    | .error .nullByte => .error .nullByte
    | spot =>
      if target = "" then refuse .notFound
      else if pathLimit ≤ target.utf8ByteSize then refuse .nameTooLong
      else
        match spot with
        | .error (.system e _ _) => refuse e
        | .error f => .error f
        | .ok (.free directory name false) => .ok (h.put (directory ++ [name]) (.link target))
        | .ok (.free _ _ true) => refuse .notFound
        | .ok (.taken ..) => refuse .alreadyExists

def touch (h : Host) (path : String) (modified : Number.Binary64) : Except Fault Host :=
  match h.locate true path with
  | .error f => .error f
  | .ok (.taken place (.file bytes _)) => .ok (h.put place (.file bytes modified))
  | .ok (.taken ..) => .ok h
  | .ok (.free ..) => .error (.system .notFound path none)

/-- The path ends in a dot, a pair of dots or the root, and so names no entry of a directory. -/
def namesNoEntry (path : String) : Bool :=
  match (stepsOf path).reverse with
  | [] => true
  | "" :: last :: _ => last = "." || last = ".."
  | last :: _ => last = "." || last = ".."

/-- Moves a file to another path in one step. What stood there before is gone; a directory is not
replaced. -/
def moveFile (h : Host) (source target : String) : Except Fault Host :=
  let refuse (e : SystemError) : Except Fault Host := .error (.system e source (some target))
  match h.locate false source, h.locate false target with
  | .error (.system e _ _), _ => refuse e
  | .error f, _ => .error f
  | _, .error (.system e _ _) => refuse e
  | _, .error f => .error f
  | .ok (.taken place node), .ok spot =>
    if namesNoEntry target then refuse .busy
    else
      match spot with
      | .taken _ .directory => refuse .isDirectory
      | .taken there _ => .ok { h with tree := (h.tree.erase place).insert there node }
      | .free directory name false =>
        .ok { h with tree := (h.tree.erase place).insert (directory ++ [name]) node }
      | .free _ _ true => refuse .notDirectory
  | .ok (.free ..), _ => refuse .notFound

end ReminderScan.Host
