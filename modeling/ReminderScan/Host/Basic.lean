import ReminderScan.Calendar.Timestamp
import ReminderScan.FileTree.Resolve
import ReminderScan.Path

/-! The machine that a program runs on: its files, the current directory, the environment and the
clock. Nothing here changes it. -/

namespace ReminderScan

/-- What a program sees of its machine. -/
structure Host where
  tree : FileTree
  /-- The current directory, as an absolute path. -/
  directory : String
  /-- The variables of the environment that are set. -/
  environment : List (String × String)
  /-- The home directory of the user as the machine knows it. -/
  ownHome : String
  /-- The home directories of the users that the machine knows by name. -/
  homes : List (String × String)
  platform : String
  now : Calendar.Timestamp
  /-- The time of change that a file written now gets, in whole seconds. -/
  stamp : Nat
  /-- Where an object of the program lies in memory, as far as the program shows it. -/
  objectAddress : String := "0x7f0000000000"

namespace Host

def lookupVariable (h : Host) (name : String) : Option String := h.environment.lookup name

/-- The home directory of the user: what the environment says, or what the machine knows. -/
def home (h : Host) : String := (h.lookupVariable "HOME").getD h.ownHome

def dropSlashes (path : List Char) : List Char := (path.reverse.dropWhile (· = '/')).reverse

/-- The name of the user whose home directory a tilde at the start of a path stands for. It is empty
for the own one. -/
def userOf : List Char → List Char
  | '~' :: rest => rest.takeWhile (· ≠ '/')
  | _ => []

/-- The path with a home directory in place of the tilde at its start, or of the tilde and the name
of a user. The path stays as it is if the user is not known. -/
def expandUser (h : Host) (path : String) : String :=
  match path.toList with
  | '~' :: rest =>
    let user := String.ofList (rest.takeWhile (· ≠ '/'))
    let rest := rest.dropWhile (· ≠ '/')
    match if user = "" then some h.home else h.homes.lookup user with
    | none => path
    | some home =>
      let full := dropSlashes home.toList ++ rest
      if full.isEmpty then "/" else String.ofList full
  | _ => path

def absolute (h : Host) (path : String) : String := Path.absolute h.directory path

def absoluteUser (h : Host) (path : String) : String := h.absolute (h.expandUser path)

def locate (h : Host) (follow : Bool) (path : String) : Except Fault Spot :=
  if '\x00' ∈ path.toList then .error .nullByte
  else if path = "" then .error (.system .notFound path none)
  else if pathLimit ≤ path.utf8ByteSize then .error (.system .nameTooLong path none)
  else
    let full := String.ofList (Path.join h.directory.toList path.toList)
    match h.tree.walk follow linkLimit [] (stepsOf full) with
    | .ok spot => .ok spot
    | .error e => .error (.system e path none)

def pathExists (h : Host) (path : String) : Bool :=
  match h.locate true path with
  | .ok (.taken ..) => true
  | _ => false

def isDirectory (h : Host) (path : String) : Bool :=
  match h.locate true path with
  | .ok (.taken _ .directory) => true
  | _ => false

/-- The path from the root on. For a path that is seen from the current directory this has to be
there. -/
def absolute? (h : Host) (path : String) : Except Fault String :=
  if path.toList.head? ≠ some '/' && !h.isDirectory h.directory then .error .noDirectory
  else .ok (h.absolute path)

/-- The path from the root on, after a tilde at its start is replaced. A user whose name holds a NUL
cannot be asked for. -/
def absoluteUser? (h : Host) (path : String) : Except Fault String :=
  if '\x00' ∈ userOf path.toList then .error .nullByte else h.absolute? (h.expandUser path)

def openFile (h : Host) (path : String) : Except Fault (List UInt8 × Number.Binary64) :=
  match h.locate true path with
  | .error f => .error f
  | .ok (.taken _ (.file bytes modified)) => .ok (bytes, modified)
  | .ok (.taken _ .directory) => .error (.system .isDirectory path none)
  | .ok _ => .error (.system .notFound path none)

end Host
end ReminderScan
