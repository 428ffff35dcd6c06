import ReminderScan.Host.Edit

/-! The directory that holds the settings of a user. A variable of the environment names it; else it
is the usual one of the system. Once found it is remembered. -/

namespace ReminderScan

/-- A step on the way of a path whose links are replaced by what they hold. -/
inductive LinkStep where
  | name (step : String)
  /-- All that the link at a place holds has been followed. -/
  | close (link : Place)

def LinkStep.names (steps : List LinkStep) : List String :=
  steps.filterMap fun | .name step => some step | .close _ => none

/-- The links that were opened on the way so far, and the names that those stand for which have been
followed to their end. -/
structure OpenedLinks where
  opened : List Place := []
  resolved : List (Place × List String) := []

/-- How far names lead without opening a link: to their end, or to a link that was not opened
before, which stands behind the names found so far. -/
inductive LinkStride where
  | arrived (names : List String)
  | detour (link : Place) (target : String) (links : OpenedLinks) (here : List String)
      (steps : List LinkStep)

/-- Follows names up to the first link that was not opened before. What does not exist is kept as it
is, and so is a link that leads back to itself, with all that follows it. -/
def strideLinks (h : Host) (links : OpenedLinks) (here : List String) : List LinkStep → LinkStride
  | [] => .arrived here
  | .close link :: rest =>
    strideLinks h { links with resolved := (link, here) :: links.resolved } here rest
  | .name step :: rest =>
    if step = "" || step = "." then strideLinks h links here rest
    else if step = ".." then strideLinks h links here.dropLast rest
    else
      let place := here ++ [step]
      match h.locate false (Path.Names.text ⟨1, place⟩) with
      | .ok (.taken link (.link target)) =>
        match links.resolved.lookup link with
        | some names => strideLinks h links names rest
        | none =>
          if link ∈ links.opened then
            .arrived ((Path.settle true [] ((place ++ LinkStep.names rest).map String.toList)).map
              String.ofList)
          else .detour link target links here rest
      | _ => strideLinks h links place rest

/-- Names that are left when links are replaced by what they hold. No link is opened twice, so as
many rounds as the tree has entries are enough. -/
def resolveNames (h : Host) :
    (rounds : Nat) → OpenedLinks → (here : List String) → List LinkStep → Option (List String)
  | rounds, links, here, steps =>
    match strideLinks h links here steps with
    | .arrived names => some names
    | .detour link target links here steps =>
      match rounds with
      | 0 => none
      | rounds + 1 =>
        resolveNames h rounds { links with opened := link :: links.opened }
          (if target.toList.head? = some '/' then [] else here)
          ((stepsOf target).map .name ++ .close link :: steps)

structure SettingsHome where
  directory? : Option String := none

namespace SettingsHome

def variableName : String := "CODE_NUDGER_HOME"

def directoryName : String := "code-nudger"

def fileName : String := "config.json"

/-- The home directory in place of a tilde that the first name of a path starts with. Here an
unknown user is a fault. -/
def expandHome (h : Host) (p : Path.Names) : Except Fault Path.Names :=
  match p.slashes, p.names with
  | 0, first :: rest =>
    if '\x00' ∈ Host.userOf first.toList then .error .nullByte
    else if first.toList.head? = some '~' then
      let home := h.expandUser first
      if home.toList.head? = some '~' then .error .unknownHome
      else
        let home := Path.Names.ofText home
        .ok { home with names := home.names ++ rest }
    else .ok p
  | _, _ => .ok p

/-- The path from the root on with all links replaced. A path that leads in a circle is refused. -/
def resolve (h : Host) (path : String) : Except Fault String :=
  if '\x00' ∈ path.toList then .error .nullByte
  else if path.toList.head? ≠ some '/' && !h.isDirectory h.directory then .error .noDirectory
  else
    let full := String.ofList (Path.join h.directory.toList path.toList)
    match resolveNames h h.tree.nodes.length {} [] ((stepsOf full).map .name) with
    | none => .error (.linkLoop path)
    | some names =>
      let resolved := Path.Names.text ⟨1, names⟩
      match h.locate true resolved with
      | .error (.system .tooManyLinks ..) => .error (.linkLoop path)
      | _ => .ok resolved

def usualDirectory (h : Host) : Except Fault String := do
  let withHome (names : List String) : Except Fault String := do
    let home ← expandHome h ⟨0, ["~"]⟩
    .ok ({ home with names := home.names ++ names ++ [directoryName] } : Path.Names).text
  if h.platform = "darwin" then withHome ["Library", "Application Support"]
  else if "win".toList.isPrefixOf h.platform.toList then
    match h.lookupVariable "APPDATA" with
    | some data =>
      if data ≠ "" then .ok ((Path.Names.ofText data).child directoryName).text
      else withHome ["AppData", "Roaming"]
    | none => withHome ["AppData", "Roaming"]
  else withHome [".config"]

/-- The directory that the environment and the system name. -/
def findDirectory (h : Host) : Except Fault String :=
  match h.lookupVariable variableName with
  | some named =>
    if named = "" then usualDirectory h
    else do
      let expanded ← expandHome h (Path.Names.ofText named)
      resolve h expanded.text
  | none => usualDirectory h

def directory (home : SettingsHome) (h : Host) : Except Fault (String × SettingsHome) :=
  match home.directory? with
  | some directory => .ok (directory, home)
  | none => (findDirectory h).map fun directory => (directory, ⟨some directory⟩)

def fileIn (directory : String) : String := ((Path.Names.ofText directory).child fileName).text

def ensure (h : Host) (directory : String) : Host.Attempt :=
  let names := Path.Names.ofText directory
  h.makeWithParents names.slashes names.names.reverse

end SettingsHome
end ReminderScan
