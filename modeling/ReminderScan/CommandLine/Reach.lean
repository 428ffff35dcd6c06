import ReminderScan.CommandLine.Command
import ReminderScan.Settings.Basic

/-! How much of the files of a machine a command can look at: paths that it names, and a directory
that it searches. -/

namespace ReminderScan.CommandLine

structure Searched where
  root : String
  extensions : List String
  excluded : List String

/-- The paths that a command names, apart from the directory that it searches. -/
def Command.paths : Command → List String
  | .scan _ exportTo _ => exportTo.toList
  | .check files => files
  | .config _ root _ _ _ => root.toList
  | _ => []

def Command.workspace? : Command → Option WorkspaceOptions
  | .scan workspace _ _ => some workspace
  | .today workspace _ => some workspace
  | .watch workspace _ _ => some workspace
  | _ => none

def WorkspaceOptions.apply (o : WorkspaceOptions) (s : Settings) : Settings :=
  { s with
    extensions := if o.extensions.isEmpty then s.extensions else normaliseExtensions o.extensions
    excluded := if o.excluded.isEmpty then s.excluded else o.excluded }

/-- The directory that a command searches. An empty name counts as none. -/
def Command.searched? (s : Settings) (c : Command) : Option Searched := do
  let o ← c.workspace?
  let root ← (o.root.filter (· ≠ "")).or s.root
  let s := o.apply s
  some ⟨root, s.extensions, s.excluded⟩

end ReminderScan.CommandLine
