import ReminderScan.CommandLine.Run

/-! A run that the user breaks off. An interrupt can strike a command at any time, also while it
changes files, and what is done by then stays. One that strikes before there is a command, or while
it is told how one failed, is left to the caller; no file is changed by then. -/

namespace ReminderScan

open Text

namespace Host

/-- What an interrupt may find of a machine on which a directory is made, with those on the way to
it. -/
inductive MakesDirectories (h : Host) (path : String) : Host → Prop where
  | onTheWay {front : List String} : front <+: ancestors path →
      MakesDirectories h path (h.makeMissing front).host
  | done : MakesDirectories h path (h.makeDirectories path).host

inductive MakesWithParents (h : Host) (slashes : Nat) : List String → Host → Prop where
  | start {names : List String} : MakesWithParents h slashes names h
  | parents {name : String} {before : List String} {met : Host} {path : String}
    {target : Option String} :
      h.makeDirectory (Path.Names.text ⟨slashes, (name :: before).reverse⟩) =
        .error (.system .notFound path target) →
      MakesWithParents h slashes before met → MakesWithParents h slashes (name :: before) met
  | done {names : List String} :
    MakesWithParents h slashes names (h.makeWithParents slashes names).host

/-- Opening a file empties it; then it holds a beginning of what is written to it. -/
inductive WritesFile (h : Host) (path : String) (bytes : List UInt8) : Host → Prop where
  | start : WritesFile h path bytes h
  | begun {opened met : Host} {front : List UInt8} : h.writeFile path [] = .ok opened →
      front <+: bytes → opened.writeFile path front = .ok met → WritesFile h path bytes met

end Host

/-- What an interrupt may find while settings are written to a file. -/
inductive Settings.Saves (s : Settings) (h : Host) (path : String) : Host → Prop where
  | making {met : Host} : h.MakesDirectories (Path.parent (h.absoluteUser path)) met →
    Saves s h path met
  | writing {made met : Host} :
      h.makeDirectories (Path.parent (h.absoluteUser path)) = ⟨made, none⟩ →
      made.WritesFile (h.absoluteUser path) (Utf8.encode (s.toJson.output .settings 0).text) met →
      Saves s h path met

namespace Export

/-- What an interrupt may find while an output is written to a temporary file and moved to its
target. Once all of it is written, the temporary file does not outlast an interrupt. -/
inductive WritesThrough (h : Host) (target : Path.Names) (output : Json.Output) : Host → Prop where
  | writing {met : Host} :
      h.WritesFile (freePath h target.parent.text (target.names.getLast?.getD ""))
        (Utf8.encode output.text) met → WritesThrough h target output met
  | written {path : String} {opened written : Host} :
      freePath h target.parent.text (target.names.getLast?.getD "") = path →
      h.writeFile path [] = .ok opened →
        opened.writeFile path (Utf8.encode output.text) = .ok written →
      WritesThrough h target output (cleanUp written path)
  | moved {path : String} {opened written moved : Host} :
      freePath h target.parent.text (target.names.getLast?.getD "") = path →
      h.writeFile path [] = .ok opened →
        opened.writeFile path (Utf8.encode output.text) = .ok written →
      written.moveFile path target.text = .ok moved → WritesThrough h target output moved

inductive WritesOutput (h : Host) (path : String) (output : Json.Output) : Host → Prop where
  | making {directory : Path.Names} {met : Host} :
      (Path.Names.ofText (h.expandUser path)).parent = directory →
      h.MakesWithParents directory.slashes directory.names.reverse met →
        WritesOutput h path output met
  | writing {names : Path.Names} {made met : Host} : Path.Names.ofText (h.expandUser path) = names →
      h.makeWithParents names.parent.slashes names.parent.names.reverse = ⟨made, none⟩ →
      WritesThrough made names output met → WritesOutput h path output met

end Export

namespace CommandLine

/-- What an interrupt may find while settings are written to the given file or to the usual one. -/
inductive SavesSettings (h : Host) (home : String) (s : Settings) :
    Option String → Host → Prop where
  | given {path : String} {met : Host} : s.Saves h path met → SavesSettings h home s (some path) met
  | making {names : Path.Names} {met : Host} : Path.Names.ofText home = names →
      h.MakesWithParents names.slashes names.names.reverse met → SavesSettings h home s none met
  | usual {made met : Host} : SettingsHome.ensure h home = ⟨made, none⟩ →
      s.Saves made (SettingsHome.fileIn home) met → SavesSettings h home s none met

/-- The settings that a command runs on. Suggestions need none that are loaded. -/
def Command.settings (h : Host) (path : String) : Command → Except Fault Settings
  | .complete .. => .ok {}
  | _ => Settings.loadNamed h path

/-- The run comes to a command and to the settings for it. -/
structure Starts (h : Host) (args : List String) (home : String) (i : Invocation)
    (command : Command) (s : Settings) : Prop where
  found : SettingsHome.findDirectory h = .ok home
  read : Invocation.read args = .ok i
  asked : i.command = some command
  loaded : command.settings h (i.settingsFile.getD (SettingsHome.fileIn home)) = .ok s

/-- What an interrupt may find of the machine in a run. A watch is broken off after some of its
pauses. -/
inductive Meets (h : Host) (args : List String) (pauses : List Watch.Pause) : Host → Prop where
  | start : Meets h args pauses h
  | rested {rested : List Watch.Pause} {ending : Ending} : rested <+: pauses →
      run h args rested = .ok ending → Meets h args pauses ending.host
  | exporting {home : String} {i : Invocation} {workspace : WorkspaceOptions} {path : String}
      {showToday : Bool} {s : Settings} {scan : Outcome (Option WorkspaceScan)} {w : WorkspaceScan}
      {met : Host} : Starts h args home i (.scan workspace (some path) showToday) s → path ≠ "" →
      Service.scanWorkspace ⟨workspace.apply s, .empty⟩ h workspace.root = scan →
      scan.answer = .ok (some w) →
      Export.WritesOutput h path (.ofText
        ((exportJson scan.service.store).document (.export 2))) met →
      Meets h args pauses met
  | saving {home : String} {i : Invocation} {showAll : Bool} {root : Option String}
      {add remove : List String} {prune : Option Bool} {s edited : Settings} {changes : List Event}
      {met : Host} : Starts h args home i (.config showAll root add remove prune) s →
      editSettings h s root add remove prune = .ok (edited, changes) → changes ≠ [] →
      SavesSettings h home edited i.settingsFile met → Meets h args pauses met

/-- A run that the user breaks off when it has a command. Some of what the run would tell is told by
then. -/
inductive BrokenOff (h : Host) (args : List String) (pauses : List Watch.Pause) :
    Ending → Prop where
  | intro {i : Invocation} {command : Command} {whole : Ending} {told : List Event} {met : Host} :
      Invocation.read args = .ok i → i.command = some command → run h args pauses = .ok whole →
      told <+: whole.events → Meets h args pauses met →
      BrokenOff h args pauses (Result.ending i.verbose [] ⟨.error .interrupted, met, told⟩)

end CommandLine
end ReminderScan
