import ReminderScan.CommandLine.Reach
import ReminderScan.DayView
import ReminderScan.Export
import ReminderScan.Settings.File
import ReminderScan.Snippet
import ReminderScan.Watcher

/-! Running a command. Whatever goes wrong within it is told, and makes the exit code; only what
goes wrong before there is a command is left to the caller. -/

namespace ReminderScan.CommandLine

open Calendar

/-- What a command leaves: whether it succeeded or by which fault it was stopped, the machine after
it, and what was told. -/
structure Result where
  success : Except Fault Bool
  host : Host
  events : List Event

def commandRecord (word : String) (level : Level) (text : String) : Event :=
  .log ⟨"code_nudger.commands." ++ word, level, text⟩

/-- A fault within a command is told and makes it fail. Only the break-off by the user stops the
program. -/
def settled (word title : String) (verbose : Bool) (h : Host) (before : List Event) (f : Fault) :
    Result :=
  if f = .interrupted then ⟨.error f, h, before⟩
  else
    ⟨.ok false, h, before ++ commandRecord word .error s!"{title} command failed: {f.message}" ::
      if verbose then [.trace] else []⟩

def dayList (store : Store) (day : Date) : List Event :=
  [.line (dayListing (dayView store.toList day) (some day))]

def summaryLine (w : WorkspaceScan) : String :=
  s!"\n📋 {w.found} reminder(s) in {w.scanned} file(s) ({w.skipped} skipped, {w.failed} failed)"

def runScan (h : Host) (s : Settings) (verbose : Bool) (root exportTo : Option String)
    (showToday : Bool) : Result :=
  let scan := Service.scanWorkspace ⟨s, .empty⟩ h root
  match scan.answer with
  | .error f => settled "scan" "Scan" verbose h scan.events f
  | .ok none => ⟨.ok false, h, scan.events⟩
  | .ok (some w) =>
    let failures := if verbose then w.failedPaths.map fun path => Event.line s!"  ✗ {path}" else []
    let view := if showToday then .line "" :: dayList scan.service.store h.now.date else []
    let told := scan.events ++ .line (summaryLine w) :: failures ++ view
    match exportTo with
    | none => ⟨.ok true, h, told⟩
    | some "" => ⟨.ok true, h, told⟩
    | some path =>
      match Export.writeReminders h path scan.service.store with
      | (h', .refused f) => settled "scan" "Scan" verbose h' told f
      | (h', .failed f) => ⟨.ok false, h', told ++ [.line (Export.failureLine h path f)]⟩
      | (h', .done) => ⟨.ok true, h', told ++ [.line s!"\n📄 Reminders exported to: {path}"]⟩

def reminderLine (r : Reminder) : String :=
  s!"  {r.fileName}:{Document.lineText r}  {r.date} {r.time}  {r.message}"

/-- Reads files one after another as if they were just saved. Says whether a reminder was found in
one of them. A file that cannot be named from the root on ends the row. -/
def checkAll (h : Host) (s : Service) : List String → Outcome Bool
  | [] => ⟨.ok false, s, []⟩
  | path :: rest =>
    match h.absolute? path with
    | .error f => ⟨.error f, s, []⟩
    | .ok _ =>
      let first := s.documentChanged h .saved path
      match first.answer with
      | .error f => ⟨.error f, first.service, first.events⟩
      | .ok found =>
        let others := checkAll h first.service rest
        { others with
          answer := others.answer.map (found || ·)
          events := first.events ++ others.events }

def runCheck (h : Host) (s : Settings) (verbose : Bool) (files : List String) : Result :=
  let all := checkAll h ⟨s, .empty⟩ files
  match all.answer with
  | .error f => settled "check" "Check" verbose h all.events f
  | .ok found =>
    ⟨.ok found, h, all.events ++ all.service.store.toList.map fun r => .line (reminderLine r)⟩

/-- The events of a search that is to be quiet: notices are left out. -/
def quietly (events : List Event) : List Event :=
  events.filter fun | .notice _ => false | _ => true

def runToday (h : Host) (s : Settings) (verbose : Bool) (root date : Option String) : Result :=
  let day? : Except String Date :=
    match date with
    | none => .ok h.now.date
    | some "" => .ok h.now.date
    | some text =>
      match Date.ofUserText? text with
      | some day => .ok day
      | none => .error text
  match day? with
  | .error text => ⟨.ok false, h, [.line s!"Invalid date '{text}'. Use YYYY-MM-DD."]⟩
  | .ok day =>
    let scan := Service.scanWorkspace ⟨s, .empty⟩ h root
    let told := quietly scan.events
    match scan.answer with
    | .error f => settled "today" "Today" verbose h told f
    | .ok none =>
      let infos := (Event.notices scan.events).filter (·.severity = "info")
      ⟨.ok false, h, told ++ infos.map fun n => .info n.text⟩
    | .ok (some _) =>
      let due := scan.service.store.toList.countP (·.isDue h.now)
      ⟨.ok true, h, told ++ dayList scan.service.store day ++
        if verbose then [.line s!"\n{due} reminder(s) overdue or due now across the workspace."]
          else []⟩

def showRefresh : Event → List Event
  | .refresh store day => .line "" :: dayList store day
  | e => [e]

/-- A watch that is ready to start: how long it rests between looks, how often it looks, and what is
told first. -/
structure WatchPlan where
  watch : Watch
  interval : Number.Binary64
  cycles : Option Nat
  opening : Event

/-- Prepares to watch the workspace. Without one, or with one that is missing, there is only
something to tell. -/
def planWatch (h : Host) (s : Settings) (root : Option String) (interval : Option Number.Binary64)
    (cycles : Option Int) : Except Event WatchPlan :=
  let root := match root with
    | some "" => s.root
    | some root => some root
    | none => s.root
  match root with
  | none => .error (.info "No workspace is open.")
  | some "" => .error (.info "No workspace is open.")
  | some root =>
    let watcher := Watcher.new h root s.extensions s.excluded
    if !h.isDirectory watcher.root then .error (.info (Fault.noWorkspace watcher.root).message)
    else .ok {
      watch := { watcher, service := ⟨s, .empty⟩ }
      interval := interval.getD s.interval
      cycles := cycles.map Int.toNat
      opening := .line s!"👀 Watching {watcher.root} (Ctrl+C to stop)" }

/-- How a watch ends: by a fault, or after its cycles. -/
def watchResult (verbose : Bool) (h : Host) (told : List Event) (w : Watch) : Option Fault → Result
  | some f => settled "watch" "Watch" verbose h told f
  | none =>
    ⟨.ok true, h, told ++ [commandRecord "watch" .debug
      s!"Watch loop finished after {w.dispatched} trigger(s)"]⟩

def WatchPlan.run (plan : WatchPlan) (h : Host) (verbose : Bool) (pauses : List Watch.Pause) :
    Result :=
  let run := Watch.run plan.interval pauses plan.cycles h plan.watch
  watchResult verbose run.host (plan.opening :: run.events.flatMap showRefresh) run.watch run.fault

def completionJson (c : Completion) : Json.Value := .object [
  ("label", .text c.label),
  ("kind", .text c.kind),
  ("insert_text", .text c.insertText),
  ("detail", .text c.detail),
  ("documentation", .text c.documentation)]

def shownJson (v : Json.Value) : Except Fault String :=
  match v.document .settings with
  | .ok text => .ok (String.ofList text)
  | .error kind => .error (.notSerialisable kind)

/-- Suggests how a line may go on. With values for the gaps the whole tag is shown. -/
def runComplete (h : Host) (typed : String) (date time message : Option String) : Result :=
  match Completion.suggestions typed with
  | [] => ⟨.ok false, h,
    [commandRecord "complete" .debug s!"No completion for prefix {Text.quote typed}"]⟩
  | first :: rest =>
    let values := [date, time, message].map (·.getD "")
    let shown : Except Fault String :=
      if values.any (· ≠ "") then (Snippet.fill first.insertText values).map ("// " ++ ·)
      else shownJson (.list ((first :: rest).map completionJson))
    match shown with
    | .ok text => ⟨.ok true, h, [.line text]⟩
    | .error f => ⟨.error f, h, []⟩

def addExtensions (s : Settings) : List String → Settings × List Event
  | [] => (s, [])
  | e :: rest =>
    if s.extensions.contains e then addExtensions s rest
    else
      let (s, events) := addExtensions { s with extensions := s.extensions ++ [e] } rest
      (s, .line s!"✓ Added extension .{e}" :: events)

def removeExtensions (s : Settings) : List String → Settings × List Event
  | [] => (s, [])
  | e :: rest =>
    if s.extensions.contains e then
      let (s, events) := removeExtensions { s with extensions := s.extensions.erase e } rest
      (s, .line s!"✓ Removed extension .{e}" :: events)
    else removeExtensions s rest

def setRoot (h : Host) (s : Settings) : Option String → Except Fault (Settings × List Event)
  | none => .ok (s, [])
  | some "" => .ok (s, [])
  | some root => do
    let root ← h.absoluteUser? root
    if h.isDirectory root then
      .ok ({ s with root := some root }, [.line s!"✓ Workspace root set to {root}"])
    else .error (.noWorkspace root)

def setPrune (s : Settings) : Option Bool → Settings × List Event
  | none => (s, [])
  | some on =>
    ({ s with pruneOnRescan := .bool on }, [.line s!"✓ prune_on_rescan = {truthText on}"])

/-- The settings after all changes that a command asks for, and a line for each change made. -/
def editSettings (h : Host) (s : Settings) (root : Option String) (add remove : List String)
    (prune : Option Bool) : Except Fault (Settings × List Event) := do
  let (s, rooted) ← setRoot h s root
  let (s, added) := addExtensions s (normaliseExtensions add)
  let (s, removed) := removeExtensions s (normaliseExtensions remove)
  let (s, pruned) := setPrune s prune
  .ok (s, rooted ++ added ++ removed ++ pruned)

def resultOf (a : Host.Attempt) (events : List Event) : Result :=
  ⟨match a.fault with | none => .ok true | some f => .error f, a.host, events⟩

/-- Writes settings to the given file, or to the usual one, whose directory is made first. -/
def saveSettings (h : Host) (home : String) (file : Option String) (s : Settings) : Result :=
  match file with
  | some path => resultOf (s.save h path) []
  | none =>
    let made := SettingsHome.ensure h home
    match made.fault with
    | some _ => resultOf made []
    | none =>
      resultOf (s.save made.host (SettingsHome.fileIn home))
        [.log ⟨"code_nudger.core.paths", .debug, s!"Ensured directory exists: {home}"⟩]

def runConfig (h : Host) (home : String) (file : Option String) (s : Settings) (showAll : Bool)
    (root : Option String) (add remove : List String) (prune : Option Bool) : Result :=
  match editSettings h s root add remove prune with
  | .error f => ⟨.error f, h, []⟩
  | .ok (s, changes) =>
    let shown : Except Fault (List Event) :=
      if showAll || changes.isEmpty then (shownJson s.toJson).map fun text =>
        [.line text] else .ok []
    match shown with
    | .error f => ⟨.error f, h, changes⟩
    | .ok shown =>
      if changes.isEmpty then ⟨.ok true, h, shown⟩
      else
        let saved := saveSettings h home file s
        { saved with events := changes ++ shown ++ saved.events }

/-- What a command comes to: its end, or a watch that is ready to start. -/
inductive Stage where
  | ended (result : Result)
  | watching (plan : WatchPlan)

/-- Runs a command on the settings, up to the start of a watch. -/
def runCommand (h : Host) (home : String) (i : Invocation) (s : Settings) : Command → Stage
  | .scan workspace exportTo showToday =>
    .ended (runScan h (workspace.apply s) i.verbose workspace.root exportTo showToday)
  | .check files => .ended (runCheck h s i.verbose files)
  | .today workspace date => .ended (runToday h (workspace.apply s) i.verbose workspace.root date)
  | .watch workspace interval cycles =>
    match planWatch h (workspace.apply s) workspace.root interval cycles with
    | .error notice => .ended ⟨.ok false, h, [notice]⟩
    | .ok plan => .watching plan
  | .complete typed date time message => .ended (runComplete h typed date time message)
  | .config showAll root add remove prune =>
    .ended (runConfig h home i.settingsFile s showAll root add remove prune)

/-- What the whole program leaves: the exit code, the machine, and what was told. -/
structure Ending where
  exitCode : Nat
  verbose : Bool := false
  host : Host
  events : List Event

def Result.ending (verbose : Bool) (before : List Event) (r : Result) : Ending :=
  let told := before ++ r.events
  match r.success with
  | .ok success => ⟨if success then 0 else 1, verbose, r.host, told⟩
  | .error .interrupted => ⟨130, verbose, r.host, told ++ [.line "\nOperation cancelled by user."]⟩
  | .error f =>
    ⟨1, verbose, r.host, told ++ .line s!"Error: {f.message}" ::
      [if verbose then .trace else .line "Re-run with --verbose for more detail."]⟩

/-- What the program comes to before anything is watched. -/
inductive Launch where
  | ended (ending : Ending)
  | watching (verbose : Bool) (before : List Event) (plan : WatchPlan)

def Stage.launch (verbose : Bool) (before : List Event) : Stage → Launch
  | .ended result => .ended (result.ending verbose before)
  | .watching plan => .watching verbose before plan

/-- Runs a command after its settings are loaded. Suggestions need no settings. -/
def launchCommand (h : Host) (home : String) (i : Invocation) (command : Command) : Launch :=
  match command with
  | .complete .. => (runCommand h home i {} command).launch i.verbose []
  | _ =>
    let usual := SettingsHome.fileIn home
    match Settings.loadNamed h (i.settingsFile.getD usual) with
    | .error f => (Stage.ended ⟨.error f, h, []⟩).launch i.verbose []
    | .ok s =>
      let named := match i.settingsFile with
        | none => usual
        | some "" => usual
        | some path => path
      let before := if i.verbose then [Event.line s!"Using config: {named}"] else []
      (runCommand h home i s command).launch i.verbose before

/-- Reads the arguments and runs what they ask for, up to the start of a watch. -/
def launch (h : Host) (args : List String) : Except Fault Launch := do
  let home ← SettingsHome.findDirectory h
  match Invocation.read args with
  | .error ⟨topic, .help⟩ =>
    let text ← topic.help h.objectAddress (SettingsHome.fileIn home)
    .ok (.ended { exitCode := 0, host := h, events := [.printed text] })
  | .error ⟨topic, .usage text⟩ =>
    .ok (.ended { exitCode := 2, host := h
                  events :=
                    [.complained (topic.usage ++ topic.title ++ ": error: " ++ text ++ "\n")] })
  | .ok i =>
    match i.command with
    | none =>
      let text ← Topic.program.help h.objectAddress (SettingsHome.fileIn home)
      .ok (.ended { exitCode := 1, verbose := i.verbose, host := h, events := [.printed text] })
    | some command => .ok (launchCommand h home i command)

/-- Runs the program. The pauses are what happens to the machine while a watch rests. -/
def run (h : Host) (args : List String) (pauses : List Watch.Pause) : Except Fault Ending :=
  (launch h args).map fun
    | .ended ending => ending
    | .watching verbose before plan => (plan.run h verbose pauses).ending verbose before

end ReminderScan.CommandLine
