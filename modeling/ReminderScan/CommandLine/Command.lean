import ReminderScan.CommandLine.Arguments
import ReminderScan.CommandLine.Usage
import ReminderScan.Number.Literal

/-! The commands of the program, and how they are read from its arguments. -/

namespace ReminderScan.CommandLine

open Number

/-- What a command says about the workspace, in place of the settings. -/
structure WorkspaceOptions where
  root : Option String
  extensions : List String
  excluded : List String

inductive Command where
  /-- Search the workspace, perhaps write the reminders to a file, perhaps show those of today. -/
  | scan (workspace : WorkspaceOptions) (exportTo : Option String) (showToday : Bool)
  | check (files : List String)
  | today (workspace : WorkspaceOptions) (date : Option String)
  | watch (workspace : WorkspaceOptions) (interval : Option Binary64) (cycles : Option Int)
  | complete (typed : String) (date time message : Option String)
  | config (showAll : Bool) (setRoot : Option String) (add remove : List String)
      (pruneOnRescan : Option Bool)

structure Invocation where
  verbose : Bool
  /-- The file of settings, if it is not the usual one. -/
  settingsFile : Option String
  command : Option Command

/-- The reading stopped early: a part of the program stands for itself or complains. -/
structure Refusal where
  topic : Topic
  stop : Stop

def helpOption : OptionSpec := { key := "-h", otherNames := ["--help"], kind := .help }

def flagOption (key : String) : OptionSpec := { key, kind := .flag }

def checkReal (value : String) : Option String :=
  if (readReal? value.toList).isSome then none
    else some ("invalid float value: " ++ Text.quote value)

def checkInteger (value : String) : Option String :=
  if (readInteger? value.toList).isSome then none
    else some ("invalid int value: " ++ Text.quote value)

def invalidChoice (value : String) (choices : List String) : String :=
  "invalid choice: " ++ Text.quote value ++ " (choose from " ++
    ", ".intercalate (choices.map Text.quote) ++ ")"

def checkChoice (choices : List String) (value : String) : Option String :=
  if choices.contains value then none else some (invalidChoice value choices)

def workspaceOptionSpecs : List OptionSpec := [.text "--root", .text "--ext", .text "--exclude-dir"]

def Topic.grammar : Topic → Grammar
  | .program =>
    ⟨[helpOption, .text "--config", { key := "--verbose", otherNames := ["-v"], kind := .flag }],
      .command⟩
  | .scan => ⟨helpOption :: workspaceOptionSpecs ++ [.text "--export", flagOption "--today"], .none⟩
  | .check => ⟨[helpOption], .many "FILE"⟩
  | .today => ⟨helpOption :: workspaceOptionSpecs ++ [.text "--date"], .none⟩
  | .watch => ⟨helpOption :: workspaceOptionSpecs ++
      [{ key := "--interval", kind := .value checkReal },
        { key := "--cycles", kind := .value checkInteger }],
      .none⟩
  | .complete => ⟨[helpOption, .text "--date", .text "--time", .text "--message"], .single "prefix"⟩
  | .config =>
    ⟨[helpOption, flagOption "--show", .text "--set-root", .text "--add-ext", .text "--remove-ext",
      { key := "--prune-on-rescan", kind := .value (checkChoice ["on", "off"]) }], .none⟩

def workspaceOptions (r : Reading) : WorkspaceOptions :=
  ⟨r.last? "--root", r.all "--ext", r.all "--exclude-dir"⟩

def commandOf (t : Topic) (r : Reading) : Option Command :=
  match t with
  | .program => none
  | .scan => some (.scan (workspaceOptions r) (r.last? "--export") (r.has "--today"))
  | .check => some (.check r.values)
  | .today => some (.today (workspaceOptions r) (r.last? "--date"))
  | .watch => some (.watch (workspaceOptions r)
      ((r.last? "--interval").bind fun s => readReal? s.toList)
      ((r.last? "--cycles").bind fun s => readInteger? s.toList))
  | .complete => some (.complete (r.values.headD "") (r.last? "--date") (r.last? "--time")
      (r.last? "--message"))
  | .config => some (.config (r.has "--show") (r.last? "--set-root") (r.all "--add-ext")
      (r.all "--remove-ext") ((r.last? "--prune-on-rescan").map (· == "on")))

def Topic.read (t : Topic) (args : List String) : Except Refusal Reading :=
  match t.grammar.read args with
  | .ok r => .ok r
  | .error stop => .error ⟨t, stop⟩

def Topic.ofWord? (word : String) : Option Topic := Topic.commands.find? (·.word = word)

/-- Arguments that fit nowhere are complained about by the program as a whole. -/
def refuseExtras (extras : List String) : Except Refusal Unit :=
  if extras.isEmpty then .ok ()
  else .error ⟨.program, .usage ("unrecognized arguments: " ++ " ".intercalate extras)⟩

def Invocation.read (args : List String) : Except Refusal Invocation := do
  let r ← Topic.program.read args
  let verbose := r.has "--verbose"
  let settingsFile := r.last? "--config"
  match r.values with
  | [] =>
    refuseExtras r.extras
    .ok { verbose, settingsFile, command := none }
  | word :: rest =>
    match Topic.ofWord? word with
    | none =>
      .error ⟨.program,
        .usage ("argument command: " ++ invalidChoice word (Topic.commands.map Topic.word))⟩
    | some topic =>
      let sub ← topic.read rest
      refuseExtras (r.extras ++ sub.extras)
      .ok { verbose, settingsFile, command := commandOf topic sub }

end ReminderScan.CommandLine
