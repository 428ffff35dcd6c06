import ReminderScan.Tag
import ReminderScan.Host.Basic
import ReminderScan.Json.Printer
import ReminderScan.Number.Literal
import ReminderScan.Text.LowerCase

/-! The settings of a search: what counts as a setting, and the object that holds them. -/

namespace ReminderScan

open Text Calendar

def standardExtensions : List String := ["js", "ts", "py", "java", "cs", "cpp", "go", "rb", "php"]

def standardExcluded : List String :=
  ["node_modules", "venv", ".git", "__pycache__", "dist", "out", "build", "target", ".idea"]

def standardMarker : String := "// @excludeScan"

/-- An extension without blanks around it and dots before it, in small letters. -/
def normaliseExtension (extension : String) : String :=
  String.ofList (lower ((trim extension.toList).dropWhile (· = '.')))

/-- The texts that come first in their kind, the empty ones left out. -/
def distinctTexts (before : List String) : List String → List String
  | [] => before
  | s :: rest =>
    distinctTexts (if s = "" || before.contains s then before else before ++ [s]) rest

def normaliseExtensions (extensions : List String) : List String :=
  distinctTexts [] (extensions.map normaliseExtension)

/-- Names of directories without blanks and slashes around them. Blank ones are left out. -/
def normaliseExcluded (names : List String) : List String :=
  (names.filter fun name => trim name.toList ≠ []).map fun name =>
    String.ofList (stripBoth (fun c => c = '/' || c = '\\') (trim name.toList))

/-- The settings of a search. Three of them are kept as they were given and used by truth value; the
marker has to be a text once it is needed. -/
structure Settings where
  root : Option String := none
  extensions : List String := standardExtensions
  excluded : List String := standardExcluded
  marker : Json.Value := .text standardMarker
  defaultTime : String := standardTime
  pruneOnRescan : Json.Value := .bool false
  reportInvalid : Json.Value := .bool true
  interval : Number.Binary64 := .ofRatio false 2 1
deriving BEq

/-- Settings as they are given, before they are checked. -/
structure SettingsDraft where
  root : Json.Value := .null
  extensions : Json.Value := .list (standardExtensions.map .text)
  excluded : Json.Value := .list (standardExcluded.map .text)
  marker : Json.Value := .text standardMarker
  defaultTime : Json.Value := .text standardTime
  pruneOnRescan : Json.Value := .bool false
  reportInvalid : Json.Value := .bool true
  interval : Number.Binary64 := .ofRatio false 2 1

def memberOr (v : Json.Value) (name : String) (default : Json.Value) : Except Fault Json.Value :=
  match v with
  | .object members => .ok ((Json.lookup? name members).getD default)
  | v => .error (.noAttribute v.kindName "get")

/-- The items of a list, the characters of a text or the names in an object. -/
def itemsOf : Json.Value → Except Fault (List Json.Value)
  | .list items => .ok items
  | .text s => .ok (s.toList.map fun c => .text (String.singleton c))
  | .object members => .ok (members.map fun m => .text m.1)
  | v => .error (.notIterable v.kindName)

/-- The texts of a list; nothing else has blanks to be taken off. -/
def textsOf : List Json.Value → Except Fault (List String)
  | [] => .ok []
  | .text s :: rest => (textsOf rest).map (s :: ·)
  | v :: _ => .error (.noAttribute v.kindName "strip")

/-- The number of 64 bits that a value stands for. Truth values count as one and zero. -/
def realOf : Json.Value → Except Fault Number.Binary64
  | .real x => .ok x
  | .bool b => .ok (if b then .ofRatio false 1 1 else .zero false)
  | .int n =>
    match Number.Binary64.ofInt? n with
    | some x => .ok x
    | none => .error .numberTooLarge
  | .text s =>
    match Number.readReal? s.toList with
    | some x => .ok x
    | none => .error (.notReal s)
  | v => .error (.notNumber v.kindName)

def shownValue : Json.Value → String
  | .null => "None"
  | .bool b => if b then "True" else "False"
  | .int n => String.ofList (Number.writtenInt n)
  | .real x => x.plain
  | .text s => quote s
  | .list _ => "[]"
  | .object _ => "\x7b\x7d"
  | .foreign kind => kind

def checkTime (v : Json.Value) : Except Fault String :=
  match v with
  | .text s =>
    if isClockTime s.toList then .ok s else .error (.invalidDefaultTime (shownValue v))
  | v =>
    .error (if v.isTruthy then .notMatchable v.kindName else .invalidDefaultTime (shownValue v))

def checkRoot (h : Host) (v : Json.Value) : Except Fault (Option String) :=
  if !v.isTruthy then .ok none
  else
    match v with
    | .text s => (h.absoluteUser? s).map some
    | v => .error (.notPath v.kindName)

/-- The settings that a draft stands for. The first fault in the order of the fields is the one that
is told. -/
def SettingsDraft.check (h : Host) (d : SettingsDraft) : Except Fault Settings := do
  let root ← checkRoot h d.root
  let extensions ← itemsOf d.extensions >>= textsOf
  let excluded ← itemsOf d.excluded >>= textsOf
  let defaultTime ← checkTime d.defaultTime
  if d.interval.isNonpositive then .error .invalidInterval
  else
    .ok { root, defaultTime
          extensions := normaliseExtensions extensions
          excluded := normaliseExcluded excluded
          marker := d.marker
          pruneOnRescan := d.pruneOnRescan
          reportInvalid := d.reportInvalid
          interval := d.interval }

def SettingsDraft.ofJson (v : Json.Value) : Except Fault SettingsDraft := do
  let standard : SettingsDraft := {}
  let scan ← memberOr v "scan" (.object [])
  let reminders ← memberOr v "reminders" (.object [])
  let watch ← memberOr v "watch" (.object [])
  let root ← memberOr v "workspace_root" standard.root
  let extensions ← memberOr scan "include_extensions" standard.extensions
  let excluded ← memberOr scan "exclude_dirs" standard.excluded
  let marker ← memberOr scan "exclude_marker" standard.marker
  let defaultTime ← memberOr reminders "default_time" standard.defaultTime
  let pruneOnRescan ← memberOr reminders "prune_on_rescan" standard.pruneOnRescan
  let reportInvalid ← memberOr reminders "report_invalid_dates" standard.reportInvalid
  let interval ← memberOr watch "interval" (.real standard.interval) >>= realOf
  .ok { root, extensions, excluded, marker, defaultTime, pruneOnRescan, reportInvalid, interval }

namespace Settings

def ofJson (h : Host) (v : Json.Value) : Except Fault Settings := do
  (← SettingsDraft.ofJson v).check h

def toJson (s : Settings) : Json.Value := .object [
  ("workspace_root", match s.root with | none => .null | some root => .text root),
  ("scan", .object [
    ("include_extensions", .list (s.extensions.map .text)),
    ("exclude_dirs", .list (s.excluded.map .text)),
    ("exclude_marker", s.marker)]),
  ("reminders", .object [
    ("default_time", .text s.defaultTime),
    ("prune_on_rescan", s.pruneOnRescan),
    ("report_invalid_dates", s.reportInvalid)]),
  ("watch", .object [("interval", .real s.interval)])]

end Settings
end ReminderScan
