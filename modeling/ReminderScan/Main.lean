import ReminderScan.CommandLine.Run
import ReminderScan.CommandLine.Terminal
import ReminderScan.Disk
import Std.Time.Zoned

/-! The program on a real machine: what it needs is read, the run is worked out, what it tells is
shown and what it changes is carried out. -/

namespace ReminderScan.CommandLine

open Calendar

/-- The local time; where the machine knows no local time, universal time. -/
def localTime : IO (Option Timestamp) := do
  let now ← Std.Time.Timestamp.now
  let zone ← (try
    let rules ← Std.Time.Database.defaultGetLocalZoneRules
    pure (rules.findLocalTimeTypeForTimestamp now).getTimeZone
  catch _ => pure Std.Time.TimeZone.UTC)
  let t := Std.Time.PlainDateTime.ofWallTime (Std.Time.WallTime.ofTimestamp now zone.offset)
  let two (n : Int) : List Char := Number.padded 2 n.toNat
  let text := Number.padded 4 t.date.year.toInt.toNat ++ '-' :: two t.date.month.val ++ '-' ::
    two t.date.day.val ++ 'T' :: two t.time.hour.val ++ ':' :: two t.time.minute.val ++ ':' ::
    two t.time.second.val ++ '.' :: Number.padded 6 (t.time.nanosecond.val.toNat / 1000)
  return Timestamp.ofIso? (String.ofList text)

def readEnvironment : IO (List (String × String)) := do
  let pairs ← ["HOME", SettingsHome.variableName, "APPDATA"].mapM fun name => do
    return (← IO.getEnv name).map (name, ·)
  return pairs.filterMap id

def userHomes : IO (List (String × String)) := do
  let lines ← (try IO.FS.lines ⟨"/etc/passwd"⟩ catch _ => return #[])
  return lines.toList.filterMap fun line =>
    match line.toList.splitOn ':' with
    | user :: _ :: _ :: _ :: _ :: home :: _ => some (String.ofList user, String.ofList home)
    | _ => none

def machine (now : Timestamp) : IO Host := do
  let homes ← userHomes
  let user ← IO.getEnv "USER"
  return {
    tree := .empty, directory := (← IO.currentDir).toString, environment := ← readEnvironment
    ownHome := (user.bind fun name => homes.lookup name).getD "/", homes,
    platform := "linux", now, stamp := 0 }

/-- The machine with all files read that the arguments can have a say about. -/
def readFiles (older : FileTree) (args : List String) (h : Host) : IO Host := do
  let h ← Disk.readPath older h "."
  let h ← match h.lookupVariable SettingsHome.variableName with
    | some named => Disk.readPath older h named
    | none => pure h
  match SettingsHome.findDirectory h, Invocation.read args with
  | .ok home, .ok ⟨_, settingsFile, some command⟩ =>
    let file := settingsFile.getD (SettingsHome.fileIn home)
    let h ← (file :: command.paths).foldlM (Disk.readPath older) h
    match Settings.load h file with
    | .error _ => return h
    | .ok s =>
      match command.searched? s with
      | some searched => Disk.readSearched older h searched
      | none => return h
  | _, _ => return h

def terminalAt (verbose : Bool) (now : Timestamp) : Terminal where
  verbose := verbose
  timeText := now.date.text ++ " " ++ now.fullClock ++
    String.ofList (',' :: Number.padded 3 (now.microsecond / 1000))
  traceText := ""

def showAll (terminal : Terminal) (events : List Event) : IO Unit := do
  let output ← IO.getStdout
  let errors ← IO.getStderr
  for e in events do
    output.putStr (Terminal.output e)
    errors.putStr (terminal.errors e)
  output.flush
  errors.flush

/-- A number of seconds in whole milliseconds; what cannot be waited for is no time at all. -/
def milliseconds : Number.Binary64 → Nat
  | .finite false significand exponent _ =>
    if 0 ≤ exponent then significand * 1000 * Nat.pow 2 exponent.toNat
    else significand * 1000 / Nat.pow 2 (-exponent).toNat
  | _ => 0

def refreshed (args : List String) (h : Host) : IO Host := do
  let now := (← localTime).getD h.now
  readFiles h.tree args { h with now, tree := .empty }

/-- Rests and looks, showing what is told, until the cycles are used up or there is a fault. -/
partial def watchOn (args : List String) (verbose : Bool) (interval : Number.Binary64) (h : Host)
    (cycles : Option Nat) (w : Watch) : IO (Host × Watch × Option Fault) := do
  if cycles = some 0 then return (h, w, none)
  IO.sleep (min (milliseconds interval) 4294967295).toUInt32
  let h ← refreshed args h
  let step := w.cycle h
  showAll (terminalAt verbose h.now) (step.events.flatMap showRefresh)
  match step.fault with
  | some f => return (h, step.watch, some f)
  | none => watchOn args verbose interval h (cycles.map (· - 1)) step.watch

def watch (args : List String) (verbose : Bool) (before : List Event) (plan : WatchPlan)
    (h : Host) :
    IO Ending := do
  showAll (terminalAt verbose h.now) (before ++ [plan.opening])
  let first := plan.watch.start h
  showAll (terminalAt verbose h.now) (first.events.flatMap showRefresh)
  let (h, w, fault) ← match first.fault with
    | some f => pure (h, first.watch, some f)
    | none => watchOn args verbose plan.interval h plan.cycles first.watch
  return (watchResult verbose h [] w fault).ending verbose []

end ReminderScan.CommandLine

open ReminderScan ReminderScan.CommandLine

def main (args : List String) : IO UInt32 := do
  let some now ← localTime | return 1
  let h ← readFiles .empty args (← machine now)
  match launch h args with
  | .error f =>
    (← IO.getStderr).putStrLn f.message
    return 1
  | .ok launched =>
    let ending ← match launched with
      | .ended ending => pure ending
      | .watching verbose before plan => watch args verbose before plan h
    try Disk.carryOut h.tree ending.host.tree
    catch e =>
      (← IO.getStderr).putStrLn s!"Error: {e}"
      return 1
    showAll (terminalAt ending.verbose now) ending.events
    return ending.exitCode.toUInt32
