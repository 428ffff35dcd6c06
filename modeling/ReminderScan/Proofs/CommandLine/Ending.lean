import ReminderScan.Proofs.CommandLine.Changes
import ReminderScan.Proofs.Settings.Home

/-! How a run ends. Whatever goes wrong within a command becomes an exit code. Two things go wrong
before there is a command, and are left to the caller: the directory of settings cannot be found,
and the help text that names it cannot be filled. -/

namespace ReminderScan

namespace CommandLine

variable {h : Host} {f : Fault} {args : List String} {pauses : List Watch.Pause}

namespace Topic

end Topic

/-- The exit code for what a command comes to. -/
def exitCodeOf : Except Fault Bool → Nat
  | .ok true => 0
  | .ok false => 1
  | .error .interrupted => 130
  | .error _ => 1

/-- Whether a command succeeded, or the fault that stopped it. A fault within a watch makes it fail,
unless the user broke it off. -/
def Stage.outcome (h : Host) (pauses : List Watch.Pause) : Stage → Except Fault Bool
  | .ended result => result.success
  | .watching plan =>
    match (Watch.run plan.interval pauses plan.cycles h plan.watch).fault with
    | none => .ok true
    | some .interrupted => .error .interrupted
    | some _ => .ok false

/-- What a command comes to. A fault of its settings is one of the command. -/
def Command.outcome (h : Host) (home : String) (i : Invocation) (pauses : List Watch.Pause)
    (command : Command) : Except Fault Bool :=
  command.settings h (i.settingsFile.getD (SettingsHome.fileIn home)) >>= fun s =>
    (runCommand h home i s command).outcome h pauses

/-- How a run ends that leaves nothing to its caller: with the code of a help text, of a complaint
about the arguments, of a missing command, or of what the command comes to. -/
inductive Settled (h : Host) (args : List String) (pauses : List Watch.Pause) : Nat → Prop
  | help (topic : Topic) (hread : Invocation.read args = .error ⟨topic, .help⟩) :
      Settled h args pauses 0
  | usage (topic : Topic) (complaint : String)
      (hread : Invocation.read args = .error ⟨topic, .usage complaint⟩) : Settled h args pauses 2
  | bare (i : Invocation) (hread : Invocation.read args = .ok i) (hcommand : i.command = none) :
      Settled h args pauses 1
  | command (home : String) (i : Invocation) (c : Command)
      (hfound : SettingsHome.findDirectory h = .ok home) (hread : Invocation.read args = .ok i)
      (hcommand : i.command = some c) :
      Settled h args pauses (exitCodeOf (c.outcome h home i pauses))

end CommandLine
end ReminderScan
