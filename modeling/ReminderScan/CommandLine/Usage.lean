import ReminderScan.Fault
import ReminderScan.Text.Wrap

/-! The help texts of the program and its commands. -/

namespace ReminderScan.CommandLine

open Text

def textOfLines (lines : List String) : String := String.join (lines.map (· ++ "\n"))

/-- A part of the program with a help text of its own: the program or one of its commands. -/
inductive Topic where
  | program
  | scan
  | check
  | today
  | watch
  | complete
  | config
deriving DecidableEq, Repr

namespace Topic

def commands : List Topic := [scan, check, today, watch, complete, config]

def word : Topic → String
  | program => ""
  | scan => "scan"
  | check => "check"
  | today => "today"
  | watch => "watch"
  | complete => "complete"
  | config => "config"

def title (t : Topic) : String := if t = program then "code-nudger" else "code-nudger " ++ t.word

def programUsage : List String := [
  "usage: code-nudger [-h] [--config CONFIG] [--verbose]",
  "                   \x7bscan,check,today,watch,complete,config\x7d ..."]

def programHelpStart : List String := [
  "",
  "Track reminder annotations left in source code",
  "",
  "positional arguments:",
  "  \x7bscan,check,today,watch,complete,config\x7d",
  "                        Commands",
  "    scan                Scan the whole workspace",
  "    check               Scan individual files",
  "    today               Show reminders scheduled for today",
  "    watch               Rescan files as they change",
  "    complete            Suggest the reminder snippet",
  "    config              Show or edit configuration",
  "",
  "options:",
  "  -h, --help            show this help message and exit"]

def programHelpEnd : List String := [
  "  --verbose, -v         Verbose output",
  "",
  "Annotation format:",
  "  // @reminder YYYY-MM-DD [HH:MM]: Reminder message",
  "",
  "Examples:",
  "  code-nudger scan --root .          # Scan a workspace and report due reminders",
  "  code-nudger today                  # Reminders scheduled for today",
  "  code-nudger check src/app.py       # Rescan a single file",
  "  code-nudger watch                  # Rescan files as they are saved",
  "  code-nudger complete \"  @rem\"      # Snippet suggestion for an editor",
  "        "]

def scanUsage : List String := [
  "usage: code-nudger scan [-h] [--root ROOT] [--ext EXT] [--exclude-dir NAME]",
  "                        [--export PATH] [--today]"]

def scanHelp : List String := [
  "",
  "options:",
  "  -h, --help          show this help message and exit",
  "  --root ROOT         Workspace root to scan (default: configured",
  "                      workspace_root)",
  "  --ext EXT           Scan only files with this extension (repeatable)",
  "  --exclude-dir NAME  Skip directories with this name (repeatable, replaces",
  "                      the configured list)",
  "  --export PATH       Export reminders to a JSON file",
  "  --today             Show today's reminders after scanning"]

def checkUsage : List String := [
  "usage: code-nudger check [-h] FILE [FILE ...]"]

def checkHelp : List String := [
  "",
  "positional arguments:",
  "  FILE        Files to scan",
  "",
  "options:",
  "  -h, --help  show this help message and exit"]

def todayUsage : List String := [
  "usage: code-nudger today [-h] [--root ROOT] [--ext EXT] [--exclude-dir NAME]",
  "                         [--date DATE]"]

def todayHelp : List String := [
  "",
  "options:",
  "  -h, --help          show this help message and exit",
  "  --root ROOT         Workspace root to scan (default: configured",
  "                      workspace_root)",
  "  --ext EXT           Scan only files with this extension (repeatable)",
  "  --exclude-dir NAME  Skip directories with this name (repeatable, replaces",
  "                      the configured list)",
  "  --date DATE         Day to show (YYYY-MM-DD, default: today)"]

def watchUsage : List String := [
  "usage: code-nudger watch [-h] [--root ROOT] [--ext EXT] [--exclude-dir NAME]",
  "                         [--interval INTERVAL] [--cycles CYCLES]"]

def watchHelp : List String := [
  "",
  "options:",
  "  -h, --help           show this help message and exit",
  "  --root ROOT          Workspace root to scan (default: configured",
  "                       workspace_root)",
  "  --ext EXT            Scan only files with this extension (repeatable)",
  "  --exclude-dir NAME   Skip directories with this name (repeatable, replaces",
  "                       the configured list)",
  "  --interval INTERVAL  Seconds between polls (default: configured watch",
  "                       interval)",
  "  --cycles CYCLES      Stop after this many polls"]

def completeUsage : List String := [
  "usage: code-nudger complete [-h] [--date DATE] [--time TIME]",
  "                            [--message MESSAGE]",
  "                            prefix"]

def completeHelp : List String := [
  "",
  "positional arguments:",
  "  prefix             Text of the current line up to the cursor",
  "",
  "options:",
  "  -h, --help         show this help message and exit",
  "  --date DATE        Fill the date placeholder",
  "  --time TIME        Fill the time placeholder",
  "  --message MESSAGE  Fill the message placeholder"]

def configUsage : List String := [
  "usage: code-nudger config [-h] [--show] [--set-root PATH] [--add-ext EXT]",
  "                          [--remove-ext EXT] [--prune-on-rescan \x7bon,off\x7d]"]

def configHelp : List String := [
  "",
  "options:",
  "  -h, --help            show this help message and exit",
  "  --show                Print the configuration",
  "  --set-root PATH       Persist the default workspace root",
  "  --add-ext EXT         Add a file extension to scan (repeatable)",
  "  --remove-ext EXT      Stop scanning a file extension (repeatable)",
  "  --prune-on-rescan \x7bon,off\x7d",
  "                        Drop stale reminders of a file before rescanning it"]

def usageLines : Topic → List String
  | program => programUsage
  | scan => scanUsage
  | check => checkUsage
  | today => todayUsage
  | watch => watchUsage
  | complete => completeUsage
  | config => configUsage

def usage (t : Topic) : String := textOfLines t.usageLines

/-- What the help of the option that names the file of settings may say of the option and the
program. `address` is where the group of the option lies in memory. -/
def optionMembers (address text : String) : List (String × Text.Percent.Argument) := [
  ("option_strings", .shown "['--config']"), ("dest", .text "config"), ("nargs", .shown "None"),
  ("const", .shown "None"), ("default", .shown "None"), ("type", .shown "None"),
  ("choices", .shown "None"), ("required", .no), ("help", .text text), ("metavar", .shown "None"),
  ("container", .shown s!"<argparse._ArgumentGroup object at {address}>"),
  ("prog", .text "code-nudger")]

def configOptionHelp (address defaultPath : String) : Except Fault (List String) :=
  let text := s!"Path to configuration file (default: {defaultPath})"
  match Text.Percent.format (optionMembers address text) text.toList with
  | .error misuse => .error (.badPlaceholder misuse)
  | .ok filled =>
    match wrap 54 filled with
    | [] => .ok ["  --config CONFIG"]
    | first :: rest =>
      .ok (("  --config CONFIG       " ++ String.ofList first) ::
        rest.map fun line => String.ofList (List.replicate 24 ' ' ++ line))

def help (t : Topic) (address defaultPath : String) : Except Fault String :=
  match t with
  | program => do
    let option ← configOptionHelp address defaultPath
    .ok (textOfLines (programUsage ++ programHelpStart ++ option ++ programHelpEnd))
  | scan => .ok (textOfLines (scanUsage ++ scanHelp))
  | check => .ok (textOfLines (checkUsage ++ checkHelp))
  | today => .ok (textOfLines (todayUsage ++ todayHelp))
  | watch => .ok (textOfLines (watchUsage ++ watchHelp))
  | complete => .ok (textOfLines (completeUsage ++ completeHelp))
  | config => .ok (textOfLines (configUsage ++ configHelp))

end Topic
end ReminderScan.CommandLine
