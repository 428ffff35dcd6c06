import ReminderScan.Main
import ReminderScan.Proofs.CommandLine.Interrupted
import ReminderScan.Proofs.Service.Answer
import ReminderScan.Proofs.Service.History
import ReminderScan.Proofs.Snippet
import ReminderScan.Proofs.Tag.Search
import ReminderScan.Proofs.Watch.Reachable
import ReminderScan.Proofs.CommandLine.Ending
import ReminderScan.Proofs.Workspace.Alike
import ReminderScan.Proofs.Calendar.Gregorian
import ReminderScan.Proofs.CommandLine.Exported
import ReminderScan.Proofs.CommandLine.Overrides
import ReminderScan.Proofs.Json.Lines
import ReminderScan.Proofs.Settings.Reload
import ReminderScan.Proofs.DayView
import ReminderScan.Proofs.Workspace.Listed
import ReminderScan.Proofs.Service.Lines
import ReminderScan.Proofs.Watch.Rounds
import ReminderScan.Json.Output
import ReminderScan.Proofs.Json.Output
import ReminderScan.Proofs.Tag.LineEnd
import ReminderScan.Proofs.Export.Atomic
import ReminderScan.Proofs.CommandLine.Instructions
import ReminderScan.Proofs.Snippet.Template
import ReminderScan.Proofs.CommandLine.Checked
import ReminderScan.Proofs.Settings.DefaultTime
