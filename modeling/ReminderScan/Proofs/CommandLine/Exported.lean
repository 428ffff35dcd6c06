import ReminderScan.Proofs.CommandLine.Changes
import ReminderScan.Proofs.Json.RoundTrip
import ReminderScan.Proofs.Service.Step
import ReminderScan.Proofs.Text.Utf8

/-! What stands in an export: all reminders of a search with all that is known of them, and how many
there are. The bytes of the file are read as that document again. -/

namespace ReminderScan

open Text

theorem Json.isSpaced_export (spaces : Nat) : (Json.Layout.export spaces).IsSpaced := by
  intro step hstep c hc
  obtain rfl := Option.some.inj hstep
  exact List.eq_of_mem_replicate hc

theorem hasDistinctNames_exportJson (store : Store) : Json.HasDistinctNames (exportJson store) :=
  exportJson_of_inherited Json.inherited_hasDistinctNames .int store

/-- The member of a value, if it is an object and has one of this name. -/
def Json.Value.member? (v : Json.Value) (name : String) : Option Json.Value :=
  match v with
  | .object members => Json.lookup? name members
  | _ => none

namespace Export

/-- What an entry says of a reminder. -/
structure Shows (r : Reminder) (entry : Json.Value) : Prop where
  file : entry.member? "file" = some (.text r.file)
  line : entry.member? "line" = some (.int r.line)
  message : entry.member? "message" = some (.text r.message)
  date : entry.member? "date" = some (.text r.date)
  time : entry.member? "time" = some (.text r.time)
  scheduled : entry.member? "scheduled" =
    some (if r.isValid then .text (r.date ++ "T" ++ r.time ++ ":00") else .null)

def isUnscheduled (entry : Json.Value) : Bool :=
  match entry.member? "scheduled" with
  | some .null => true
  | _ => false

/-- An object that lists the reminders of a store one by one, with the right counts. -/
def Tells (store : Store) (v : Json.Value) : Prop :=
  ∃ entries summary, v.member? "reminders" = some (.list entries) ∧
    List.Forall₂ Shows store.toList entries ∧ v.member? "summary" = some summary ∧
    summary.member? "total" = some (.int entries.length) ∧
    summary.member? "invalid" = some (.int (entries.countP isUnscheduled))

theorem scheduled_toJson (r : Reminder) : r.toJson.member? "scheduled" =
    some (r.scheduled.elim .null fun t => .text t.iso) := by
  obtain ⟨_, _, _, scheduled, _, _⟩ := r
  cases scheduled with
  | none => rfl
  | some t => rfl

theorem shows_toJson {r : Reminder} (hr : IsStamped r.date r.time r.scheduled) :
    Shows r r.toJson := by
  refine ⟨rfl, rfl, rfl, rfl, rfl, ?_⟩
  rw [scheduled_toJson, Reminder.isValid]
  cases ht : r.scheduled with
  | none => rfl
  | some t =>
    have hiso : t.iso = r.date ++ "T" ++ r.time ++ ":00" := hr.iso ht
    simp only [hiso, Option.elim_some, Option.isSome_some, if_true]

theorem Shows.isUnscheduled_eq {r : Reminder} {entry : Json.Value} (h : Shows r entry) :
    isUnscheduled entry = !r.isValid := by
  rw [isUnscheduled, h.scheduled]
  cases r.isValid with
  | true => rfl
  | false => rfl

theorem tells_exportJson {store : Store} (hs : store.IsStamped) :
    Tells store (exportJson store) := by
  refine ⟨store.toList.map Reminder.toJson, _, rfl, ?_, rfl, ?_, ?_⟩
  · rw [List.forall₂_map_right_iff]
    exact List.forall₂_same.2 fun r hr => shows_toJson (hs r hr)
  · rw [List.length_map]
    rfl
  · have hcount : store.toList.countP (isUnscheduled ∘ Reminder.toJson) =
        store.toList.countP fun r => !r.isValid :=
      List.countP_congr fun r hr => by
        rw [Function.comp_apply, (shows_toJson (hs r hr)).isUnscheduled_eq]
    rw [List.countP_map, hcount]
    rfl

/-- What an export leaves at the place that its path names. Whole numbers with too many digits are
written, but not read. -/
structure Holds (store : Store) (path : String) (before after : Host) (place : Place)
    (bytes : List UInt8) (text : List Char) : Prop where
  target : target? before path = some place
  file : after.tree.get? place = some (.file bytes before.stampTime)
  decode : Utf8.decode bytes = .ok text
  tells : (exportJson store).hasLongNumber = false → ∃ v, Json.parse text = .ok v ∧ Tells store v
  /-- What is read at the path is that file, if anything is. -/
  reads : ∀ read modified, after.openFile (named before path) = .ok (read, modified) → read = bytes
  /-- It is read, unless a link stood at the place: the path may lead through it. -/
  opens : (∀ target, before.tree.get? place ≠ some (.link target)) →
    after.openFile (named before path) = .ok (bytes, before.stampTime)

variable {h after : Host} {path : String}

theorem parse_exportJson {store : Store} {spaces : Nat} {text : List Char}
    (hdocument : (exportJson store).document (.export spaces) = .ok text)
    (hshort : (exportJson store).hasLongNumber = false) :
    Json.parse text = .ok (exportJson store) :=
  ((hasDistinctNames_exportJson store).isReadable hshort hdocument).parse_document
    (Json.isSpaced_export spaces) hdocument

theorem holds_of_placed {store : Store} (hs : store.IsStamped) {text : List Char}
    (hdocument : (exportJson store).document (.export 2) = .ok text)
    (hplaced : Placed (named h path) (Utf8.encode text)
      (prepare h (.ofText (h.expandUser path))).host after) :
    ∃ place, Holds store path h after place (Utf8.encode text) text := by
  obtain ⟨place, hstands⟩ := stands_of_placed hplaced
  refine ⟨place, hstands.target, hstands.file, Utf8.decode_encode text, ?_, hstands.reads,
    hstands.opens⟩
  intro hshort
  exact ⟨exportJson store, parse_exportJson hdocument hshort, tells_exportJson hs⟩

end Export

namespace CommandLine

variable {h : Host} {path : String}

/-- A search that succeeds with an export has placed the document of its reminders. -/
theorem placed_runScan (hc : h.tree.Connected) (hpath : path ≠ "") {s : Settings} {verbose : Bool}
    {root : Option String} {showToday : Bool}
    (hdone : (runScan h s verbose root (some path) showToday).success = .ok true) : ∃ text,
    (exportJson (Service.scanWorkspace ⟨s, .empty⟩ h root).service.store).document (.export 2) =
      .ok text ∧
      Export.Placed (Export.named h path) (Utf8.encode text)
        (Export.prepare h (.ofText (h.expandUser path))).host
        (runScan h s verbose root (some path) showToday).host := by
  revert hdone
  rw [runScan]
  generalize Service.scanWorkspace ⟨s, .empty⟩ h root = scan
  obtain ⟨text, hdocument⟩ := (isPlain_exportJson scan.service.store).exists_document (.export 2)
  obtain ⟨-, hplaced⟩ := Export.placed_writeReminders hc path _ hdocument
  dsimp only
  split
  · intro hdone
    exact absurd hdone (success_settled_ne _ _ _ _ _ _)
  · intro hdone
    cases hdone
  · split
    · rename_i hnone
      cases hnone
    · rename_i hempty
      exact absurd (Option.some.inj hempty) hpath
    · rename_i hsome
      obtain rfl := Option.some.inj hsome
      split
      · intro hdone
        exact absurd hdone (success_settled_ne _ _ _ _ _ _)
      · intro hdone
        cases hdone
      · rename_i written hwrite
        rw [hwrite] at hplaced
        exact fun _ => ⟨text, hdocument, hplaced rfl⟩

variable {pauses : List Watch.Pause}

/-- What a run for a search comes to. -/
theorem run_scan {args : List String} {i : Invocation} {workspace : WorkspaceOptions}
    {exportTo : Option String} {showToday : Bool} (hread : Invocation.read args = .ok i)
    (hcommand : i.command = some (.scan workspace exportTo showToday))
    (hdone : Succeeded (run h args pauses)) :
    ∃ home s, SettingsHome.findDirectory h = .ok home ∧
      Settings.load h (i.settingsFile.getD (SettingsHome.fileIn home)) = .ok s ∧
      (runScan h (workspace.apply s) i.verbose workspace.root exportTo showToday).success =
        .ok true ∧
      hostAfter h (run h args pauses) =
        (runScan h (workspace.apply s) i.verbose workspace.root exportTo showToday).host :=
  run_of_ended hread hcommand nofun (fun _ _ => rfl) hdone

/-- A run that searches and exports, and succeeds, leaves the reminders of the search at the place
that the path of the export names. -/
theorem export_after_run (hc : h.tree.Connected) {args : List String} {i : Invocation}
    {workspace : WorkspaceOptions} {showToday : Bool} (hread : Invocation.read args = .ok i)
    (hcommand : i.command = some (.scan workspace (some path) showToday)) (hpath : path ≠ "")
    (hdone : Succeeded (run h args pauses)) :
    ∃ home s store place bytes text, SettingsHome.findDirectory h = .ok home ∧
      Settings.load h (i.settingsFile.getD (SettingsHome.fileIn home)) = .ok s ∧
      (Service.scanWorkspace ⟨workspace.apply s, .empty⟩ h workspace.root).service.store = store ∧
      Export.Holds store path h (hostAfter h (run h args pauses)) place bytes text := by
  obtain ⟨home, s, hhome, hload, hscanned, hsame⟩ := run_scan hread hcommand hdone
  obtain ⟨text, hdocument, hplaced⟩ := placed_runScan hc hpath hscanned
  have hstamped : (Service.scanWorkspace
    ⟨workspace.apply s, .empty⟩ h workspace.root).service.store.IsStamped :=
    Service.isStamped_scanWorkspace Store.isStamped_empty h workspace.root
  obtain ⟨place, hholds⟩ := Export.holds_of_placed hstamped hdocument hplaced
  rw [hsame]
  exact ⟨home, s, _, place, _, text, hhome, hload, rfl, hholds⟩

/-- A machine with one document in a directory, and beside it a link to that directory. -/
def linkedHost : Host :=
  { deskHost with
    tree := ((FileTree.empty.insert [Service.folderName] .directory).insert
      [Service.folderName, Service.noteName]
        (.file (Utf8.encode "// @reminder 0987-06-05 [04:03]: \"\\𝄞\"".toList)
          (.zero false))).insert
      [Service.folderName, ⟨"l", by decide⟩] (.link ".")
    directory := "/w"
    environment := [("HOME", "/w")] }

def exportArgs (path : String) : List String := ["scan", "--root", "/w", "--export", path]

theorem export_after_run_linkedHost : linkedHost.tree.Connected ∧
    Succeeded (run linkedHost (exportArgs "out.json") []) ∧ ∃ store place bytes text,
      Export.Holds store "out.json" linkedHost
        (hostAfter linkedHost (run linkedHost (exportArgs "out.json") [])) place bytes text := by
  have hc : linkedHost.tree.Connected := by decide
  have hread : Invocation.read (exportArgs "out.json") =
      .ok ⟨false, none, some (.scan ⟨some "/w", [], []⟩ (some "out.json") false)⟩ := rfl
  have hdone : Succeeded (run linkedHost (exportArgs "out.json") []) := by decide +kernel
  obtain ⟨home, s, store, place, bytes, text, -, -, -, hholds⟩ :=
    export_after_run hc hread rfl (by decide) hdone
  exact ⟨hc, hdone, store, place, bytes, text, hholds⟩

/-- What is read at the path of an export that has just been made. -/
def readBack (path : String) : Option (List UInt8 × Number.Binary64) :=
  ((hostAfter linkedHost (run linkedHost (exportArgs path) [])).openFile path).toOption

/-- An empty path exports nothing, a path with a slash at its end is no path of a file, and a path
that leads through the link at its own place leads nowhere once the export has taken that place. -/
theorem export_after_run_unread :
    Succeeded (run linkedHost (exportArgs "") []) ∧ readBack "" = none ∧
    Succeeded (run linkedHost (exportArgs "out/") []) ∧ readBack "out/" = none ∧
    Succeeded (run linkedHost (exportArgs "l/l") []) ∧ readBack "l/l" = none := by
  decide +kernel

end CommandLine
end ReminderScan
