import ReminderScan.Proofs.CommandLine.Changes
import ReminderScan.Proofs.Service.Reread

/-! What a check of documents lists, and its exit code. Documents are named in any way and in any
number; one that cannot be read holds nothing. -/

namespace ReminderScan.CommandLine

variable {h : Host} {files : List String} {s : Settings}

/-- The reminders of documents in the order in which these are named. With pruning each document
counts once, where it is named last. -/
def checked (h : Host) (s : Settings) (files : List String) : List Reminder :=
  let paths := files.map h.absolute
  (if s.pruneOnRescan.isTruthy then paths.dedup else paths).flatMap (h.remindersIn s.defaultTime)

/-- What comes of each document as it is read, on what those before it left. -/
def checkTrail (h : Host) (s : Settings) (files : List String) : List (Outcome Bool) :=
  Service.trail ⟨s, .empty⟩ h (files.map (Trigger.saved, ·))

/-- A document can be asked for by this name: it holds no NUL, and the current directory is there if
the name is seen from it. -/
structure CanAsk (h : Host) (file : String) : Prop where
  nul : '\x00' ∉ file.toList
  full : file.toList.head? = some '/' ∨ h.isDirectory h.directory = true

theorem CanAsk.nul_not_mem_absolute {file : String} (hfile : CanAsk h file)
    (hdirectory : '\x00' ∉ h.directory.toList) : '\x00' ∉ (h.absolute file).toList :=
  Host.not_mem_absolute (by decide) (by decide) hdirectory hfile.nul

theorem checkAll_eq (s : Service) (hr : h.IsRooted) (hdirectory : '\x00' ∉ h.directory.toList)
    (hfiles : ∀ file ∈ files, CanAsk h file) :
    checkAll h s files = ⟨.ok (files.any fun file => s.finds h (h.absolute file)),
      (files.map h.absolute).foldl (·.reread h ·) s,
      (s.trail h (files.map (Trigger.saved, ·))).flatMap Outcome.events⟩ := by
  induction files generalizing s with
  | nil => rfl
  | cons file rest ih =>
    obtain ⟨hfile, hrest⟩ := List.forall_mem_cons.1 hfiles
    have hfull := Host.absolute?_eq_ok.2 ⟨hfile.full, rfl⟩
    have hanswer := s.documentChanged_answer_eq hr .saved (hfile.nul_not_mem_absolute hdirectory)
    have hservice := s.documentChanged_eq_reread hr .saved file
    simp only [List.map_cons, checkAll, hfull, Service.trail, hservice, hanswer,
      ih (s.reread h (h.absolute file)) hrest]
    rfl

theorem toList_checkAll (hr : h.IsRooted) (hdirectory : '\x00' ∉ h.directory.toList)
    (hfiles : ∀ file ∈ files, CanAsk h file) (s : Settings) :
    (checkAll h ⟨s, .empty⟩ files).service.store.toList = checked h s files := by
  rw [checkAll_eq ⟨s, .empty⟩ hr hdirectory hfiles, checked]
  cases hprune : s.pruneOnRescan.isTruthy with
  | false => exact Service.toList_foldl_reread (s := ⟨s, .empty⟩) hprune _
  | true => exact Service.toList_foldl_reread_of_prune (s := ⟨s, .empty⟩) hprune _

theorem checked_eq_nil_iff : checked h s files = [] ↔
    ∀ file ∈ files, h.remindersIn s.defaultTime (h.absolute file) = [] := by
  rw [checked]
  split
  · simp
  · simp

theorem any_finds_eq (h : Host) (s : Settings) (files : List String) :
    (files.any fun file => Service.finds ⟨s, .empty⟩ h (h.absolute file)) =
      !(checked h s files).isEmpty := by
  rw [Bool.eq_iff_iff, Bool.not_eq_true', List.isEmpty_eq_false_iff, ne_eq, checked_eq_nil_iff]
  simp [Service.finds]

/-- A run that lists the reminders of documents. Each document gives an answer, there is nothing but
reports of that before the list, and the exit code says whether the list holds anything. -/
structure Lists (h : Host) (s : Settings) (files : List String) (before : List Event) (e : Ending) :
    Prop where
  exitCode : e.exitCode = if checked h s files = [] then 1 else 0
  events : e.events = before ++ ((checkTrail h s files).flatMap Outcome.events ++
    (checked h s files).map fun r => .line (reminderLine r))
  reports : ((checkTrail h s files).flatMap Outcome.events).all Event.isReport = true
  answers : (checkTrail h s files).map Outcome.answer = files.map fun file =>
    .ok (!(h.remindersIn s.defaultTime (h.absolute file)).isEmpty)

theorem lists_runCheck (hr : h.IsRooted) (hdirectory : '\x00' ∉ h.directory.toList)
    (hfiles : ∀ file ∈ files, CanAsk h file) (s : Settings) (verbose : Bool) (before : List Event) :
    Lists h s files before ((runCheck h s verbose files).ending verbose before) := by
  have hall := checkAll_eq ⟨s, .empty⟩ hr hdirectory hfiles
  have hstore := toList_checkAll hr hdirectory hfiles s
  rw [hall] at hstore
  have hrun : runCheck h s verbose files = ⟨.ok (!(checked h s files).isEmpty), h,
      (checkTrail h s files).flatMap Outcome.events ++
        (checked h s files).map fun r => .line (reminderLine r)⟩ := by
    rw [runCheck, hall]
    dsimp only
    rw [hstore, any_finds_eq]
    rfl
  rw [hrun]
  refine ⟨?_, rfl, Service.isReport_trail _ h _, ?_⟩
  · cases checked h s files with
    | nil => rfl
    | cons r rest => rfl
  · have hnul : ∀ file ∈ files, '\x00' ∉ (h.absolute file).toList :=
      fun file hfile => (hfiles file hfile).nul_not_mem_absolute hdirectory
    rw [checkTrail, Service.answers_trail _ hr (List.forall_mem_map.2 hnul), List.map_map]
    rfl

/-- What a run comes to whose command needs settings and waits for nothing. All that is told before
it is the file of settings. -/
theorem run_eq_ending {args : List String} {i : Invocation} {command : Command} {home : String}
    {result : Result} (pauses : List Watch.Pause) (hread : Invocation.read args = .ok i)
    (hcommand : i.command = some command)
    (hloads : ∀ typed date time message, command ≠ .complete typed date time message)
    (hfound : SettingsHome.findDirectory h = .ok home)
    (hload : Settings.loadNamed h (i.settingsFile.getD (SettingsHome.fileIn home)) = .ok s)
    (hended : runCommand h home i s command = .ended result) :
    ∃ before, run h args pauses = .ok (result.ending i.verbose before) ∧
      (before = [] ∨ i.verbose = true ∧ ∃ file : String,
        before = [.line s!"Using config: {file}"]) := by
  rw [run_eq, launch_of_read hread hcommand, hfound]
  dsimp only [Except.map]
  rw [launchCommand.eq_2 _ _ _ _ hloads, hload]
  dsimp only
  rw [hended]
  refine ⟨_, rfl, ?_⟩
  cases i.verbose with
  | false => exact Or.inl rfl
  | true => exact Or.inr ⟨rfl, _, rfl⟩

/-- A check lists the reminders of the documents it is given, and succeeds just when there are
any. -/
theorem check_lists (hr : h.IsRooted) (hdirectory : '\x00' ∉ h.directory.toList)
    (hfiles : ∀ file ∈ files, CanAsk h file) :
    (∀ s verbose before,
      Lists h s files before ((runCheck h s verbose files).ending verbose before)) ∧
    ∀ args i home s pauses, Invocation.read args = .ok i → i.command = some (.check files) →
      SettingsHome.findDirectory h = .ok home →
      Settings.loadNamed h (i.settingsFile.getD (SettingsHome.fileIn home)) = .ok s →
      ∃ ending before, run h args pauses = .ok ending ∧ Lists h s files before ending ∧
        (before = [] ∨ i.verbose = true ∧ ∃ file : String,
          before = [.line s!"Using config: {file}"]) := by
  have hlists := lists_runCheck hr hdirectory hfiles
  refine ⟨hlists, ?_⟩
  intro args i home s pauses hread hcommand hfound hload
  obtain ⟨before, hrun, hbefore⟩ := run_eq_ending pauses hread hcommand nofun hfound hload rfl
  exact ⟨_, before, hrun, hlists s i.verbose before, hbefore⟩

/-- A machine with two documents that hold reminders, of which one opts out of searches, one that is
not UTF-8, and settings that ask for pruning. -/
def pruningHost : Host :=
  { Service.mixedHost with
    tree := {
      nodes := [([Service.folderName], .directory),
        ([Service.folderName, Service.noteName],
          .file (Text.Utf8.encode "// @reminder 2024-01-02: pay".toList) (.zero false)),
        ([Service.folderName, Service.markedName],
          .file (Text.Utf8.encode "// @excludeScan\n// @reminder 2024-02-30 [7:5]: call".toList)
            (.zero false)),
        ([Service.folderName, Service.brokenName], .file [0xFF] (.zero false)),
        ([Service.folderName, ⟨"s", by decide⟩],
          .file (Text.Utf8.encode "\x7b\"reminders\": \x7b\"prune_on_rescan\": true\x7d\x7d".toList)
            (.zero false))]
      distinct := by decide }
    directory := "/w"
    environment := [("HOME", "/w")] }

def checkFiles : List String := ["a.py", "b.py", "c.py", "gone.py", ".//a.py"]

/-- The document that is named twice is listed where it is named again. -/
theorem check_lists_pruningHost : pruningHost.IsRooted ∧ '\x00' ∉ pruningHost.directory.toList ∧
    (∀ file ∈ checkFiles, CanAsk pruningHost file) ∧
    ∃ s ending before, s.pruneOnRescan.isTruthy = true ∧
      Lists pruningHost s checkFiles before ending ∧
      run pruningHost ("--config" :: "s" :: "check" :: checkFiles) [] = .ok ending ∧
      ending.exitCode = 0 ∧ (checked pruningHost s checkFiles).map reminderLine =
        ["  b.py:2  2024-02-30 7:5  call", "  a.py:1  2024-01-02 09:00  pay"] := by
  have hr : pruningHost.IsRooted := by decide
  have hdirectory : '\x00' ∉ pruningHost.directory.toList := by decide
  have hfiles : ∀ file ∈ checkFiles, CanAsk pruningHost file := by
    have hnul : ∀ file ∈ checkFiles, '\x00' ∉ file.toList := by decide
    exact fun file hfile => ⟨hnul file hfile, Or.inr (by decide +kernel)⟩
  have hread : Invocation.read ("--config" :: "s" :: "check" :: checkFiles) =
      .ok ⟨false, some "s", some (.check checkFiles)⟩ := rfl
  have hfound : SettingsHome.findDirectory pruningHost = .ok "/w/.config/code-nudger" := by
    decide +kernel
  have hsettings : (Settings.loadNamed pruningHost "s").map
      (fun s => (s.pruneOnRescan.isTruthy, s.defaultTime)) = .ok (true, standardTime) := by
    decide +kernel
  obtain ⟨s, hload, hmade⟩ := map_eq_ok.1 hsettings
  obtain ⟨hprune, htime⟩ := Prod.mk.inj hmade
  obtain ⟨ending, before, hrun, hlists, -⟩ :=
    (check_lists hr hdirectory hfiles).2 _ _ _ s [] hread rfl
    hfound hload
  have hlines : (checked pruningHost s checkFiles).map reminderLine =
      ["  b.py:2  2024-02-30 7:5  call", "  a.py:1  2024-01-02 09:00  pay"] := by
    rw [checked, hprune, htime]
    decide +kernel
  refine ⟨hr, hdirectory, hfiles, s, ending, before, hprune, hlists, hrun, ?_, hlines⟩
  rw [hlists.exitCode, if_neg]
  intro hnone
  rw [hnone] at hlines
  cases hlines

/-- A machine with a document whose name starts as an option does. -/
def dashHost : Host :=
  { pruningHost with
    tree := pruningHost.tree.insert [Service.folderName, ⟨"-d.py", by decide⟩]
      (.file (Text.Utf8.encode "// @reminder 2024-01-02: pay".toList) (.zero false)) }

/-- A machine whose current directory was removed. -/
def strayHost : Host := { pruningHost with directory := "/gone" }

/-- The exit code of a run, and what it prints. -/
def printedBy (h : Host) (args : List String) : Option (Nat × List String) :=
  (run h args []).toOption.map fun e =>
    (e.exitCode, e.events.filterMap fun | .printed text => some text | _ => none)

/-- A document whose name is taken for an option is refused, and nothing is listed. Where the
current directory is gone, a name that is seen from it keeps the documents after it from being
read. -/
theorem check_unasked :
    (dashHost.remindersIn standardTime "/w/-d.py").map reminderLine =
      ["  -d.py:1  2024-01-02 09:00  pay"] ∧
    printedBy dashHost ["check", "-d.py"] = some (2, []) ∧
    (strayHost.remindersIn standardTime "/w/a.py").map reminderLine =
      ["  a.py:1  2024-01-02 09:00  pay"] ∧
    printedBy strayHost ["check", "c.py", "/w/a.py"] = some (1, []) := by
  refine ⟨?_, ?_, ?_, ?_⟩
  all_goals decide +kernel

end ReminderScan.CommandLine
