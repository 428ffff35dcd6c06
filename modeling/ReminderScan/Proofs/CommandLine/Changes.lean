import ReminderScan.CommandLine.Interrupt
import ReminderScan.Proofs.CommandLine.Edited
import ReminderScan.Proofs.Export

/-! What a run of the program leaves of the files. A run that fails changes none; one that succeeds
changes at most the file of settings, or the target of an export. -/

namespace ReminderScan

namespace Watch

variable {pauses : List Pause}

/-- Nothing else changes the files while the program rests. -/
def Quiet (pauses : List Pause) : Prop := ∀ pause ∈ pauses, ∀ g, (pause g).1.tree = g.tree

theorem Quiet.tree_eq {pause : Pause} (hquiet : Quiet (pause :: pauses)) {h rested : Host}
    {fault : Option Fault} (hpause : pause h = (rested, fault)) : rested.tree = h.tree := by
  have htree := hquiet pause List.mem_cons_self h
  rw [hpause] at htree
  exact htree

theorem Quiet.of_cons {pause : Pause} (hquiet : Quiet (pause :: pauses)) : Quiet pauses :=
  fun other hmem => hquiet other (List.mem_cons_of_mem _ hmem)

theorem tree_loop (hquiet : Quiet pauses) (interval : Number.Binary64) (cycles : Option Nat)
    (h : Host) (w : Watch) : (loop interval pauses cycles h w).host.tree = h.tree := by
  fun_induction loop interval pauses cycles h w with
  | case1 => rfl
  | case2 => rfl
  | case3 _ _ _ _ _ _ _ _ hpause => exact hquiet.tree_eq hpause
  | case4 _ _ _ _ _ _ _ hpause => exact hquiet.tree_eq hpause
  | case5 _ _ _ _ _ _ _ hpause _ _ _ ih => exact (ih hquiet.of_cons).trans (hquiet.tree_eq hpause)

theorem tree_run (hquiet : Quiet pauses) (interval : Number.Binary64) (cycles : Option Nat)
    (h : Host) (w : Watch) : (run interval pauses cycles h w).host.tree = h.tree := by
  rw [run]
  dsimp only
  split
  · rfl
  · exact tree_loop hquiet interval cycles h _

end Watch

namespace CommandLine

/-- What is left of the files: a failure changes none, and a success leaves what it is to leave. -/
structure Changes (h : Host) (success : Prop) (after : Host) (left : Host → Prop) : Prop where
  failed : ¬success → h.tree.Grown after.tree
  succeeded : success → left after

variable {h after : Host} {success : Prop} {left : Host → Prop}

theorem changes_of_tree_eq (htree : after.tree = h.tree) (hleft : success → left after) :
    Changes h success after left := by
  refine ⟨fun _ => ?_, hleft⟩
  rw [htree]
  exact .refl _

theorem changes_of_host_eq (hhost : after = h) :
    Changes h success after fun after => after.tree = h.tree :=
  changes_of_tree_eq (congrArg Host.tree hhost) fun _ => congrArg Host.tree hhost

theorem host_settled (word title : String) (verbose : Bool) (h : Host) (before : List Event)
    (f : Fault) : (settled word title verbose h before f).host = h := by
  rw [settled]
  split <;> rfl

theorem success_settled_ne (word title : String) (verbose : Bool) (h : Host) (before : List Event)
    (f : Fault) : (settled word title verbose h before f).success ≠ .ok true := by
  rw [settled]
  split <;> nofun

/-- What a search that succeeds leaves: at most the target of its export is another than before. -/
def ScanLeft (exportTo : Option String) (before after : Host) : Prop :=
  match exportTo with
  | none => after.tree = before.tree
  | some path =>
    if path = "" then after.tree = before.tree else Export.Exported path before after

/-- What a change of the settings leaves: they are saved as they were loaded, with the changes that
are asked for, if one of these changes anything. -/
def ConfigLeft (path : String) (s : Settings) (root : Option String) (add remove : List String)
    (prune : Option Bool) (before after : Host) : Prop :=
  ∃ edited changes, editSettings before s root add remove prune = .ok (edited, changes) ∧
    if changes = [] then after.tree = before.tree else edited.Saved path before after

/-- What a command that succeeds leaves of the files, when it runs on settings from a path. -/
def Command.Left (path : String) (s : Settings) (before after : Host) : Command → Prop
  | .scan _ exportTo _ => ScanLeft exportTo before after
  | .config _ root add remove prune => ConfigLeft path s root add remove prune before after
  | _ => after.tree = before.tree

theorem changes_runScan (hc : h.tree.Connected) (s : Settings) (verbose : Bool)
    (root exportTo : Option String) (showToday : Bool) :
    Changes h ((runScan h s verbose root exportTo showToday).success = .ok true)
      (runScan h s verbose root exportTo showToday).host (ScanLeft exportTo h) := by
  rw [runScan]
  generalize Service.scanWorkspace ⟨s, .empty⟩ h root = scan
  dsimp only
  split
  · exact changes_of_tree_eq (congrArg Host.tree (host_settled _ _ _ _ _ _))
      fun hsuccess => absurd hsuccess (success_settled_ne _ _ _ _ _ _)
  · exact changes_of_tree_eq rfl nofun
  · split
    · exact changes_of_tree_eq rfl fun _ => rfl
    · exact changes_of_tree_eq rfl fun _ => by rw [ScanLeft, if_pos rfl]
    · rename_i path hpath
      obtain ⟨hfailed, hdone⟩ := Export.changes_writeReminders hc path scan.service.store
      split
      · rename_i written f hwrite
        rw [hwrite] at hfailed
        refine ⟨?_, fun hsuccess => absurd hsuccess (success_settled_ne _ _ _ _ _ _)⟩
        rw [host_settled]
        exact fun _ => hfailed nofun
      · rename_i written f hwrite
        rw [hwrite] at hfailed
        exact ⟨fun _ => hfailed nofun, nofun⟩
      · rename_i written hwrite
        rw [hwrite] at hdone
        refine ⟨fun hsuccess => absurd rfl hsuccess, fun _ => ?_⟩
        rw [ScanLeft, if_neg hpath]
        exact hdone rfl

theorem host_runCheck (s : Settings) (verbose : Bool) (files : List String) :
    (runCheck h s verbose files).host = h := by
  rw [runCheck]
  split
  · exact host_settled _ _ _ _ _ _
  · rfl

theorem host_runToday (s : Settings) (verbose : Bool) (root date : Option String) :
    (runToday h s verbose root date).host = h := by
  unfold runToday
  dsimp only
  split
  · rfl
  · split
    · exact host_settled _ _ _ _ _ _
    · rfl
    · rfl

theorem host_runComplete (typed : String) (date time message : Option String) :
    (runComplete h typed date time message).host = h := by
  rw [runComplete]
  split
  · rfl
  · dsimp only
    split
    · rfl
    · rfl

theorem WatchPlan.tree_run {pauses : List Watch.Pause}
    (hquiet : Watch.Quiet pauses) (plan : WatchPlan) (verbose : Bool) :
    (plan.run h verbose pauses).host.tree = h.tree := by
  have hrun := Watch.tree_run hquiet plan.interval plan.cycles h plan.watch
  rw [WatchPlan.run, watchResult.eq_def]
  split
  · rw [host_settled]
    exact hrun
  · exact hrun

theorem success_resultOf (a : Host.Attempt) (events : List Event) :
    (resultOf a events).success = .ok true ↔ a.fault = none := by
  rw [resultOf]
  cases a.fault with
  | none => simp
  | some f => simp

theorem host_resultOf (a : Host.Attempt) (events : List Event) :
    (resultOf a events).host = a.host :=
  rfl

theorem changes_saveSettings (home : String) (file : Option String) (s : Settings) :
    ((∃ bytes, s.fileBytes = .ok bytes) → (saveSettings h home file s).success ≠ .ok true →
      h.tree.Grown (saveSettings h home file s).host.tree) ∧
    ((saveSettings h home file s).success = .ok true →
      s.Saved (file.getD (SettingsHome.fileIn home)) h (saveSettings h home file s).host) := by
  unfold saveSettings
  cases file with
  | some path =>
    dsimp only
    rw [ne_eq, success_resultOf, host_resultOf, Option.getD_some]
    exact s.changes_save h path
  | none =>
    have hmade : h.Prepared (SettingsHome.ensure h home).host := Host.prepared_makeWithParents h _ _
    generalize SettingsHome.ensure h home = made at hmade ⊢
    dsimp only
    split
    · rename_i f hfault
      rw [ne_eq, success_resultOf, host_resultOf]
      refine ⟨fun _ _ => hmade.grown, ?_⟩
      intro hnone
      cases hfault.symm.trans hnone
    · rw [ne_eq, success_resultOf, host_resultOf, Option.getD_none]
      obtain ⟨hfailed, hsaved⟩ := s.changes_save made.host (SettingsHome.fileIn home)
      exact ⟨fun hbytes hfault => hmade.grown.trans (hfailed hbytes hfault),
        fun hnone => (hsaved hnone).of_prepared hmade⟩

theorem changes_runConfig (home : String) (file : Option String) {s : Settings}
    (hs : s.Keeps Json.IsReadable) (showAll : Bool) (root : Option String)
    (add remove : List String) (prune : Option Bool) :
    Changes h ((runConfig h home file s showAll root add remove prune).success = .ok true)
      (runConfig h home file s showAll root add remove prune).host
      (ConfigLeft (file.getD (SettingsHome.fileIn home)) s root add remove prune h) := by
  rw [runConfig]
  split
  · exact changes_of_tree_eq rfl nofun
  · rename_i edited changes hedit
    dsimp only
    split
    · exact changes_of_tree_eq rfl nofun
    · split
      · rename_i hnone
        refine changes_of_tree_eq rfl fun _ => ⟨edited, changes, hedit, ?_⟩
        rw [if_pos (List.isEmpty_iff.1 hnone)]
      · rename_i hsome
        have hbytes := (keeps_editSettings Json.inherited_isReadable hs hedit).exists_fileBytes
        obtain ⟨hfailed, hsaved⟩ := changes_saveSettings (h := h) home file edited
        refine ⟨hfailed hbytes, fun hsuccess => ⟨edited, changes, hedit, ?_⟩⟩
        rw [if_neg (mt List.isEmpty_iff.2 hsome)]
        exact hsaved hsuccess

theorem exitCode_ending (verbose : Bool) (before : List Event) (r : Result) :
    (r.ending verbose before).exitCode = 0 ↔ r.success = .ok true := by
  rw [Result.ending]
  split
  · rename_i success hsuccess
    rw [hsuccess]
    cases success with
    | true => simp
    | false => simp
  · rename_i hinterrupted
    rw [hinterrupted]
    simp
  · rename_i f _ hfault
    rw [hfault]
    simp

theorem host_ending (verbose : Bool) (before : List Event) (r : Result) :
    (r.ending verbose before).host = r.host := by
  rw [Result.ending]
  split
  · rfl
  · rfl
  · rfl

def Launch.finish (h : Host) (pauses : List Watch.Pause) : Launch → Ending
  | .ended ending => ending
  | .watching verbose before plan => (plan.run h verbose pauses).ending verbose before

theorem run_eq (h : Host) (args : List String) (pauses : List Watch.Pause) :
    run h args pauses = (launch h args).map (Launch.finish h pauses) := by
  rw [run]
  congr 1

/-- Arguments that name a command start it, as soon as the directory of settings is found. -/
theorem launch_of_read {args : List String} {i : Invocation} {command : Command}
    (hread : Invocation.read args = .ok i) (hcommand : i.command = some command) :
    launch h args =
      (SettingsHome.findDirectory h).map fun home => launchCommand h home i command := by
  rw [launch, hread]
  dsimp only
  rw [hcommand]
  cases SettingsHome.findDirectory h with
  | error f => rfl
  | ok home => rfl

theorem Changes.ending {r : Result} (hr : Changes h (r.success = .ok true) r.host left)
    (verbose : Bool) (before : List Event) :
    Changes h ((r.ending verbose before).exitCode = 0) (r.ending verbose before).host left := by
  rw [exitCode_ending, host_ending]
  exact hr

variable {pauses : List Watch.Pause}

theorem changes_runCommand (hc : h.tree.Connected) (hquiet : Watch.Quiet pauses) (home : String)
    (i : Invocation) {s : Settings} (hs : s.Keeps Json.IsReadable) (verbose : Bool)
    (before : List Event) (command : Command) :
    Changes h
      ((((runCommand h home i s command).launch verbose before).finish h pauses).exitCode = 0)
      (((runCommand h home i s command).launch verbose before).finish h pauses).host
      (command.Left (i.settingsFile.getD (SettingsHome.fileIn home)) s h) := by
  cases command with
  | scan workspace exportTo showToday =>
    apply Changes.ending
    exact changes_runScan hc (workspace.apply s) i.verbose workspace.root exportTo showToday
  | check files =>
    apply Changes.ending
    exact changes_of_host_eq (host_runCheck s i.verbose files)
  | today workspace date =>
    apply Changes.ending
    exact changes_of_host_eq (host_runToday (workspace.apply s) i.verbose workspace.root date)
  | watch workspace interval cycles =>
    rw [runCommand]
    split
    · apply Changes.ending
      exact changes_of_host_eq rfl
    · rename_i plan _
      apply Changes.ending
      have htree := plan.tree_run (h := h) hquiet verbose
      exact changes_of_tree_eq htree fun _ => htree
  | complete typed date time message =>
    apply Changes.ending
    exact changes_of_host_eq (host_runComplete typed date time message)
  | config showAll root add remove prune =>
    apply Changes.ending
    exact changes_runConfig home i.settingsFile hs showAll root add remove prune

def Succeeded : Except Fault Ending → Prop
  | .ok ending => ending.exitCode = 0
  | .error _ => False

instance : DecidablePred Succeeded
  | .ok ending => inferInstanceAs (Decidable (ending.exitCode = 0))
  | .error _ => inferInstanceAs (Decidable False)

theorem Succeeded.exists_ok {r : Except Fault Ending} (hr : Succeeded r) : ∃ e, r = .ok e := by
  cases r with
  | ok ending => exact ⟨ending, rfl⟩
  | error f => exact hr.elim

/-- The machine after a run. A fault that is left to the caller stops the program before it does
anything. -/
def hostAfter (h : Host) : Except Fault Ending → Host
  | .ok ending => ending.host
  | .error _ => h

/-- What a run that succeeds leaves of the files. There is no command if a help text is asked
for. -/
def Left (args : List String) (before after : Host) : Prop :=
  (∃ refusal, Invocation.read args = .error refusal) ∧ after.tree = before.tree ∨
  ∃ home i command s, Starts before args home i command s ∧
    command.Left (i.settingsFile.getD (SettingsHome.fileIn home)) s before after

theorem changes_launchCommand (hc : h.tree.Connected) (hquiet : Watch.Quiet pauses) (home : String)
    (i : Invocation) (command : Command) :
    Changes h (((launchCommand h home i command).finish h pauses).exitCode = 0)
      ((launchCommand h home i command).finish h pauses).host
      fun after => ∃ s,
        command.settings h (i.settingsFile.getD (SettingsHome.fileIn home)) = .ok s ∧
        command.Left (i.settingsFile.getD (SettingsHome.fileIn home)) s h after := by
  rw [launchCommand.eq_def]
  split
  · -- A suggestion runs before any settings are loaded.
    have hs := Settings.keeps_standard Json.inherited_isReadable
    obtain ⟨hfailed, hsucceeded⟩ := changes_runCommand hc hquiet home i hs i.verbose [] _
    exact ⟨hfailed, fun hsuccess => ⟨{}, rfl, hsucceeded hsuccess⟩⟩
  · dsimp only
    split
    · apply Changes.ending
      exact changes_of_tree_eq rfl nofun
    · rename_i hcommand _ s hload
      have hs := Settings.keeps_of_load (Settings.loadNamed_eq_ok.1 hload).2
      obtain ⟨hfailed, hsucceeded⟩ := changes_runCommand hc hquiet home i hs i.verbose _ command
      refine ⟨hfailed, fun hsuccess => ⟨s, ?_, hsucceeded hsuccess⟩⟩
      rw [Command.settings]
      · exact hload
      · exact hcommand

theorem changes_run (hc : h.tree.Connected) (hquiet : Watch.Quiet pauses) (args : List String) :
    Changes h (Succeeded (run h args pauses)) (hostAfter h (run h args pauses)) (Left args h) := by
  rw [run_eq]
  cases hlaunch : launch h args with
  | error f => exact changes_of_tree_eq rfl nofun
  | ok launched =>
    obtain ⟨home, hhome, hlaunch⟩ := bind_eq_ok.1 hlaunch
    split at hlaunch
    · rename_i hread
      obtain ⟨text, -, hlaunch⟩ := bind_eq_ok.1 hlaunch
      obtain rfl := Except.ok.inj hlaunch
      exact changes_of_tree_eq rfl fun _ => Or.inl ⟨⟨_, hread⟩, rfl⟩
    · obtain rfl := Except.ok.inj hlaunch
      exact changes_of_tree_eq rfl nofun
    · rename_i i hread
      split at hlaunch
      · obtain ⟨text, -, hlaunch⟩ := bind_eq_ok.1 hlaunch
        obtain rfl := Except.ok.inj hlaunch
        exact changes_of_tree_eq rfl nofun
      · rename_i command hcommand
        obtain rfl := Except.ok.inj hlaunch
        obtain ⟨hfailed, hsucceeded⟩ := changes_launchCommand hc hquiet home i command
        refine ⟨hfailed, fun hsuccess => Or.inr ?_⟩
        obtain ⟨s, hload, hleft⟩ := hsucceeded hsuccess
        exact ⟨home, i, command, s, ⟨hhome, hread, hcommand, hload⟩, hleft⟩

theorem editSettings_of_missing {root : String} (hroot : root ≠ "")
    (hmissing : h.isDirectory (h.absoluteUser root) = false) (s : Settings)
    (add remove : List String) (prune : Option Bool) :
    ∃ f, editSettings h s (some root) add remove prune = .error f := by
  have hset : ∃ f, setRoot h s (some root) = .error f := by
    rw [setRoot]
    · cases hpath : h.absoluteUser? root with
      | error f => exact ⟨f, rfl⟩
      | ok path =>
        obtain ⟨-, rfl⟩ := Host.absoluteUser?_eq_ok.1 hpath
        exact ⟨_, if_neg (Bool.eq_false_iff.1 hmissing)⟩
    · exact hroot
  obtain ⟨f, hset⟩ := hset
  exact ⟨f, by rw [editSettings, hset]; rfl⟩

/-- A root that is no directory stops a change of the settings, whatever else is to be changed. -/
theorem launchCommand_of_missing {root : String} (hroot : root ≠ "")
    (hmissing : h.isDirectory (h.absoluteUser root) = false) (home : String) (i : Invocation)
    (showAll : Bool) (add remove : List String) (prune : Option Bool) :
    ∃ before f, launchCommand h home i (.config showAll (some root) add remove prune) =
      .ended (Result.ending i.verbose before ⟨.error f, h, []⟩) := by
  rw [launchCommand]
  dsimp only
  split
  · exact ⟨_, _, rfl⟩
  · rename_i s _
    obtain ⟨f, hedit⟩ := editSettings_of_missing hroot hmissing s add remove prune
    rw [runCommand, runConfig, hedit]
    exact ⟨_, _, rfl⟩
  · nofun

theorem run_of_missing {args : List String} {i : Invocation} {showAll : Bool} {root : String}
    {add remove : List String} {prune : Option Bool} (hread : Invocation.read args = .ok i)
    (hcommand : i.command = some (.config showAll (some root) add remove prune)) (hroot : root ≠ "")
    (hmissing : h.isDirectory (h.absoluteUser root) = false) :
    ¬Succeeded (run h args pauses) ∧ hostAfter h (run h args pauses) = h := by
  rw [run_eq, launch_of_read hread hcommand]
  cases SettingsHome.findDirectory h with
  | error f => exact ⟨id, rfl⟩
  | ok home =>
    obtain ⟨before, f, hended⟩ :=
      launchCommand_of_missing hroot hmissing home i showAll add remove prune
    dsimp only [Except.map]
    rw [hended]
    refine ⟨?_, host_ending i.verbose before ⟨.error f, h, []⟩⟩
    intro hsuccess
    cases (exitCode_ending i.verbose before ⟨.error f, h, []⟩).1 hsuccess

/-- What a run comes to whose command needs settings and waits for nothing. -/
theorem run_of_ended {args : List String} {i : Invocation} {command : Command}
    {result : String → Settings → Result} (hread : Invocation.read args = .ok i)
    (hcommand : i.command = some command)
    (hloads : ∀ typed date time message, command ≠ .complete typed date time message)
    (hended : ∀ home s, runCommand h home i s command = .ended (result home s))
    (hdone : Succeeded (run h args pauses)) :
    ∃ home s, SettingsHome.findDirectory h = .ok home ∧
      Settings.load h (i.settingsFile.getD (SettingsHome.fileIn home)) = .ok s ∧
      (result home s).success = .ok true ∧
        hostAfter h (run h args pauses) = (result home s).host := by
  rw [run_eq, launch_of_read hread hcommand] at hdone ⊢
  cases hhome : SettingsHome.findDirectory h with
  | error f =>
    rw [hhome] at hdone
    cases hdone
  | ok home =>
    rw [hhome] at hdone
    dsimp only [Except.map] at hdone ⊢
    rw [launchCommand.eq_2 _ _ _ _ hloads] at hdone ⊢
    dsimp only at hdone ⊢
    cases hload : Settings.loadNamed h (i.settingsFile.getD (SettingsHome.fileIn home)) with
    | error f =>
      rw [hload] at hdone
      cases (exitCode_ending i.verbose [] ⟨.error f, h, []⟩).1 hdone
    | ok s =>
      rw [hload] at hdone
      dsimp only at hdone ⊢
      rw [hended] at hdone ⊢
      exact ⟨home, s, rfl, (Settings.loadNamed_eq_ok.1 hload).2, (exitCode_ending _ _ _).1 hdone,
        host_ending _ _ _⟩

/-- A machine with the directory of a user, and nothing in it. -/
def deskHost : Host where
  tree := (FileTree.empty.insert [⟨"home", by decide⟩] .directory).insert
    [⟨"home", by decide⟩, ⟨"u", by decide⟩] .directory
  directory := "/home/u"
  environment := [("HOME", "/home/u")]
  ownHome := "/home/u"
  homes := []
  platform := "linux"
  now := ⟨⟨2024, 3, 1, by decide⟩, 8, 15, 0, 0, by decide⟩
  stamp := 0

end CommandLine
end ReminderScan
