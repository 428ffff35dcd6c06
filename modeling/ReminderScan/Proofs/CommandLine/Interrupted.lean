import ReminderScan.Proofs.CommandLine.Changes

/-! What any run of the program leaves of the files, also one that the user breaks off. An interrupt
leaves a file of settings that is written only in part, or a temporary file beside the target of an
export; all else is as it was. -/

namespace ReminderScan

open Text

namespace Host

variable {h met : Host} {path : String}

theorem MakesDirectories.prepared (hm : h.MakesDirectories path met) : Prepared h met := by
  cases hm with
  | onTheWay => exact prepared_makeMissing h _
  | done => exact prepared_makeDirectories h path

theorem MakesWithParents.prepared {slashes : Nat} {names : List String}
    (hm : h.MakesWithParents slashes names met) : Prepared h met := by
  induction hm with
  | start => exact .refl h
  | parents _ _ ih => exact ih
  | done => exact prepared_makeWithParents h _ _

/-- A file is as it was, or it holds a beginning of what is written to it. -/
theorem WritesFile.eq_or_exists {bytes : List UInt8} (hw : h.WritesFile path bytes met) :
    met = h ∨ ∃ front, front <+: bytes ∧ h.writeFile path front = .ok met := by
  cases hw with
  | start => exact Or.inl rfl
  | @begun opened _ front hopened hfront hwritten =>
    obtain ⟨written, hdirect, hagain⟩ := writeFile_opened hopened front
    cases hwritten.symm.trans hagain
    exact Or.inr ⟨front, hfront, hdirect⟩

end Host

namespace Settings

variable {s : Settings} {h met : Host} {path : String}

/-- The path leads to a file that holds a beginning of the settings, perhaps all of them. Apart from
that file and from new directories nothing is another than before. -/
def Begun (s : Settings) (path : String) (before after : Host) : Prop :=
  ∃ place bytes front, s.fileBytes = .ok bytes ∧ front <+: bytes ∧
    after.locate true (before.absoluteUser path) =
      .ok (.taken place (.file front before.stampTime)) ∧
    before.tree.GrownApart place after.tree

theorem Saved.begun (hs : s.Saved path h met) : s.Begun path h met := by
  obtain ⟨place, bytes, hbytes, hl, hapart⟩ := hs
  exact ⟨place, bytes, bytes, hbytes, List.prefix_rfl, hl, hapart⟩

theorem Begun.of_prepared {made : Host} (hmade : h.Prepared made) (hs : s.Begun path made met) :
    s.Begun path h met := by
  obtain ⟨place, bytes, front, hbytes, hfront, hl, hapart⟩ := hs
  obtain ⟨tree, rfl⟩ := hmade.same
  exact ⟨place, bytes, front, hbytes, hfront, hl, hmade.grown.trans_apart hapart⟩

theorem Saves.grown_or_begun (hbytes : ∃ bytes, s.fileBytes = .ok bytes) (hs : s.Saves h path met) :
    h.tree.Grown met.tree ∨ s.Begun path h met := by
  cases hs with
  | making hmakes => exact Or.inl hmakes.prepared.grown
  | writing hmade hwrites =>
    have hprepared := h.prepared_makeDirectories (Path.parent (h.absoluteUser path))
    rw [hmade] at hprepared
    rcases hwrites.eq_or_exists with rfl | ⟨front, hfront, hwritten⟩
    · exact Or.inl hprepared.grown
    · obtain ⟨bytes, hbytes⟩ := hbytes
      obtain ⟨text, houtput, rfl⟩ := fileBytes_eq_ok.1 hbytes
      rw [houtput] at hfront
      obtain ⟨place, hfiled, -, hl⟩ := Host.filed_writeFile hwritten
      refine Or.inr (Begun.of_prepared hprepared
        ⟨place, _, front, hbytes, hfront, ?_, fun p hp => Or.inl (hfiled.off p hp)⟩)
      rw [hprepared.absoluteUser_eq]
      exact hl

end Settings

namespace Export

variable {h met : Host} {path : String} {output : Json.Output}

/-- A temporary file is new. Apart from it and from new directories nothing is another than
before. -/
def Unmoved (path : String) (before after : Host) : Prop :=
  ∃ place, temporary? before path = some place ∧ before.tree.get? place = none ∧
    before.tree.GrownApart place after.tree

theorem WritesThrough.cases (hc : h.tree.Connected)
    (hw : WritesThrough h (.ofText path) output met) :
    h.tree.Grown met.tree ∨
    (∃ place, opened? h (.ofText path) = some place ∧ h.tree.GrownApart place met.tree) ∨
    ∃ bytes, Placed (Path.Names.ofText path).text bytes h met := by
  cases hw with
  | writing hwrites =>
    cases hwrites with
    | start => exact Or.inl (.refl _)
    | begun hopened _ hwritten =>
      obtain ⟨place, tree, hh, rfl, hplace⟩ := exists_holding_of_written rfl hopened hwritten
      exact Or.inr (Or.inl ⟨place, hplace, fun p hp => Or.inl (hh.filed.off p hp)⟩)
  | written hpath hopened hwritten =>
    obtain ⟨place, tree, hh, rfl, -⟩ := exists_holding_of_written hpath hopened hwritten
    exact Or.inl fun p => Or.inl (hh.get?_cleanUp hc p)
  | moved hpath hopened hwritten hm =>
    exact Or.inr (Or.inr ⟨_, (placed_moveFile hpath hopened hwritten hc hm).1⟩)

theorem WritesOutput.cases (hc : h.tree.Connected) (hw : WritesOutput h path output met) :
    h.tree.Grown met.tree ∨ Unmoved path h met ∨ Exported path h met := by
  cases hw with
  | making _ hmakes => exact Or.inl hmakes.prepared.grown
  | @writing names made _ hnames hmade hthrough =>
    have hprepare : prepare h names = ⟨made, none⟩ := hmade
    have hprepared : h.Prepared (prepare h names).host := Host.prepared_makeWithParents h _ _
    have htemporary : temporary? h path = opened? made names := by
      simp only [temporary?_eq hnames, hprepare, Option.elim_none]
    subst hnames
    rw [hprepare] at hprepared
    rcases hthrough.cases (hprepared.connected hc) with
      hgrown | ⟨place, hplace, hapart⟩ | ⟨bytes, hplaced⟩
    · exact Or.inl (hprepared.grown.trans hgrown)
    · refine Or.inr
        (Or.inl ⟨place, htemporary.trans hplace, ?_, hprepared.grown.trans_apart hapart⟩)
      exact (hprepared.grown place).eq_none (get?_of_opened? hplace)
    · have hplaced' :
          Placed (named h path) bytes (prepare h (.ofText (h.expandUser path))).host met := by
        rw [hprepare]
        exact hplaced
      obtain ⟨place, hstands⟩ := stands_of_placed hplaced'
      exact Or.inr (Or.inr ⟨place, hstands.target, hstands.others⟩)

end Export

namespace CommandLine

variable {h met : Host} {args : List String} {pauses : List Watch.Pause}

/-- What an interrupt leaves of the files where it strikes a command that changes them. -/
def Command.Cut (path : String) (s : Settings) (before after : Host) : Command → Prop
  | .scan _ exportTo _ => ∃ target, exportTo = some target ∧
      (Export.Unmoved target before after ∨ Export.Exported target before after)
  | .config _ root add remove prune => ∃ edited changes,
      editSettings before s root add remove prune = .ok (edited, changes) ∧ changes ≠ [] ∧
        edited.Begun path before after
  | _ => False

/-- What an interrupt leaves of the files: new directories at most, or what the command was
changing. -/
def Cut (args : List String) (before after : Host) : Prop :=
  before.tree.Grown after.tree ∨ ∃ home i command s, Starts before args home i command s ∧
    command.Cut (i.settingsFile.getD (SettingsHome.fileIn home)) s before after

theorem cut_of_tree_eq (htree : met.tree = h.tree) : Cut args h met := by
  refine Or.inl ?_
  rw [htree]
  exact .refl _

theorem Left.cut (hleft : Left args h met) : Cut args h met := by
  obtain ⟨-, htree⟩ | ⟨home, i, command, s, hstarts, hleft⟩ := hleft
  · exact cut_of_tree_eq htree
  · cases command with
    | scan workspace exportTo showToday =>
      cases exportTo with
      | none => exact cut_of_tree_eq hleft
      | some target =>
        rw [Command.Left, ScanLeft] at hleft
        split at hleft
        · exact cut_of_tree_eq hleft
        · exact Or.inr ⟨home, i, _, s, hstarts, target, rfl, Or.inr hleft⟩
    | config showAll root add remove prune =>
      obtain ⟨edited, changes, hedit, hleft⟩ := hleft
      split at hleft
      · exact cut_of_tree_eq hleft
      · rename_i hsome
        exact Or.inr ⟨home, i, _, s, hstarts, edited, changes, hedit, hsome, hleft.begun⟩
    | check => exact cut_of_tree_eq hleft
    | today => exact cut_of_tree_eq hleft
    | watch => exact cut_of_tree_eq hleft
    | complete => exact cut_of_tree_eq hleft

theorem SavesSettings.grown_or_begun {home : String} {s : Settings} {file : Option String}
    (hbytes : ∃ bytes, s.fileBytes = .ok bytes) (hs : SavesSettings h home s file met) :
    h.tree.Grown met.tree ∨ s.Begun (file.getD (SettingsHome.fileIn home)) h met := by
  cases hs with
  | given hsaves => exact hsaves.grown_or_begun hbytes
  | making _ hmakes => exact Or.inl hmakes.prepared.grown
  | usual hmade hsaves =>
    have hprepared : h.Prepared (SettingsHome.ensure h home).host :=
      Host.prepared_makeWithParents h _ _
    rw [hmade] at hprepared
    rcases hsaves.grown_or_begun hbytes with hgrown | hbegun
    · exact Or.inl (hprepared.grown.trans hgrown)
    · exact Or.inr (hbegun.of_prepared hprepared)

theorem Starts.keeps {home : String} {i : Invocation} {command : Command} {s : Settings}
    (hstarts : Starts h args home i command s) : s.Keeps Json.IsReadable := by
  have hload := hstarts.loaded
  rw [Command.settings.eq_def] at hload
  split at hload
  · obtain rfl := Except.ok.inj hload
    exact Settings.keeps_standard Json.inherited_isReadable
  · exact Settings.keeps_of_load (Settings.loadNamed_eq_ok.1 hload).2

theorem Meets.cut (hc : h.tree.Connected) (hquiet : Watch.Quiet pauses)
    (hmeets : Meets h args pauses met) : Cut args h met := by
  cases hmeets with
  | start => exact cut_of_tree_eq rfl
  | @rested rested ending hrested hrun =>
    have hquiet' : Watch.Quiet rested := fun pause hpause => hquiet pause (hrested.subset hpause)
    obtain ⟨hfailed, hsucceeded⟩ := changes_run hc hquiet' args
    rw [hrun] at hfailed hsucceeded
    by_cases hsuccess : Succeeded (.ok ending)
    · exact (hsucceeded hsuccess).cut
    · exact Or.inl (hfailed hsuccess)
  | exporting hstarts _ _ _ hwrites =>
    rcases hwrites.cases hc with hgrown | hleft
    · exact Or.inl hgrown
    · exact Or.inr ⟨_, _, _, _, hstarts, _, rfl, hleft⟩
  | saving hstarts hedit hsome hsaves =>
    have hbytes :=
      (keeps_editSettings Json.inherited_isReadable hstarts.keeps hedit).exists_fileBytes
    rcases hsaves.grown_or_begun hbytes with hgrown | hbegun
    · exact Or.inl hgrown
    · exact Or.inr ⟨_, _, _, _, hstarts, _, _, hedit, hsome, hbegun⟩

/-- A run that does not succeed changes no file, and one that does changes at most the target of an
export, or the file of settings, which holds what was loaded and what the command asked for. A run
that the user breaks off may leave a part of that. Nothing is saved if the root among the changes is
no directory. -/
theorem files_after_run (hc : h.tree.Connected) (hquiet : Watch.Quiet pauses) (args : List String) :
    (¬Succeeded (run h args pauses) → h.tree.Grown (hostAfter h (run h args pauses)).tree) ∧
    (Succeeded (run h args pauses) → Left args h (hostAfter h (run h args pauses))) ∧
    (∀ e, BrokenOff h args pauses e → e.exitCode = 130 ∧ Cut args h e.host) ∧
    ∀ i showAll root add remove prune, Invocation.read args = .ok i →
      i.command = some (.config showAll (some root) add remove prune) → root ≠ "" →
      h.isDirectory (h.absoluteUser root) = false →
      ¬Succeeded (run h args pauses) ∧ hostAfter h (run h args pauses) = h ∧
        ∀ e, BrokenOff h args pauses e → h.tree.Grown e.host.tree := by
  obtain ⟨hfailed, hsucceeded⟩ := changes_run hc hquiet args
  have hcut : ∀ e, BrokenOff h args pauses e → e.exitCode = 130 ∧ Cut args h e.host := by
    rintro _ ⟨-, -, -, -, hmeets⟩
    exact ⟨rfl, hmeets.cut hc hquiet⟩
  refine ⟨hfailed, hsucceeded, hcut, ?_⟩
  intro i showAll root add remove prune hread hcommand hne hmissing
  obtain ⟨hnot, hsame⟩ : ¬Succeeded (run h args pauses) ∧ hostAfter h (run h args pauses) = h :=
    run_of_missing hread hcommand hne hmissing
  refine ⟨hnot, hsame, ?_⟩
  intro e hbroken
  obtain hgrown | ⟨home, i', command, s, hstarts, hleft⟩ := (hcut e hbroken).2
  · exact hgrown
  · -- Settings with such a root are not changed, so that nothing can be saved.
    obtain rfl := Except.ok.inj (hread.symm.trans hstarts.read)
    obtain rfl := Option.some.inj (hcommand.symm.trans hstarts.asked)
    obtain ⟨edited, changes, hedit, -⟩ := hleft
    obtain ⟨f, herror⟩ := editSettings_of_missing hne hmissing s add remove prune
    cases herror.symm.trans hedit

def pruneArgs : List String := ["--config", "c", "config", "--prune-on-rescan", "on"]

def missingRootArgs : List String :=
  ["config", "--set-root", "/missing", "--add-ext", "rs", "--prune-on-rescan", "on"]

/-- The settings go to a new file. With a root that is missing, nothing is saved of all the changes
that are asked for. -/
theorem files_after_run_deskHost : deskHost.tree.Connected ∧ Watch.Quiet [] ∧
    (Succeeded (run deskHost pruneArgs []) ∧
      (hostAfter deskHost (run deskHost pruneArgs [])).tree.get?
        [⟨"home", by decide⟩, ⟨"u", by decide⟩, ⟨"c", by decide⟩] ≠ none ∧
      Left pruneArgs deskHost (hostAfter deskHost (run deskHost pruneArgs []))) ∧
    ¬Succeeded (run deskHost missingRootArgs []) ∧
      hostAfter deskHost (run deskHost missingRootArgs []) = deskHost := by
  have hc : deskHost.tree.Connected := by decide
  have hquiet : Watch.Quiet [] := List.forall_mem_nil _
  refine ⟨hc, hquiet, ?_, ?_⟩
  · have hdone : Succeeded (run deskHost pruneArgs []) := by decide +kernel
    exact ⟨hdone, by decide +kernel, (files_after_run hc hquiet pruneArgs).2.1 hdone⟩
  · have hread : Invocation.read missingRootArgs =
        .ok ⟨false, none, some (.config false (some "/missing") ["rs"] [] (some true))⟩ := rfl
    have hmissing : deskHost.isDirectory (deskHost.absoluteUser "/missing") = false := by
      decide +kernel
    obtain ⟨hnot, hsame, -⟩ :=
      (files_after_run hc hquiet missingRootArgs).2.2.2 _ _ _ _ _ _ hread rfl
      (by decide) hmissing
    exact ⟨hnot, hsame⟩

def keptPlace : Place := [⟨"kept", by decide⟩]

def keptBytes : List UInt8 := Utf8.encode "\x7b\x7d".toList

/-- The desk with a file of settings. -/
def keptHost : Host :=
  { deskHost with tree := deskHost.tree.insert keptPlace (.file keptBytes (.zero false)) }

/-- What is left of it when its file was opened, and nothing was written yet. -/
def emptiedHost : Host := keptHost.put keptPlace (.file [] keptHost.stampTime)

def keptArgs : List String := ["--config", "/kept", "config", "--prune-on-rescan", "on"]

theorem brokenOff_emptiedHost : ∃ e, BrokenOff keptHost keptArgs [] e ∧ e.host =
    emptiedHost.put keptPlace (.file [] keptHost.stampTime) := by
  have hloads : (Settings.loadNamed keptHost "/kept").map (·.defaultTime) = .ok standardTime := by
    decide +kernel
  obtain ⟨s, hloaded, -⟩ := map_eq_ok.1 hloads
  have hdone : Succeeded (run keptHost keptArgs []) := by decide +kernel
  obtain ⟨whole, hwhole⟩ := hdone.exists_ok
  have hread : Invocation.read keptArgs =
      .ok ⟨false, some "/kept", some (.config false none [] [] (some true))⟩ := rfl
  have hfound : SettingsHome.findDirectory keptHost = .ok "/home/u/.config/code-nudger" := by
    decide +kernel
  have hedit : editSettings keptHost s none [] [] (some true) =
      .ok ({ s with pruneOnRescan := .bool true }, [.line "✓ prune_on_rescan = True"]) := rfl
  have hpath : keptHost.absoluteUser "/kept" = "/kept" := by decide +kernel
  have hmade :
      keptHost.makeDirectories (Path.parent (keptHost.absoluteUser "/kept")) = ⟨keptHost, none⟩ := by
    rw [hpath]
    rfl
  have hopened : keptHost.writeFile (keptHost.absoluteUser "/kept") [] = .ok emptiedHost := by
    rw [hpath]
    rfl
  have hemptied : emptiedHost.writeFile (keptHost.absoluteUser "/kept") [] =
      .ok (emptiedHost.put keptPlace (.file [] keptHost.stampTime)) := by
    rw [hpath]
    rfl
  exact ⟨_, .intro hread rfl hwhole List.nil_prefix (.saving ⟨hfound, hread, rfl, hloaded⟩ hedit
    (List.cons_ne_nil _ _) (.given (.writing hmade (.begun hopened List.nil_prefix hemptied)))),
      rfl⟩

def blankRootArgs : List String :=
  ["--config", "/kept", "config", "--set-root", "", "--prune-on-rescan", "on"]

/-- A run that is broken off while it saves may leave nothing of the settings that there were. A
root that is no path at all is passed over, and the other changes are saved. -/
theorem files_after_cut :
    (∃ e, BrokenOff keptHost keptArgs [] e ∧ e.exitCode = 130 ∧
      (keptHost.openFile "/kept").map Prod.fst = .ok keptBytes ∧ keptBytes ≠ [] ∧
      (e.host.openFile "/kept").map Prod.fst = .ok []) ∧
    deskHost.isDirectory "" = false ∧ Succeeded (run deskHost blankRootArgs []) ∧
      (hostAfter deskHost (run deskHost blankRootArgs [])).tree.get? keptPlace ≠ none := by
  refine ⟨?_, by decide +kernel, by decide +kernel, by decide +kernel⟩
  obtain ⟨e, hbroken, hhost⟩ := brokenOff_emptiedHost
  refine ⟨e, hbroken, ?_, by decide +kernel, by decide +kernel, ?_⟩
  · cases hbroken
    rfl
  · rw [hhost]
    decide +kernel

end CommandLine
end ReminderScan
