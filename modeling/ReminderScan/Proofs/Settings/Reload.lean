import ReminderScan.Proofs.CommandLine.Changes
import ReminderScan.Proofs.Json.Lines
import ReminderScan.Proofs.Text.Utf8

/-! Settings that are saved are loaded again, whatever the file held before. The usual file stays
the same file while its directory is remembered, whatever becomes of the environment, unless a tilde
stands at the start of that directory: it is read as a home directory once more. -/

namespace ReminderScan

open Text

theorem Json.isSpaced_settings : Json.Layout.settings.IsSpaced := by
  intro step hstep c hc
  obtain rfl := Option.some.inj hstep
  simpa using hc

theorem Host.head?_expandUser {h : Host} (hhome : h.home.toList.head? = some '/') :
    (h.expandUser "~").toList.head? = some '/' := by
  have hexpand : h.expandUser "~" =
      if (dropSlashes h.home.toList ++ []).isEmpty then "/"
      else String.ofList (dropSlashes h.home.toList ++ []) := rfl
  have hprefix : dropSlashes h.home.toList <+: h.home.toList := by
    rw [← List.reverse_suffix, dropSlashes, List.reverse_reverse]
    exact List.dropWhile_suffix _
  rw [hexpand, List.append_nil]
  split
  · rfl
  · rename_i hne
    obtain ⟨rest, hrest⟩ := hprefix
    rw [← hrest, List.head?_append_of_ne_nil _ (mt List.isEmpty_iff.2 hne)] at hhome
    rw [String.toList_ofList]
    exact hhome

theorem Host.locate_environment (h : Host) (environment : List (String × String)) (follow : Bool)
    (path : String) : Host.locate { h with environment } follow path = h.locate follow path := by
  rw [locate, locate]

namespace SettingsHome

variable {h : Host} {home kept : SettingsHome} {directory : String}

/-- No tilde stands at the start of the path of the usual file. -/
def IsSteady (home : SettingsHome) : Prop :=
  ∀ directory ∈ home.directory?, (fileIn directory).toList.head? ≠ some '~'

/-- The environment says from the root on where the settings are kept. -/
def IsFirm (h : Host) : Prop :=
  (∃ named, h.lookupVariable variableName = some named ∧ named ≠ "") ∨
    h.platform = "linux" ∧ h.home.toList.head? = some '/'

theorem directory?_of_directory (hfound : home.directory h = .ok (directory, kept)) :
    kept.directory? = some directory := by
  rw [SettingsHome.directory] at hfound
  split at hfound
  · rename_i known hknown
    obtain ⟨rfl, rfl⟩ := Prod.mk.inj (Except.ok.inj hfound)
    exact hknown
  · obtain ⟨found, -, hkept⟩ := map_eq_ok.1 hfound
    obtain ⟨rfl, rfl⟩ := Prod.mk.inj hkept
    rfl

theorem head?_resolve {path resolved : String} (hresolved : resolve h path = .ok resolved) :
    resolved.toList.head? = some '/' := by
  rw [resolve] at hresolved
  split at hresolved
  · cases hresolved
  · split at hresolved
    · cases hresolved
    · dsimp only at hresolved
      split at hresolved
      · cases hresolved
      · split at hresolved
        · cases hresolved
        · obtain rfl := Except.ok.inj hresolved
          exact Path.Names.head?_text (by simp)

theorem slashes_of_expandHome {names : Path.Names} (hexpand : expandHome h ⟨0, ["~"]⟩ = .ok names) :
    names.slashes = (Path.Names.ofText (h.expandUser "~")).slashes := by
  have hhead : "~".toList.head? = some '~' := by decide
  have hnul : '\x00' ∉ Host.userOf "~".toList := by decide
  simp only [expandHome, hhead, hnul, if_true, if_false] at hexpand
  split at hexpand
  · cases hexpand
  · obtain rfl := Except.ok.inj hexpand
    rfl

theorem head?_usualDirectory (hlinux : h.platform = "linux")
    (hhome : h.home.toList.head? = some '/')
    (hfound : usualDirectory h = .ok directory) : directory.toList.head? = some '/' := by
  have hdarwin : h.platform ≠ "darwin" := by
    rw [hlinux]
    decide
  have hwin : ¬"win".toList.isPrefixOf h.platform.toList := by
    rw [hlinux]
    decide
  rw [usualDirectory] at hfound
  dsimp only at hfound
  rw [if_neg hdarwin, if_neg hwin] at hfound
  obtain ⟨names, hexpand, hfound⟩ := bind_eq_ok.1 hfound
  obtain rfl := Except.ok.inj hfound
  apply Path.Names.head?_text
  dsimp only
  rw [slashes_of_expandHome hexpand]
  exact Path.Names.slashes_ofText (Host.head?_expandUser hhome)

theorem head?_findDirectory (hfirm : IsFirm h) (hfound : findDirectory h = .ok directory) :
    directory.toList.head? = some '/' := by
  rcases hfirm with ⟨named, hnamed, hne⟩ | ⟨hlinux, hhome⟩
  · rw [findDirectory, hnamed] at hfound
    dsimp only at hfound
    rw [if_neg hne] at hfound
    obtain ⟨expanded, -, hresolved⟩ := bind_eq_ok.1 hfound
    exact head?_resolve hresolved
  · rw [findDirectory] at hfound
    split at hfound
    · split at hfound
      · exact head?_usualDirectory hlinux hhome hfound
      · obtain ⟨expanded, -, hresolved⟩ := bind_eq_ok.1 hfound
        exact head?_resolve hresolved
    · exact head?_usualDirectory hlinux hhome hfound

theorem isSteady_of_isFirm (hunknown : home.directory? = none) (hfirm : IsFirm h)
    (hfound : home.directory h = .ok (directory, kept)) : kept.IsSteady := by
  rw [SettingsHome.directory, hunknown] at hfound
  obtain ⟨found, hfind, hkept⟩ := map_eq_ok.1 hfound
  obtain ⟨rfl, rfl⟩ := Prod.mk.inj hkept
  intro directory hmem
  obtain rfl := Option.some.inj hmem
  have hfile : (fileIn found).toList.head? = some '/' :=
    Path.Names.head?_text (Path.Names.slashes_ofText (head?_findDirectory hfirm hfind))
  rw [hfile]
  decide

end SettingsHome

namespace Settings

variable {s edited : Settings} {h : Host}

theorem Keeps.imp {P Q : Json.Value → Prop} (hPQ : ∀ v, P v → Q v) (hs : s.Keeps P) : s.Keeps Q :=
  ⟨hPQ _ hs.marker, hPQ _ hs.pruneOnRescan, hPQ _ hs.reportInvalid⟩

theorem accepted_standard : ({} : Settings).Accepted :=
  accepted_of_check (by decide) (SettingsDraft.check_standard emptyHost)

theorem accepted_of_load (hr : h.IsRooted) {path : String} (hl : load h path = .ok s) :
    s.Accepted := by
  obtain rfl | ⟨_, members, -, ho⟩ := eq_standard_or_of_load hl
  · exact accepted_standard
  · exact accepted_of_ofJson hr ho

/-- Settings as programs come by them: from a value, from a file, or from others by changes that a
command asked for. -/
inductive Obtained : Settings → Prop
  | given {h : Host} {v : Json.Value} {s : Settings} (hr : h.IsRooted)
    (hv : Json.HasDistinctNames v)
      (ho : ofJson h v = .ok s) : Obtained s
  | loaded {h : Host} {path : String} {s : Settings} (hr : h.IsRooted) (hl : load h path = .ok s) :
      Obtained s
  | edited {h : Host} {s edited : Settings} {root : Option String} {add remove : List String}
      {prune : Option Bool} {changes : List Event} (hr : h.IsRooted) (hs : Obtained s)
      (he : CommandLine.editSettings h s root add remove prune = .ok (edited, changes)) :
      Obtained edited

theorem Obtained.accepted (hs : s.Obtained) : s.Accepted := by
  induction hs with
  | given hr _ ho => exact accepted_of_ofJson hr ho
  | loaded hr hl => exact accepted_of_load hr hl
  | edited hr _ he ih => exact CommandLine.accepted_editSettings hr ih he

theorem Obtained.keeps (hs : s.Obtained) : s.Keeps Json.HasDistinctNames := by
  induction hs with
  | given _ hv ho => exact keeps_of_ofJson Json.inherited_hasDistinctNames hv ho
  | loaded _ hl => exact (keeps_of_load hl).imp fun _ => Json.IsReadable.hasDistinctNames
  | edited _ _ he ih => exact CommandLine.keeps_editSettings Json.inherited_hasDistinctNames ih he

theorem Keeps.read_fileBytes (hs : s.Keeps Json.HasDistinctNames) {bytes : List UInt8}
    (hb : s.fileBytes = .ok bytes) : ∃ text, Utf8.decode bytes = .ok text ∧
      unifyLineEnds text = text ∧ Json.parse text = .ok s.toJson := by
  obtain ⟨text, houtput, rfl⟩ := fileBytes_eq_ok.1 hb
  obtain ⟨hshort, hdocument⟩ := (s.toJson.agrees .settings 0 text).1 houtput
  have hread := (hs.toJson Json.inherited_hasDistinctNames).isReadable hshort hdocument
  exact ⟨text, Utf8.decode_encode text,
    unifyLineEnds_of_not_mem
      (Json.return_not_mem_write Json.isSpaced_settings hread.isPlain hdocument),
    hread.parse_document Json.isSpaced_settings hdocument⟩

/-- A file that holds settings is read as these. -/
theorem Keeps.load_of_openFile (hs : s.Keeps Json.HasDistinctNames) {path : String}
    {bytes : List UInt8} {modified : Number.Binary64} (hb : s.fileBytes = .ok bytes)
    (hfile : h.openFile (h.absoluteUser path) = .ok (bytes, modified)) :
    load h path = ofJson h s.toJson := by
  obtain ⟨text, hdecode, hends, hparse⟩ := hs.read_fileBytes hb
  rw [load_of_file hfile, hdecode]
  dsimp only
  rw [hends, hparse]
  rfl

theorem Keeps.load_eq (hs : s.Keeps Json.HasDistinctNames) {path : String} {place : Place}
    {bytes : List UInt8} {modified : Number.Binary64} (hb : s.fileBytes = .ok bytes)
    (hl : h.locate true (h.absoluteUser path) = .ok (.taken place (.file bytes modified))) :
    load h path = ofJson h s.toJson :=
  hs.load_of_openFile hb (by rw [Host.openFile, hl])

theorem same_save (s : Settings) (h : Host) (path : String) :
    ∃ tree, (s.save h path).host = { h with tree } := by
  unfold save Host.Attempt.andThen
  dsimp only
  obtain ⟨tree, hmade⟩ := (h.prepared_makeDirectories (Path.parent (h.absoluteUser path))).same
  generalize h.makeDirectories (Path.parent (h.absoluteUser path)) = made at hmade ⊢
  cases made.fault with
  | some f => exact ⟨tree, hmade⟩
  | none =>
    rcases writeOutput_eq made.host (h.absoluteUser path) (s.toJson.output .settings 0) with
      ⟨f, hwrite⟩ | ⟨written, hw, hwrite⟩
    · exact ⟨tree, hwrite ▸ hmade⟩
    · obtain ⟨place, -, ⟨tree', rfl⟩, -⟩ := Host.filed_writeFile hw
      refine ⟨tree', ?_⟩
      dsimp only
      rw [hwrite, hmade]

/-- Settings that were saved are loaded by every path that leads where they were saved. -/
theorem Obtained.load_of_saved (hs : s.Obtained) {path : String} {before after : Host}
    (hsaved : s.Saved path before after)
    (hpath : after.absoluteUser path = before.absoluteUser path) :
    ∃ again, load after path = .ok again ∧ ofJson after s.toJson = .ok again := by
  obtain ⟨place, bytes, hbytes, hl, -⟩ := hsaved
  rw [← hpath] at hl
  exact ⟨s.again, (hs.keeps.load_eq hbytes hl).trans hs.accepted.ofJson_toJson,
    hs.accepted.ofJson_toJson⟩

theorem Obtained.load_save (hs : s.Obtained) {path : String}
    (hdone : (s.save h path).fault = none) :
    ∃ again, load (s.save h path).host path = .ok again ∧
      ofJson (s.save h path).host s.toJson = .ok again := by
  have hsaved := (s.changes_save h path).2 hdone
  obtain ⟨tree, hsame⟩ := s.same_save h path
  refine hs.load_of_saved hsaved ?_
  rw [hsame]
  rfl

/-- What a save to the usual file leaves: its directory is remembered, and the settings are in
it. -/
theorem saved_saveTo {home kept : SettingsHome} {saved : Host.Attempt}
    (hsave : s.saveTo home h none = (kept, saved)) (hdone : saved.fault = none) :
    ∃ directory tree, home.directory h = .ok (directory, kept) ∧ saved.host = { h with tree } ∧
      s.Saved (SettingsHome.fileIn directory) h saved.host := by
  rw [saveTo] at hsave
  cases hfound : home.directory h with
  | error f =>
    rw [hfound] at hsave
    obtain ⟨rfl, rfl⟩ := Prod.mk.inj hsave
    cases hdone
  | ok found =>
    obtain ⟨directory, remembered⟩ := found
    rw [hfound] at hsave
    obtain ⟨rfl, rfl⟩ := Prod.mk.inj hsave
    have hmade : h.Prepared (SettingsHome.ensure h directory).host :=
      Host.prepared_makeWithParents h _ _
    generalize SettingsHome.ensure h directory = made at hmade hdone ⊢
    obtain ⟨tree, hsame⟩ := hmade.same
    rw [Host.Attempt.andThen] at hdone ⊢
    cases hfault : made.fault with
    | some f =>
      rw [hfault] at hdone
      cases hfault.symm.trans hdone
    | none =>
      rw [hfault] at hdone
      obtain ⟨tree', hsame'⟩ := s.same_save made.host (SettingsHome.fileIn directory)
      refine ⟨directory, tree', rfl, ?_, ((s.changes_save made.host _).2 hdone).of_prepared hmade⟩
      dsimp only
      rw [hsame', hsame]

theorem loadFrom_of_remembered {home : SettingsHome} {directory : String}
    (hhome : home.directory? = some directory) :
    loadFrom home h none = (home, load h (SettingsHome.fileIn directory)) := by
  rw [loadFrom, SettingsHome.directory, hhome]

/-- What is saved is loaded again. At a path that is given this needs the same environment; the
usual file is found again in any other as well, if its directory is steady. -/
theorem load_after_save (hs : s.Obtained) (h : Host) :
    (∀ path, (s.save h path).fault = none →
      ∃ again, load (s.save h path).host path = .ok again ∧
        ofJson (s.save h path).host s.toJson = .ok again) ∧
    ∀ home kept saved, s.saveTo home h none = (kept, saved) → saved.fault = none →
      (home.directory? = none → SettingsHome.IsFirm h → kept.IsSteady) ∧
      ∀ environment, kept.IsSteady ∨ environment = h.environment →
        ∃ again, loadFrom kept { saved.host with environment } none = (kept, .ok again) ∧
          ofJson { saved.host with environment } s.toJson = .ok again := by
  refine ⟨fun path hdone => hs.load_save hdone, ?_⟩
  intro home kept saved hsave hdone
  obtain ⟨directory, tree, hfound, hsame, hsaved⟩ := saved_saveTo hsave hdone
  have hkept := SettingsHome.directory?_of_directory hfound
  refine ⟨fun hunknown hfirm => SettingsHome.isSteady_of_isFirm hunknown hfirm hfound, ?_⟩
  intro environment hsteady
  have hpath : Host.expandUser { saved.host with environment } (SettingsHome.fileIn directory) =
      h.expandUser (SettingsHome.fileIn directory) := by
    rw [hsame]
    rcases hsteady with hsteady | rfl
    · have hhead := hsteady directory hkept
      rw [Host.expandUser_of_head? hhead, Host.expandUser_of_head? hhead]
    · rfl
  have hsaved' : s.Saved (SettingsHome.fileIn directory) h { saved.host with environment } := by
    obtain ⟨place, bytes, hbytes, hl, hapart⟩ := hsaved
    refine ⟨place, bytes, hbytes, ?_, hapart⟩
    rw [Host.locate_environment]
    exact hl
  obtain ⟨again, hload, hagain⟩ := hs.load_of_saved hsaved' (by
    rw [Host.absoluteUser, Host.absoluteUser, hpath, hsame]
    rfl)
  refine ⟨again, ?_, hagain⟩
  rw [loadFrom_of_remembered hkept, hload]

def pruning : Settings := { pruneOnRescan := .bool true }

theorem obtained_pruning : Obtained pruning := by
  have hr : CommandLine.deskHost.IsRooted := by decide
  have hload : load CommandLine.deskHost "c" = .ok {} := by
    unfold load
    exact if_pos (by decide +kernel)
  exact .edited hr (.loaded hr hload)
    (rfl : CommandLine.editSettings CommandLine.deskHost {} none [] [] (some true) =
      .ok (pruning, [.line "✓ prune_on_rescan = True"]))

theorem load_after_save_pruning : Obtained pruning ∧
    (pruning.save CommandLine.deskHost "c").fault = none ∧
    (∃ again, load (pruning.save CommandLine.deskHost "c").host "c" = .ok again ∧
      ofJson (pruning.save CommandLine.deskHost "c").host pruning.toJson = .ok again) ∧
    ∃ kept saved again, pruning.saveTo {} CommandLine.deskHost none = (kept, saved) ∧
      saved.fault = none ∧
      loadFrom kept { saved.host with environment := [("HOME", "/elsewhere")] } none =
        (kept, .ok again) ∧
      ofJson { saved.host with environment := [("HOME", "/elsewhere")] } pruning.toJson =
        .ok again := by
  obtain ⟨hexplicit, husual⟩ := load_after_save obtained_pruning CommandLine.deskHost
  have hdone : (pruning.save CommandLine.deskHost "c").fault = none := by decide +kernel
  have hdone' : (pruning.saveTo {} CommandLine.deskHost none).2.fault = none := by decide +kernel
  obtain ⟨hfirm, hagain⟩ := husual {} _ _ rfl hdone'
  obtain ⟨again, hload, hread⟩ :=
    hagain [("HOME", "/elsewhere")] (Or.inl (hfirm rfl (Or.inr (by decide))))
  exact ⟨obtained_pruning, hdone, hexplicit "c" hdone, _, _, again, rfl, hdone', hload, hread⟩

theorem validName_work : ValidName "work" := by decide

/-- A machine whose home directory is below the current one and has a tilde for a name. -/
def tildeHost : Host :=
  { CommandLine.deskHost with
    tree := FileTree.empty.insert [⟨"work", validName_work⟩] .directory
    directory := "/work"
    environment := [("HOME", "./~")] }

/-- The directory that is remembered starts with a tilde. In another environment it is read as
another one, and what was saved is not found. -/
theorem load_after_save_tilde : Obtained pruning ∧
    ∃ kept saved found again, pruning.saveTo {} tildeHost none = (kept, saved) ∧
      saved.fault = none ∧
      loadFrom kept { saved.host with environment := [("HOME", "/elsewhere")] } none =
        (kept, .ok found) ∧
      ofJson { saved.host with environment := [("HOME", "/elsewhere")] } pruning.toJson =
        .ok again ∧
      found ≠ again := by
  have hdone : (pruning.saveTo {} tildeHost none).2.fault = none := by decide +kernel
  obtain ⟨directory, -, hfound, -, -⟩ := saved_saveTo (Prod.mk.eta.symm) hdone
  have hkept := SettingsHome.directory?_of_directory hfound
  have hload : ((loadFrom (pruning.saveTo {} tildeHost none).1
      { (pruning.saveTo {} tildeHost none).2.host with environment := [("HOME", "/elsewhere")] }
        none).2.map fun s => s.pruneOnRescan.isTruthy).toOption = some false := by
    decide +kernel
  generalize pruning.saveTo {} tildeHost none = left at hdone hkept hload ⊢
  obtain ⟨kept, saved⟩ := left
  refine ⟨obtained_pruning, kept, saved, ?_⟩
  rw [loadFrom_of_remembered hkept] at hload ⊢
  generalize load _ (SettingsHome.fileIn directory) = loaded at hload ⊢
  cases loaded with
  | error f => cases hload
  | ok found =>
    have hpruned : found.pruneOnRescan.isTruthy = false := Option.some.inj hload
    refine ⟨found, pruning.again, rfl, hdone, rfl, obtained_pruning.accepted.ofJson_toJson, ?_⟩
    rintro rfl
    cases hpruned

end Settings
end ReminderScan
