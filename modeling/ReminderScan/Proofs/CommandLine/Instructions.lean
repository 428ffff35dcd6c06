import ReminderScan.Proofs.Settings.Reload

/-! Settings over many runs of the program. Each run loads them, changes them and saves them if
there is a change; what it loads is what the run before it left. So each setting is as the last run
left it that was told to change it, and an extension is searched if the last run that named it added
it. -/

namespace ReminderScan.CommandLine

open Text

/-- What a run is told to change: the root, seen from the root of all files, extensions in their
normal form, and whether reminders are dropped before a file is read again. -/
structure Instruction where
  root : Option String
  added : List String
  removed : List String
  prune : Option Bool
deriving DecidableEq

namespace Instruction

/-- The instruction that arguments stand for. An empty root is none. -/
def ofArguments (h : Host) (root : Option String) (add remove : List String) (prune : Option Bool) :
    Instruction where
  root := (root.filter (· ≠ "")).map h.absoluteUser
  added := normaliseExtensions add
  removed := normaliseExtensions remove
  prune := prune

def names (i : Instruction) (e : String) : Bool := e ∈ i.added || e ∈ i.removed

end Instruction

/-- Settings before and after they were changed as an instruction says. -/
structure Obeys (i : Instruction) (before after : Settings) : Prop where
  mem_extensions : ∀ e, e ∈ after.extensions ↔
    (e ∈ before.extensions ∨ e ∈ i.added) ∧ e ∉ i.removed
  order : after.extensions.filter (!i.names ·) = before.extensions.filter (!i.names ·)
  others : after = { before with
    root := i.root.or before.root
    extensions := after.extensions
    pruneOnRescan := i.prune.elim before.pruneOnRescan .bool }

variable {s edited : Settings} {h : Host} {root : Option String} {add remove : List String}
variable {prune : Option Bool} {changes : List Event}

theorem obeys_editSettings (hs : s.Accepted)
    (hedit : editSettings h s root add remove prune = .ok (edited, changes)) :
    Obeys (.ofArguments h root add remove prune) s edited := by
  obtain rfl := editSettings_eq_ok hedit
  have hnodup := nodup_distinctTexts hs.nodup (normaliseExtensions add)
  constructor
  · intro e
    dsimp only [Instruction.ofArguments]
    rw [hnodup.mem_sdiff_iff, mem_distinctTexts]
    have hempty := empty_not_mem_normaliseExtensions add
    refine and_congr_left fun _ => or_congr_right (and_iff_left_of_imp ?_)
    rintro he rfl
    exact hempty he
  · dsimp only
    -- What is removed is named, so the filter takes it away in any case.
    have hremoved : ∀ e, (!(Instruction.ofArguments h root add remove prune).names e &&
        decide (e ∉ normaliseExtensions remove)) =
          !(Instruction.ofArguments h root add remove prune).names e := by
      intro e
      simp [Instruction.names, Instruction.ofArguments]
    rw [hnodup.sdiff_eq_filter, List.filter_filter]
    simp only [hremoved]
    apply filter_distinctTexts
    intro e he
    simp [Instruction.names, Instruction.ofArguments, he]
  · rfl

/-- Extensions that hold no blanks are kept as they are, also when they are read again. -/
theorem lasting_editSettings (hs : s.Lasting)
    (hunblank : ∀ e ∈ add, ∀ c ∈ e.toList, isBlank c = false)
    (hedit : editSettings h s root add remove prune = .ok (edited, changes)) : edited.Lasting := by
  have hmem := mem_extensions_of_editSettings hedit
  obtain rfl := editSettings_eq_ok hedit
  refine ⟨?_, hs.excluded⟩
  intro e he
  rcases hmem e he with hbefore | ⟨given, hgiven, rfl⟩
  · exact hs.extensions e hbefore
  · exact head?_normaliseExtension (hunblank given hgiven)

/-- The settings that are loaded from a path: what the path leads to is a file that holds them, or
nothing, where they are the standard ones. They are such that nothing is lost when they are read. -/
structure Persisted (s : Settings) (h : Host) (path : String) : Prop where
  accepted : s.Accepted
  keeps : s.Keeps Json.HasDistinctNames
  lasting : s.Lasting
  kept : s = {} ∧ h.pathExists (h.absoluteUser path) = false ∨
    ∃ bytes modified, s.fileBytes = .ok bytes ∧
      h.openFile (h.absoluteUser path) = .ok (bytes, modified)

variable {path path' : String} {h' : Host}

theorem Persisted.load (hp : Persisted s h path) : Settings.load h path = .ok s := by
  obtain ⟨haccepted, hkeeps, hlasting, ⟨rfl, hnone⟩ | ⟨bytes, modified, hbytes, hfile⟩⟩ := hp
  · unfold Settings.load
    exact if_pos (by rw [hnone, Bool.not_false])
  · rw [hkeeps.load_of_openFile hbytes hfile, haccepted.ofJson_toJson,
      haccepted.again_eq_self_iff.2 hlasting]

theorem not_blank_of_all {extensions : List String}
    (hall : extensions.all (fun e => e.toList.all fun c => !isBlank c) = true) :
    ∀ e ∈ extensions, ∀ c ∈ e.toList, isBlank c = false := by
  intro e he c hc
  have hchars := List.all_eq_true.1 hall e he
  simpa using List.all_eq_true.1 hchars c hc

theorem lasting_standard : ({} : Settings).Lasting := by
  refine ⟨?_, by decide⟩
  intro e he c hc
  exact not_blank_of_all (by decide) e he c (List.mem_of_mem_head? hc)

theorem persisted_standard (hnone : h.pathExists (h.absoluteUser path) = false) :
    Persisted {} h path :=
  ⟨Settings.accepted_standard, Settings.keeps_standard Json.inherited_hasDistinctNames,
    lasting_standard,
    Or.inl ⟨rfl, hnone⟩⟩

/-- On either machine nothing is at the path, or it leads to a file, and both files hold the
same. -/
def SameFile (h : Host) (path : String) (h' : Host) (path' : String) : Prop :=
  h.pathExists (h.absoluteUser path) = false ∧ h'.pathExists (h'.absoluteUser path') = false ∨
  ∃ bytes modified modified', h.openFile (h.absoluteUser path) = .ok (bytes, modified) ∧
    h'.openFile (h'.absoluteUser path') = .ok (bytes, modified')

theorem pathExists_of_openFile {bytes : List UInt8} {modified : Number.Binary64}
    (hfile : h.openFile path = .ok (bytes, modified)) : h.pathExists path = true := by
  unfold Host.openFile at hfile
  unfold Host.pathExists
  split at hfile
  · cases hfile
  · rename_i hl
    rw [hl]
  · cases hfile
  · cases hfile

theorem Persisted.of_sameFile (hp : Persisted s h path) (hsame : SameFile h path h' path') :
    Persisted s h' path' := by
  obtain ⟨haccepted, hkeeps, hlasting, hkept⟩ := hp
  refine ⟨haccepted, hkeeps, hlasting, ?_⟩
  rcases hsame with ⟨hnone, hnone'⟩ | ⟨bytes, modified, modified', hfile, hfile'⟩
  · rcases hkept with ⟨hstandard, -⟩ | ⟨bytes, modified, -, hfile⟩
    · exact Or.inl ⟨hstandard, hnone'⟩
    · cases (pathExists_of_openFile hfile).symm.trans hnone
  · rcases hkept with ⟨-, hnone⟩ | ⟨bytes', modified'', hbytes, hfile''⟩
    · cases (pathExists_of_openFile hfile).symm.trans hnone
    · obtain ⟨rfl, -⟩ := Prod.mk.inj (Except.ok.inj (hfile.symm.trans hfile''))
      exact Or.inr ⟨bytes, modified', hbytes, hfile'⟩

/-- A run of the program that changes the settings at a path, or shows them, and succeeds. No blank
stands in the extensions that it is given. -/
structure ConfigRun (h : Host) (path : String) where
  args : List String
  invocation : Invocation
  home : String
  showAll : Bool
  root : Option String
  add : List String
  remove : List String
  prune : Option Bool
  rooted : h.IsRooted
  read : Invocation.read args = .ok invocation
  command : invocation.command = some (.config showAll root add remove prune)
  found : SettingsHome.findDirectory h = .ok home
  file : invocation.settingsFile.getD (SettingsHome.fileIn home) = path
  unblank : ∀ e ∈ add ++ remove, ∀ c ∈ e.toList, isBlank c = false
  succeeded : Succeeded (run h args [])

namespace ConfigRun

def told (r : ConfigRun h path) : Instruction := .ofArguments h r.root r.add r.remove r.prune

def after (r : ConfigRun h path) : Host := hostAfter h (run h r.args [])

end ConfigRun

theorem same_saveSettings (home : String) (file : Option String) (s : Settings) :
    ∃ tree, (saveSettings h home file s).host = { h with tree } := by
  unfold saveSettings
  cases file with
  | some path =>
    dsimp only
    rw [host_resultOf]
    exact s.same_save h path
  | none =>
    have hmade : h.Prepared (SettingsHome.ensure h home).host := Host.prepared_makeWithParents h _ _
    generalize SettingsHome.ensure h home = made at hmade ⊢
    obtain ⟨tree, hsame⟩ := hmade.same
    dsimp only
    split
    · exact ⟨tree, hsame⟩
    · obtain ⟨tree', hsaved⟩ := s.same_save made.host (SettingsHome.fileIn home)
      refine ⟨tree', ?_⟩
      rw [host_resultOf, hsaved, hsame]

theorem same_runConfig (home : String) (file : Option String) (s : Settings) (showAll : Bool)
    (root : Option String) (add remove : List String) (prune : Option Bool) :
    ∃ tree, (runConfig h home file s showAll root add remove prune).host = { h with tree } := by
  rw [runConfig]
  split
  · exact ⟨h.tree, rfl⟩
  · dsimp only
    split
    · exact ⟨h.tree, rfl⟩
    · split
      · exact ⟨h.tree, rfl⟩
      · exact same_saveSettings home file _

theorem ConfigRun.exists_edited (r : ConfigRun h path) : ∃ s edited changes tree,
    Settings.load h path = .ok s ∧
    editSettings h s r.root r.add r.remove r.prune = .ok (edited, changes) ∧
    r.after = { h with tree } ∧
    if changes = [] then r.after = h else edited.Saved path h r.after := by
  obtain ⟨home, s, hhome, hload, hdone, hafter⟩ :=
    run_of_ended r.read r.command nofun (fun _ _ => rfl) r.succeeded
  obtain rfl := Except.ok.inj (hhome.symm.trans r.found)
  rw [r.file] at hload
  obtain ⟨tree, hsame⟩ :=
    same_runConfig (h := h) r.home r.invocation.settingsFile s r.showAll r.root r.add
    r.remove r.prune
  obtain ⟨edited, changes, hedit, hleft⟩ := (changes_runConfig r.home r.invocation.settingsFile
    (Settings.keeps_of_load hload) r.showAll r.root r.add r.remove r.prune).succeeded hdone
  rw [r.file, ← hafter] at hleft
  rw [← hafter] at hsame
  refine ⟨s, edited, changes, tree, hload, hedit, hsame, ?_⟩
  by_cases hnone : changes = []
  · rw [if_pos hnone] at hleft ⊢
    rw [ConfigRun.after, hsame]
    rw [hsame] at hleft
    rw [show tree = h.tree from hleft]
  · rw [if_neg hnone] at hleft ⊢
    exact hleft

theorem Persisted.run (hp : Persisted s h path) (r : ConfigRun h path) :
    ∃ edited, Persisted edited r.after path ∧ Obeys r.told s edited := by
  obtain ⟨s', edited, changes, tree, hload, hedit, hsame, hleft⟩ := r.exists_edited
  obtain rfl := Except.ok.inj (hp.load.symm.trans hload)
  refine ⟨edited, ?_, obeys_editSettings hp.accepted hedit⟩
  by_cases hnone : changes = []
  · subst hnone
    rw [if_pos rfl] at hleft
    rw [editSettings_eq_self hedit, hleft]
    exact hp
  · rw [if_neg hnone] at hleft
    obtain ⟨place, bytes, hbytes, hl, -⟩ := hleft
    refine ⟨accepted_editSettings r.rooted hp.accepted hedit,
      keeps_editSettings Json.inherited_hasDistinctNames hp.keeps hedit,
      lasting_editSettings hp.lasting (fun e he => r.unblank e (List.mem_append_left _ he)) hedit,
        ?_⟩
    refine Or.inr ⟨bytes, h.stampTime, hbytes, ?_⟩
    have hpath : r.after.absoluteUser path = h.absoluteUser path := by
      rw [hsame]
      rfl
    rw [hpath, Host.openFile, hl]

/-- Runs of the program on one file of settings, whatever happens to the machine between them as
long as the file is left as it is; and what they were told, the latest first. -/
inductive Runs (h : Host) (path : String) : List Instruction → Host → String → Prop
  | none : Runs h path [] h path
  | run {told : List Instruction} {h' : Host} {path' : String} :
      Runs h path told h' path' → (r : ConfigRun h' path') →
        Runs h path (r.told :: told) r.after path'
  | between {told : List Instruction} {h' h'' : Host} {path' path'' : String} :
      Runs h path told h' path' → SameFile h' path' h'' path'' → Runs h path told h'' path''

variable {h'' : Host} {path'' : String} {told earlier later : List Instruction} {base : Settings}

theorem Runs.trans (hearlier : Runs h path earlier h' path')
    (hlater : Runs h' path' later h'' path'') :
    Runs h path (later ++ earlier) h'' path'' := by
  induction hlater with
  | none => exact hearlier
  | run _ r ih => exact .run ih r
  | between _ hsame ih => exact .between ih hsame

/-- Settings that follow from others by instructions, the latest first. What no instruction is about
is as it was. -/
structure Follows (base : Settings) (told : List Instruction) (s : Settings) : Prop where
  nodup : s.extensions.Nodup
  mem_extensions : ∀ e, e ∈ s.extensions ↔
    match told.find? (·.names e) with
    | some last => e ∈ last.added ∧ e ∉ last.removed
    | none => e ∈ base.extensions
  order : s.extensions.filter (fun e => !told.any (·.names e)) =
    base.extensions.filter fun e => !told.any (·.names e)
  others : s = { base with
    root := (told.findSome? (·.root)).or base.root
    extensions := s.extensions
    pruneOnRescan := (told.findSome? (·.prune)).elim base.pruneOnRescan .bool }

theorem follows_nil (hs : s.Accepted) : Follows s [] s :=
  ⟨hs.nodup, fun _ => Iff.rfl, rfl, rfl⟩

theorem Follows.cons {i : Instruction} (hf : Follows base told s) (hi : Obeys i s edited)
    (hnodup : edited.extensions.Nodup) : Follows base (i :: told) edited := by
  refine ⟨hnodup, ?_, ?_, ?_⟩
  · intro e
    rw [hi.mem_extensions, List.find?_cons]
    cases hnames : i.names e with
    | true =>
      simp only [Instruction.names, Bool.or_eq_true, decide_eq_true_eq] at hnames
      exact and_congr_left fun hkept => iff_of_true (Or.inr (hnames.resolve_right hkept))
        (hnames.resolve_right hkept)
    | false =>
      simp only [Instruction.names, Bool.or_eq_false_iff, decide_eq_false_iff_not] at hnames
      rw [← hf.mem_extensions e, and_iff_left hnames.2, or_iff_left hnames.1]
  · have hboth : ∀ e, (!(i :: told).any (·.names e)) = (!told.any (·.names e) && !i.names e) := by
      intro e
      rw [List.any_cons, Bool.not_or, Bool.and_comm]
    simp only [hboth, ← List.filter_filter]
    rw [hi.order, List.filter_comm, hf.order, List.filter_comm]
  · refine hi.others.trans ?_
    rw [hf.others, List.findSome?_cons, List.findSome?_cons]
    obtain ⟨root, added, removed, prune⟩ := i
    cases root <;> cases prune <;> rfl

theorem Persisted.runs (hp : Persisted s h path) (hruns : Runs h path told h' path') :
    ∃ edited, Persisted edited h' path' ∧ Follows s told edited := by
  induction hruns with
  | none => exact ⟨s, hp, follows_nil hp.accepted⟩
  | run _ r ih =>
    obtain ⟨before, hbefore, hfollows⟩ := ih
    obtain ⟨edited, hedited, hobeys⟩ := hbefore.run r
    exact ⟨edited, hedited, hfollows.cons hobeys hedited.accepted.nodup⟩
  | between _ hsame ih =>
    obtain ⟨edited, hedited, hfollows⟩ := ih
    exact ⟨edited, hedited.of_sameFile hsame, hfollows⟩

/-- After any number of runs, from none at all on a file that was not there, the settings are
loaded, and they are as the last instruction about each of them says; and so it is from any point on
the way on. -/
theorem settings_after_runs (hnone : h.pathExists (h.absoluteUser path) = false)
    (hearlier : Runs h path earlier h' path') (hlater : Runs h' path' later h'' path'') :
    ∃ s s', Settings.load h' path' = .ok s ∧ Settings.load h'' path'' = .ok s' ∧
      Follows {} (later ++ earlier) s' ∧ Follows s later s' := by
  obtain ⟨s, hs, -⟩ := (persisted_standard hnone).runs hearlier
  obtain ⟨s', hs', hfollows⟩ := hs.runs hlater
  obtain ⟨s'', hs'', hwhole⟩ := (persisted_standard hnone).runs (hearlier.trans hlater)
  obtain rfl := Except.ok.inj (hs''.load.symm.trans hs'.load)
  exact ⟨s, s'', hs.load, hs'.load, hwhole, hfollows⟩

/-- An extension is taken for another, and then it is wanted again. -/
def swapRun : ConfigRun deskHost "c" where
  args := ["--config", "c", "config", "--add-ext", ".RS", "--remove-ext", "py"]
  invocation := ⟨false, some "c", some (.config false none [".RS"] ["py"] none)⟩
  home := "/home/u/.config/code-nudger"
  showAll := false
  root := none
  add := [".RS"]
  remove := ["py"]
  prune := none
  rooted := by decide
  read := rfl
  command := rfl
  found := rfl
  file := rfl
  unblank := not_blank_of_all (by decide)
  succeeded := by decide +kernel

def swapBackRun : ConfigRun swapRun.after "c" where
  args := ["--config", "c", "config", "--add-ext", "py", "--prune-on-rescan", "on"]
  invocation := ⟨false, some "c", some (.config false none ["py"] [] (some true))⟩
  home := "/home/u/.config/code-nudger"
  showAll := false
  root := none
  add := ["py"]
  remove := []
  prune := some true
  rooted := by decide +kernel
  read := rfl
  command := rfl
  found := by
    have hfound : (SettingsHome.findDirectory swapRun.after).toOption =
        some "/home/u/.config/code-nudger" := by
      decide +kernel
    cases hdirectory : SettingsHome.findDirectory swapRun.after with
    | error f =>
      rw [hdirectory] at hfound
      cases hfound
    | ok directory =>
      rw [hdirectory] at hfound
      exact congrArg Except.ok (Option.some.inj hfound)
  file := rfl
  unblank := not_blank_of_all (by decide)
  succeeded := by decide +kernel

theorem settings_after_runs_deskHost : deskHost.pathExists (deskHost.absoluteUser "c") = false ∧
    ∃ s s', Settings.load swapRun.after "c" = .ok s ∧ Settings.load swapBackRun.after "c" = .ok s' ∧
      Follows {} [⟨none, ["py"], [], some true⟩, ⟨none, ["rs"], ["py"], none⟩] s' ∧
      Follows s [⟨none, ["py"], [], some true⟩] s' := by
  have hnone : deskHost.pathExists (deskHost.absoluteUser "c") = false := by decide +kernel
  have hfirst : Runs deskHost "c" [swapRun.told] swapRun.after "c" := .run .none swapRun
  have hsecond : Runs swapRun.after "c" [swapBackRun.told] swapBackRun.after "c" :=
    .run .none swapBackRun
  have htold : swapRun.told = ⟨none, ["rs"], ["py"], none⟩ := by decide +kernel
  have htold' : swapBackRun.told = ⟨none, ["py"], [], some true⟩ := by decide +kernel
  have hfollows := settings_after_runs hnone hfirst hsecond
  rw [htold, htold'] at hfollows
  exact ⟨hnone, hfollows⟩

end ReminderScan.CommandLine
