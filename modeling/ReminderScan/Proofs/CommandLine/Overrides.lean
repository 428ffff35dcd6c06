import ReminderScan.CommandLine.Run
import ReminderScan.Proofs.Settings.RoundTrip
import ReminderScan.Proofs.Workspace.Scan

/-! What a command says in place of the settings, beside settings that say the same. Extensions are
put into the form of the settings. Names of directories and the interval are used as they are given:
a name that is not in this form leaves out another directory, and an interval that no settings can
have is used all the same. -/

namespace ReminderScan

open Text

theorem Settings.normaliseExcluded_eq_self_iff_forall {names : List String} :
    normaliseExcluded names = names ↔
      ∀ name ∈ names, name ≠ "" ∧ Bare isBlank name.toList ∧ Bare isSlash name.toList := by
  constructor
  · intro hsame name hname
    have hform : ∀ name ∈ names, Bare isSlash name.toList := by
      intro name hname
      rw [← hsame] at hname
      exact bare_of_mem_normaliseExcluded name hname
    obtain ⟨hne, hblank⟩ := (normaliseExcluded_eq_self_iff hform).1 hsame name hname
    exact ⟨hne, hblank, hform name hname⟩
  · intro hall
    apply (normaliseExcluded_eq_self_iff fun name hname => (hall name hname).2.2).2
    intro name hname
    exact ⟨(hall name hname).1, (hall name hname).2.1⟩

theorem Host.absolute_slash (h : Host) : h.absolute "/" = "/" := by
  apply absolute_of_settled
  exact ⟨1, [], Or.inl rfl, List.forall_mem_nil _, rfl⟩

theorem Host.searchRoot?_slash (h : Host) : h.searchRoot? "/" = .ok (some []) := by
  have hjoin : Path.join h.directory.toList "/".toList = ['/'] := rfl
  have hsteps : stepsOf (String.ofList ['/']) = [] := by decide
  have hwalk : h.tree.walk true linkLimit [] [] = .ok (.taken [] .directory) := rfl
  have hlocate : h.locate true "/" = .ok (.taken [] .directory) := by
    rw [locate, if_neg (by decide), if_neg (by decide), if_neg (by decide), hjoin]
    dsimp only
    rw [hsteps, hwalk]
  rw [searchRoot?, hlocate]

section Folder

variable {extensions excluded : List String} {folder file : Name}

/-- A machine with one file, which stands in a directory below the root. -/
def folderHost (folder file : Name) : Host :=
  { Service.mixedHost with
    tree := {
      nodes := [([folder], .directory), ([folder, file], .file [] (.zero false))]
      distinct := by simp } }

theorem canList_child (folder : Name) : canList "/" [folder] = true := by
  have hpath : pathBelow "/" [folder] = "/" ++ folder.val := by
    have hhead := FileTree.head?_joined [folder]
    simp only [FileTree.joined, List.map_cons, List.map_nil, List.intercalate_singleton] at hhead
    simp [pathBelow, Path.join, FileTree.joined, hhead]
  have hname := folder.property.2.2.2.2.2
  have hslash : "/".utf8ByteSize = 1 := rfl
  simp only [canList, directoryPath, hpath, String.utf8ByteSize_append, hslash,
    nameLimit, pathLimit, decide_eq_true_iff] at hname ⊢
  omega

theorem mem_candidates_folderHost (hfile : hasExtension extensions file.val = true)
    {files : List String}
    (hc : candidates (folderHost folder file) "/" extensions excluded = .ok files) :
    pathBelow "/" [folder, file] ∈ files ↔ folder.val ∉ excluded := by
  rw [mem_candidates_iff hc, Host.absolute_slash, Host.searchRoot?_slash]
  have hway :
      (folderHost folder file).tree.isWay (fun name => !excluded.contains name) [] [folder] = true ↔
      folder.val ∉ excluded := by
    simp [FileTree.isWay, FileTree.isDirectory, FileTree.get?, FileTree.find?, folderHost]
  rw [← hway]
  constructor
  · rintro ⟨place, hplace, hmem⟩
    obtain rfl := Option.some.inj (Except.ok.inj hplace)
    obtain ⟨e, he, hpath⟩ := List.mem_map.1 hmem
    obtain ⟨hne, -, hlisted⟩ := FileTree.mem_below_iff.1 (List.mem_filter.1 he).1
    have hnames := pathBelow_injective hne (List.cons_ne_nil _ _) hpath
    rw [hnames] at hlisted
    exact hlisted
  · intro hlisted
    refine ⟨[], rfl, List.mem_map.2 ⟨([folder, file], .file [] (.zero false)), ?_, rfl⟩⟩
    apply List.mem_filter.2
    refine ⟨FileTree.mem_below_iff.2 ⟨List.cons_ne_nil _ _, ?_, hlisted⟩, ?_⟩
    · exact List.mem_cons_of_mem _ List.mem_cons_self
    · have hshort : canList "/" [folder] = true := canList_child folder
      simpa [isCandidate, Host.countsAsDirectory, hshort] using hfile

/-- Where there is a name for a file to look into, two lists of names leave out the same files of
all trees only if they leave out the same directories. -/
theorem candidates_eq_iff {others : List String} (hfile : hasExtension extensions file.val = true) :
    (∀ h root, candidates h root extensions excluded = candidates h root extensions others) ↔
      ∀ name : Name, name.val ∈ excluded ↔ name.val ∈ others := by
  constructor
  · intro hsame name
    -- The file in this one directory is listed just where the directory is not left out.
    have hnul : '\x00' ∉ ((folderHost name file).absolute "/").toList := by
      rw [Host.absolute_slash]
      decide
    obtain ⟨files, hc⟩ :
        ∃ files, candidates (folderHost name file) "/" extensions excluded = .ok files :=
      exists_candidates hnul
    have hc' := hc
    rw [hsame] at hc'
    rw [← not_iff_not, ← mem_candidates_folderHost hfile hc, mem_candidates_folderHost hfile hc']
  · intro hsame h root
    exact candidates_congr h root extensions hsame

end Folder

namespace CommandLine

/-- What a command says in place of the settings. An empty list says nothing. -/
structure Overrides where
  extensions : List String
  excluded : List String
  interval : Option Number.Binary64

def Command.overrides? : Command → Option Overrides
  | .scan workspace _ _ => some ⟨workspace.extensions, workspace.excluded, none⟩
  | .today workspace _ => some ⟨workspace.extensions, workspace.excluded, none⟩
  | .watch workspace interval _ => some ⟨workspace.extensions, workspace.excluded, interval⟩
  | _ => none

/-- The command, which leaves it all to the settings. -/
def Command.plain : Command → Command
  | .scan workspace exportTo showToday => .scan ⟨workspace.root, [], []⟩ exportTo showToday
  | .today workspace date => .today ⟨workspace.root, [], []⟩ date
  | .watch workspace _ cycles => .watch ⟨workspace.root, [], []⟩ none cycles
  | c => c

def Stage.resting (interval : Option Number.Binary64) : Stage → Stage
  | .watching plan => .watching { plan with interval := interval.getD plan.interval }
  | .ended result => .ended result

namespace Overrides

/-- Settings that say the same, before they are checked. -/
def draft (o : Overrides) : SettingsDraft :=
  { extensions := .list (o.extensions.map .text)
    excluded := .list (o.excluded.map .text)
    interval := o.interval.getD (.ofRatio false 2 1) }

/-- The settings that are used. -/
def used (o : Overrides) (s : Settings) : Settings :=
  WorkspaceOptions.apply ⟨none, o.extensions, o.excluded⟩ s

/-- The settings with those that were made of a draft, where the command says something. -/
def replaced (o : Overrides) (made s : Settings) : Settings :=
  { s with
    extensions := if o.extensions.isEmpty then s.extensions else made.extensions
    excluded := if o.excluded.isEmpty then s.excluded else made.excluded }

variable {o : Overrides}

theorem check_draft (o : Overrides) (h : Host) : o.draft.check h =
    if o.draft.interval.isNonpositive then .error .invalidInterval
    else .ok {
      extensions := normaliseExtensions o.extensions
      excluded := normaliseExcluded o.excluded
      interval := o.draft.interval } := by
  have hroot : checkRoot h o.draft.root = .ok none := rfl
  have hextensions : (itemsOf o.draft.extensions >>= textsOf) = .ok o.extensions :=
    textsOf_map_text o.extensions
  have hexcluded : (itemsOf o.draft.excluded >>= textsOf) = .ok o.excluded :=
    textsOf_map_text o.excluded
  have htime : checkTime o.draft.defaultTime = .ok standardTime := rfl
  rw [SettingsDraft.check, hroot, hextensions, hexcluded, htime]
  rfl

theorem excluded_of_nil (hnone : o.excluded = []) (made s : Settings) :
    (o.used s).excluded = s.excluded ∧ (o.replaced made s).excluded = s.excluded := by
  have hempty : o.excluded.isEmpty = true := List.isEmpty_iff.2 hnone
  exact ⟨if_pos hempty, if_pos hempty⟩

theorem excluded_of_ne_nil (hsome : o.excluded ≠ []) (made s : Settings) :
    (o.used s).excluded = o.excluded ∧ (o.replaced made s).excluded = made.excluded := by
  have hempty : ¬ o.excluded.isEmpty = true := mt List.isEmpty_iff.1 hsome
  exact ⟨if_neg hempty, if_neg hempty⟩

section Made

variable {made : Settings} (hextensions : made.extensions = normaliseExtensions o.extensions)
  (hexcluded : made.excluded = normaliseExcluded o.excluded)
include hextensions hexcluded

theorem used_eq_replaced_iff (s : Settings) : o.used s = o.replaced made s ↔
    ∀ name ∈ o.excluded, name ≠ "" ∧ Bare isBlank name.toList ∧ Bare isSlash name.toList := by
  rw [← Settings.normaliseExcluded_eq_self_iff_forall]
  constructor
  · intro hsame
    by_cases hnone : o.excluded = []
    · rw [hnone]
      rfl
    · obtain ⟨hused, hreplaced⟩ := excluded_of_ne_nil hnone made s
      rw [← hexcluded, ← hreplaced, ← hsame, hused]
  · intro hsame
    rw [replaced, hextensions, hexcluded, hsame]
    rfl

theorem candidates_used_eq_iff (s : Settings) {file : Name}
    (hfile : hasExtension (o.used s).extensions file.val = true) :
    (∀ g root, candidates g root (o.used s).extensions (o.used s).excluded =
        candidates g root (o.replaced made s).extensions (o.replaced made s).excluded) ↔
      ∀ name : Name, name.val ∈ o.excluded ↔ name.val ∈ normaliseExcluded o.excluded := by
  have hsame : (o.replaced made s).extensions = (o.used s).extensions := by
    rw [replaced, hextensions]
    rfl
  rw [hsame]
  by_cases hnone : o.excluded = []
  · obtain ⟨hused, hreplaced⟩ := excluded_of_nil hnone made s
    rw [hused, hreplaced, hnone]
    constructor
    · intro _ name
      exact Iff.rfl
    · intro _ g root
      rfl
  · obtain ⟨hused, hreplaced⟩ := excluded_of_ne_nil hnone made s
    rw [hused, hreplaced, hexcluded]
    exact candidates_eq_iff hfile

end Made

end Overrides

theorem planWatch_eq_map (h : Host) (s : Settings) (root : Option String)
    (interval : Option Number.Binary64) (cycles : Option Int) :
    planWatch h s root interval cycles = (planWatch h s root none cycles).map fun plan =>
      { plan with interval := interval.getD plan.interval } := by
  rw [planWatch.eq_def, planWatch.eq_def]
  dsimp only
  split
  · rfl
  · rfl
  · split
    · rfl
    · rfl

theorem exists_planWatch {h : Host} {root : String} (hne : root ≠ "")
    (hdirectory : h.isDirectory (h.absoluteUser root) = true) (s : Settings)
    (interval : Option Number.Binary64) (cycles : Option Int) :
    ∃ plan, planWatch h s (some root) interval cycles = .ok plan ∧
      plan.interval = interval.getD s.interval := by
  simp [planWatch, Watcher.new, hdirectory]

/-- Whatever the values are, a command with overrides goes as it would go under the settings that
are used. -/
theorem runCommand_eq_resting (h : Host) (home : String) (i : Invocation) (s : Settings)
    {c : Command} {o : Overrides} (hc : c.overrides? = some o) :
    runCommand h home i s c = (runCommand h home i (o.used s) c.plain).resting o.interval := by
  cases c with
  | scan workspace exportTo showToday =>
    obtain rfl := Option.some.inj hc
    rfl
  | today workspace date =>
    obtain rfl := Option.some.inj hc
    rfl
  | watch workspace interval cycles =>
    obtain rfl := Option.some.inj hc
    have hused : WorkspaceOptions.apply ⟨workspace.root, [], []⟩
        (Overrides.used ⟨workspace.extensions, workspace.excluded, interval⟩ s) =
          workspace.apply s := rfl
    rw [Command.plain, runCommand, runCommand, hused, planWatch_eq_map]
    cases planWatch h (workspace.apply s) workspace.root none cycles with
    | error notice => rfl
    | ok plan => rfl
  | check => cases hc
  | complete => cases hc
  | config => cases hc

/-- Overrides beside settings that say the same. A command uses them as they are given, but for the
form of the extensions, and no interval is refused. The settings would come to the same just where
no name of a directory is empty or has a blank or a slash at an end, and would have the same files
looked into just where the same directories are left out. -/
theorem runCommand_overrides (h : Host) (home : String) (i : Invocation) (s : Settings)
    {c : Command} {o : Overrides} (hc : c.overrides? = some o) :
    runCommand h home i s c = (runCommand h home i (o.used s) c.plain).resting o.interval ∧
    ((∃ x, o.interval = some x ∧ x.isNonpositive = true) → o.draft.check h =
      .error .invalidInterval) ∧
    ((∀ x, o.interval = some x → x.isNonpositive = false) →
      ∃ made, o.draft.check h = .ok made ∧ (∀ x, o.interval = some x → made.interval = x) ∧
        (o.used s).extensions = (o.replaced made s).extensions ∧
        (o.used s = o.replaced made s ↔
          ∀ name ∈ o.excluded, name ≠ "" ∧ Bare isBlank name.toList ∧ Bare isSlash name.toList) ∧
        ∀ file : Name, hasExtension (o.used s).extensions file.val = true →
          ((∀ g root, candidates g root (o.used s).extensions (o.used s).excluded =
              candidates g root (o.replaced made s).extensions (o.replaced made s).excluded) ↔
            ∀ name : Name, name.val ∈ o.excluded ↔ name.val ∈ normaliseExcluded o.excluded)) := by
  refine ⟨runCommand_eq_resting h home i s hc, ?refused, ?accepted⟩
  case refused =>
    rintro ⟨x, hx, hnonpositive⟩
    rw [o.check_draft h, Overrides.draft, hx]
    exact if_pos hnonpositive
  case accepted =>
    intro hpositive
    have hinterval : o.draft.interval.isNonpositive = false := by
      rw [Overrides.draft]
      cases hx : o.interval with
      | none => rfl
      | some x => exact hpositive x hx
    have hcheck := o.check_draft h
    rw [hinterval] at hcheck
    refine ⟨_, hcheck, ?_, rfl, Overrides.used_eq_replaced_iff rfl rfl s, ?_⟩
    · intro x hx
      change o.interval.getD _ = x
      rw [hx]
      rfl
    · intro file hfile
      exact Overrides.candidates_used_eq_iff rfl rfl s hfile

def tidyWatch : Command := .watch ⟨some "/", [".PY"], ["build"]⟩ (some (.ofRatio false 1 2)) none

def tidyOverrides : Overrides := ⟨[".PY"], ["build"], some (.ofRatio false 1 2)⟩

theorem runCommand_overrides_tidyWatch : tidyWatch.overrides? = some tidyOverrides ∧
    ∃ made, tidyOverrides.draft.check Service.mixedHost = .ok made ∧
      made.interval = .ofRatio false 1 2 ∧
      runCommand Service.mixedHost "/h" ⟨false, none, none⟩ {} tidyWatch =
        (runCommand Service.mixedHost "/h" ⟨false, none, none⟩ (tidyOverrides.replaced made {})
          tidyWatch.plain).resting (some (.ofRatio false 1 2)) := by
  have hpositive : ∀ x, tidyOverrides.interval = some x → x.isNonpositive = false := by
    intro x hx
    obtain rfl := Option.some.inj hx
    decide
  have htidy : ∀ name ∈ tidyOverrides.excluded,
      name ≠ "" ∧ Bare isBlank name.toList ∧ Bare isSlash name.toList := by
    decide
  obtain ⟨hrun, -, hmade⟩ :=
    runCommand_overrides Service.mixedHost "/h" ⟨false, none, none⟩ {} (c := tidyWatch)
      (o := tidyOverrides) rfl
  obtain ⟨made, hcheck, hinterval, -, hsame, -⟩ := hmade hpositive
  rw [hsame.2 htidy] at hrun
  exact ⟨rfl, made, hcheck, hinterval _ rfl, hrun⟩

/-- A machine with one document, in a directory that holds what was built. -/
def buildHost : Host := folderHost ⟨"build", by decide⟩ Service.noteName

/-- A slash at its end keeps the name of a directory from being found. An interval of nothing, which
no settings can have, starts a watch. -/
theorem runCommand_overrides_untidy :
    (∃ made, (Overrides.draft ⟨[], ["build/"], none⟩).check buildHost = .ok made ∧
      candidates buildHost "/" (Overrides.used ⟨[], ["build/"], none⟩ {}).extensions
        (Overrides.used ⟨[], ["build/"], none⟩ {}).excluded = .ok ["/build/a.py"] ∧
      candidates buildHost "/" (Overrides.replaced ⟨[], ["build/"], none⟩ made {}).extensions
        (Overrides.replaced ⟨[], ["build/"], none⟩ made {}).excluded = .ok []) ∧
    (Overrides.draft ⟨[], [], some (.zero false)⟩).check buildHost = .error .invalidInterval ∧
    ∃ plan, runCommand buildHost "/h" ⟨false, none, none⟩ {}
        (.watch ⟨some "/", [], []⟩ (some (.zero false)) none) = .watching plan ∧
      plan.interval = .zero false := by
  refine ⟨⟨_, Overrides.check_draft _ _, ?_, ?_⟩, Overrides.check_draft _ _, ?_⟩
  · decide +kernel
  · decide +kernel
  · have hdirectory : buildHost.isDirectory (buildHost.absoluteUser "/") = true := by decide +kernel
    obtain ⟨plan, hplan, hinterval⟩ :=
      exists_planWatch (by decide) hdirectory {} (some (.zero false)) none
    have happlied : planWatch buildHost (WorkspaceOptions.apply ⟨some "/", [], []⟩ {}) (some "/")
        (some (.zero false)) none = .ok plan := hplan
    refine ⟨plan, ?_, hinterval⟩
    rw [runCommand, happlied]

end CommandLine
end ReminderScan
