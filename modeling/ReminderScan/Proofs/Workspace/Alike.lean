import Mathlib.Data.List.Sort
import ReminderScan.Proofs.Workspace.Scan

/-! A search depends on the files it looks into and on nothing else: machines that have the same
files to look into, with the same bytes in them, are searched with the same outcome. What stands in
other files and in directories that are left out, and when anything was written, makes no
difference. -/

namespace ReminderScan

namespace Host

variable {g h : Host} {path : String}

/-- A path brings the same bytes on both machines, or the same fault. The times of change may
differ. -/
def SameBytes (g h : Host) (path : String) : Prop :=
  (g.openFile path).map Prod.fst = (h.openFile path).map Prod.fst

theorem SameBytes.readText_eq (hs : SameBytes g h path) : g.readText path = h.readText path := by
  rw [readText, readText]
  rw [SameBytes] at hs
  cases hg : g.openFile path with
  | error f =>
    cases hh : h.openFile path with
    | error f' =>
      rw [hg, hh] at hs
      obtain rfl := Except.error.inj hs
      rfl
    | ok file =>
      rw [hg, hh] at hs
      cases hs
  | ok file =>
    cases hh : h.openFile path with
    | error f =>
      rw [hg, hh] at hs
      cases hs
    | ok file' =>
      rw [hg, hh] at hs
      obtain ⟨bytes, modified⟩ := file
      obtain ⟨bytes', modified'⟩ := file'
      obtain rfl : bytes = bytes' := Except.ok.inj hs
      rfl

theorem SameBytes.readDocument_eq (hs : SameBytes g h path) :
    g.readDocument path = h.readDocument path := by
  rw [readDocument, readDocument, hs.readText_eq]

end Host

namespace Search

variable {g h : Host}

theorem visit_eq (s : Settings) (hnow : g.now = h.now) {path : String}
    (hs : g.SameBytes h path) (p : Search) : p.visit g s path = p.visit h s path := by
  rw [visit, visit, hs.readDocument_eq, hnow]

theorem visitAll_eq (s : Settings) (hnow : g.now = h.now) {files : List String}
    (hs : ∀ path ∈ files, g.SameBytes h path) (p : Search) :
    visitAll g s p files = visitAll h s p files := by
  induction files generalizing p with
  | nil => rfl
  | cons path rest ih =>
    rw [visitAll, visitAll, visit_eq s hnow (hs path List.mem_cons_self)]
    split
    · rfl
    · exact ih (fun other hother => hs other (List.mem_cons_of_mem path hother)) _

end Search

/-- The path is one of those that a search of a directory looks into. -/
def IsCandidate (h : Host) (root : String) (s : Settings) (path : String) : Prop :=
  ∃ files, candidates h (h.absoluteUser root) s.extensions s.excluded = .ok files ∧ path ∈ files

theorem isCandidate_iff {h : Host} {root : String} {s : Settings} {place : Place}
    (hplace : h.searchRoot? (h.absolute (h.absoluteUser root)) = .ok (some place)) {path : String} :
    IsCandidate h root s path ↔
      path ∈ eligible h (h.absolute (h.absoluteUser root)) s.extensions s.excluded place := by
  have hfiles : candidates h (h.absoluteUser root) s.extensions s.excluded = .ok (Host.sortTexts
      (eligible h (h.absolute (h.absoluteUser root)) s.extensions s.excluded place)) := by
    rw [candidates_eq, hplace]
  rw [IsCandidate, hfiles]
  simp [Host.mem_sortTexts]

/-- The candidates stand in order, so they are the same list if they are the same paths. -/
theorem candidates_eq_of_isCandidate_iff {g h : Host} {root : String} {s : Settings}
    {files others : List String}
    (hg : candidates g (g.absoluteUser root) s.extensions s.excluded = .ok files)
    (hh : candidates h (h.absoluteUser root) s.extensions s.excluded = .ok others)
    (hsame : ∀ path, IsCandidate g root s path ↔ IsCandidate h root s path) : files = others := by
  have hmem : ∀ path, path ∈ files ↔ path ∈ others := by
    intro path
    have hpath := hsame path
    rw [IsCandidate, IsCandidate, hg, hh] at hpath
    simpa using hpath
  exact (candidates_increasing hg).eq_of_mem_iff (candidates_increasing hh) fun {path} => hmem path

/-- A search of a directory cannot tell the machines apart: it is there on both or on neither, the
same paths are to be looked into, and each of them brings the same bytes or the same fault. -/
structure Alike (s : Settings) (root : String) (g h : Host) : Prop where
  now : g.now = h.now
  path : g.absoluteUser root = h.absoluteUser root
  directory : g.isDirectory (g.absoluteUser root) = h.isDirectory (h.absoluteUser root)
  candidates : ∀ path, IsCandidate g root s path ↔ IsCandidate h root s path
  bytes : ∀ path, IsCandidate h root s path → g.SameBytes h path

namespace Service

/-- Machines that a search cannot tell apart are searched with the same answer and the same counts,
the same reminders are known afterwards, and the same is told in the same order. -/
theorem scanRoot_eq_of_alike (s : Service) {g h : Host} {root : String} (hg : g.IsRooted)
    (hh : h.IsRooted) (ha : Alike s.settings root g h) :
    s.scanRoot g (some root) = s.scanRoot h (some root) := by
  by_cases hne : root = ""
  · rw [hne, scanRoot.eq_2, scanRoot.eq_2]
  have hsame : g.isDirectory (h.absoluteUser root) = h.isDirectory (h.absoluteUser root) := by
    rw [← ha.directory, ha.path]
  rw [scanRoot.eq_3 s g root hne, scanRoot.eq_3 s h root hne, ha.path, hsame]
  cases hd : h.isDirectory (h.absoluteUser root) with
  | false => simp only [Bool.not_false, if_true]
  | true =>
    obtain ⟨files, hfiles⟩ : ∃ files, candidates g (g.absoluteUser root) s.settings.extensions
        s.settings.excluded = .ok files :=
      exists_candidates (nul_not_mem_absoluteUser hg (ha.directory.trans hd))
    obtain ⟨others, hothers⟩ : ∃ files, candidates h (h.absoluteUser root) s.settings.extensions
        s.settings.excluded = .ok files := exists_candidates (nul_not_mem_absoluteUser hh hd)
    obtain rfl : files = others := candidates_eq_of_isCandidate_iff hfiles hothers ha.candidates
    have hbytes : ∀ path ∈ files, g.SameBytes h path :=
      fun path hpath => ha.bytes path ⟨files, hothers, hpath⟩
    rw [ha.path] at hfiles
    simp only [hfiles, hothers, Search.visitAll_eq s.settings ha.now hbytes]

/-- The files of the mixed tree, put there in another order and at another time, beside a document
of another kind, a directory that is left out and a link to it. -/
def clutteredTree : FileTree where
  nodes := [([folderName, ⟨"venv", by decide⟩, noteName],
      .file (Text.Utf8.encode "// @reminder 2024-05-06: hidden".toList) (.zero false)),
    ([folderName, brokenName], .file [0xFF] (.zero true)),
    ([folderName, markedName], .file (Text.Utf8.encode standardMarker.toList) (.zero true)),
    ([folderName, ⟨"notes.txt", by decide⟩], .file [0x40] (.zero true)),
    ([folderName, ⟨"linked", by decide⟩], .link "venv"),
    ([folderName, ⟨"venv", by decide⟩], .directory),
    ([folderName, noteName],
      .file (Text.Utf8.encode "x\n// @reminder 2024-01-02: pay".toList) (.infinite false)),
    ([folderName], .directory)]
  distinct := by decide

def clutteredHost : Host := { mixedHost with tree := clutteredTree }

theorem alike_cluttered_mixed : Alike {} "/w" clutteredHost mixedHost := by
  have hcluttered : clutteredHost.searchRoot? (clutteredHost.absolute
      (clutteredHost.absoluteUser "/w")) = .ok (some [folderName]) := by decide +kernel
  have hmixed : mixedHost.searchRoot? (mixedHost.absolute (mixedHost.absoluteUser "/w")) =
      .ok (some [folderName]) := by decide +kernel
  have hlist : eligible clutteredHost (clutteredHost.absolute (clutteredHost.absoluteUser "/w"))
      standardExtensions standardExcluded [folderName] = ["/w/c.py", "/w/b.py", "/w/a.py"] := by
    decide +kernel
  have hlist' : eligible mixedHost (mixedHost.absolute (mixedHost.absoluteUser "/w"))
      standardExtensions standardExcluded [folderName] = ["/w/a.py", "/w/b.py", "/w/c.py"] := by
    decide +kernel
  refine ⟨rfl, rfl, by decide +kernel, ?_, ?_⟩
  · intro path
    rw [isCandidate_iff hcluttered, isCandidate_iff hmixed, hlist, hlist']
    simp only [List.mem_cons, List.not_mem_nil, or_false]
    tauto
  · intro path hpath
    rw [isCandidate_iff hmixed, hlist'] at hpath
    have hall : ∀ path ∈ ["/w/a.py", "/w/b.py", "/w/c.py"],
        (clutteredHost.openFile path).map Prod.fst = (mixedHost.openFile path).map Prod.fst := by
      decide +kernel
    exact hall path hpath

theorem scanRoot_eq_of_alike_cluttered : clutteredHost.IsRooted ∧ mixedHost.IsRooted ∧
    Alike {} "/w" clutteredHost mixedHost ∧
    scanRoot ⟨{}, .empty⟩ clutteredHost (some "/w") = scanRoot ⟨{}, .empty⟩ mixedHost (some "/w") :=
  ⟨by decide, by decide, alike_cluttered_mixed,
    scanRoot_eq_of_alike ⟨{}, .empty⟩ (by decide) (by decide) alike_cluttered_mixed⟩

def hostWith (tree : FileTree) : Host := { mixedHost with tree }

/-- A directory that is missing has the same paths to look into as an empty one, namely none. Only
the empty one is searched. -/
theorem scanRoot_missing_and_empty :
    candidates (hostWith .empty) ((hostWith .empty).absoluteUser "/w") standardExtensions
        standardExcluded = .ok [] ∧
    candidates (hostWith (.insert .empty [folderName] .directory))
        ((hostWith (.insert .empty [folderName] .directory)).absoluteUser "/w") standardExtensions
        standardExcluded = .ok [] ∧
    (scanRoot ⟨{}, .empty⟩ (hostWith .empty) (some "/w")).answer = .ok none ∧
    (scanRoot ⟨{}, .empty⟩ (hostWith (.insert .empty [folderName] .directory)) (some "/w")).answer =
      .ok (some { root := "/w" }) := by
  decide +kernel

end Service
end ReminderScan
