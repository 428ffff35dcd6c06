import ReminderScan.Proofs.Workspace.Scan

/-! What one trigger does to the store: a document takes the place of its earlier reminders or adds
to them, and a search that finds its directory takes the place of everything. -/

namespace ReminderScan

namespace Store

/-- Reminders from one document are of no other file. -/
theorem filter_remindersIn (h : Host) (defaultTime path file : String) :
    (h.remindersIn defaultTime path).filter (·.file = file) =
      if path = file then h.remindersIn defaultTime file else [] := by
  split
  · next hp =>
    subst hp
    exact List.filter_eq_self.2 fun r hr => by simpa using Host.file_of_mem_remindersIn hr
  · next hp =>
    refine List.filter_eq_nil_iff.2 fun r hr => ?_
    simpa [Host.file_of_mem_remindersIn hr] using hp

/-- Of reminders taken file by file, those of one file are what that file brings. -/
theorem filter_flatMap_remindersIn (h : Host) (defaultTime file : String) {files : List String}
    (hdistinct : files.Nodup) :
    (files.flatMap (h.remindersIn defaultTime)).filter (·.file = file) =
      if file ∈ files then h.remindersIn defaultTime file else [] := by
  induction files with
  | nil => simp
  | cons path rest ih =>
    obtain ⟨hpath, hrest⟩ := List.nodup_cons.1 hdistinct
    rw [List.flatMap_cons, List.filter_append, filter_remindersIn, ih hrest]
    by_cases he : path = file
    · subst he
      simp [hpath]
    · have hne : file ≠ path := fun e => he e.symm
      simp [he, hne, List.mem_cons]

/-- Where the reminders of each file have increasing lines, no line of a file is known twice. -/
theorem nodup_of_ofFile {s : Store}
    (h : ∀ file, (s.ofFile file).Pairwise fun a b => a.line < b.line) :
    (s.toList.map fun r => (r.file, r.line)).Nodup := by
  obtain ⟨reminders⟩ := s
  simp only [ofFile, List.pairwise_filter] at h
  refine List.pairwise_map.2 (List.pairwise_iff_getElem.2 fun i j hi hj hij heq => ?_)
  obtain ⟨hfile, hline⟩ := Prod.mk.inj heq
  have hlt := List.pairwise_iff_getElem.1 (h reminders[i].file) i j hi hj hij (by simp)
    (by simp [hfile])
  exact Int.ne_of_lt hlt hline

end Store

/-- The directory that a search finds, if it finds one. -/
def Host.searched? (h : Host) (root : Option String) : Option String :=
  root.bind fun r =>
    if r ≠ "" ∧ h.isDirectory (h.absoluteUser r) then some (h.absoluteUser r) else none

namespace Service

theorem settings_prune (s : Service) (file : String) : (s.prune file).1.settings = s.settings := by
  unfold prune
  split <;> rfl

theorem store_prune (s : Service) (file : String) : (s.prune file).1.store =
    if s.settings.pruneOnRescan.isTruthy then s.store.removeFile file else s.store := by
  unfold prune
  split <;> rfl

/-- Reading a file adds what it holds, which is nothing if it cannot be read. -/
theorem scanFile_service (s : Service) {h : Host} {path file : String}
    (hfile : h.absolute path = file) (notify : Bool) :
    (s.scanFile h path notify).service =
      s.withStore (s.store.append (h.remindersIn s.settings.defaultTime file)) := by
  unfold scanFile
  rw [hfile]
  cases hd : h.readDocument file with
  | error f =>
    have ht : h.text? file = none := by rw [Host.text?, hd]; rfl
    simp only [hd]
    simp [Host.remindersIn, ht, Store.append, withStore]
  | ok text =>
    have ht := Host.text?_eq_some_iff.2 hd
    simp only [hd, Host.remindersIn, ht, ← Document.reminders_eq_annotations]
    rfl

theorem documentChanged_service (s : Service) {h : Host} (hr : h.IsRooted) (trigger : Trigger)
    (path : String) :
    (s.documentChanged h trigger path).service = (s.prune (h.absolute path)).1.withStore
      ((s.prune (h.absolute path)).1.store.append
        (h.remindersIn s.settings.defaultTime (h.absolute path))) := by
  have hself := Host.absolute_absolute hr path
  unfold documentChanged
  generalize h.absolute path = file at hself ⊢
  have hscan := scanFile_service (s.prune file).1 hself true
  rw [settings_prune] at hscan
  rw [← hscan]
  dsimp only
  split <;> rfl

theorem documentChanged_settings (s : Service) {h : Host} (hr : h.IsRooted) (trigger : Trigger)
    (path : String) : (s.documentChanged h trigger path).service.settings = s.settings := by
  rw [documentChanged_service s hr]
  exact settings_prune s _

theorem documentChanged_store (s : Service) {h : Host} (hr : h.IsRooted) (trigger : Trigger)
    (path : String) : (s.documentChanged h trigger path).service.store =
      (if s.settings.pruneOnRescan.isTruthy then s.store.removeFile (h.absolute path)
        else s.store).append (h.remindersIn s.settings.defaultTime (h.absolute path)) := by
  rw [documentChanged_service s hr, ← store_prune]
  rfl

/-- A document that is read touches no reminder of another file. -/
theorem filter_documentChanged (s : Service) {h : Host} (hr : h.IsRooted) (trigger : Trigger)
    (path : String) :
    (s.documentChanged h trigger path).service.store.toList.filter (·.file ≠ h.absolute path) =
      s.store.toList.filter (·.file ≠ h.absolute path) := by
  have hnone : (h.remindersIn s.settings.defaultTime (h.absolute path)).filter
      (·.file ≠ h.absolute path) = [] :=
    List.filter_eq_nil_iff.2 fun r hmem => by simp [Host.file_of_mem_remindersIn hmem]
  rw [documentChanged_store s hr, Store.toList_append, List.filter_append, hnone, List.append_nil]
  split
  · simp [List.filter_filter]
  · rfl

theorem scanRoot_eq_of_missing (s : Service) {h : Host} {root : Option String}
    (hmissing : h.searched? root = none) :
    ∃ text, s.scanRoot h root = ⟨.ok none, s, [.info text]⟩ := by
  unfold scanRoot
  split
  · exact ⟨_, rfl⟩
  · exact ⟨_, rfl⟩
  · next r hne =>
    have hd : h.isDirectory (h.absoluteUser r) = false := by
      simp only [Host.searched?, Option.bind_some] at hmissing
      split at hmissing
      · simp at hmissing
      · next hno =>
        have hr : r ≠ "" := fun e => hne (e ▸ rfl)
        simpa [hr] using hno
    exact ⟨_, by simp only [hd, Bool.not_false, if_true]; rfl⟩

/-- Where there is no directory to search, nothing changes. -/
theorem scanRoot_of_missing (s : Service) {h : Host} {root : Option String}
    (hmissing : h.searched? root = none) : (s.scanRoot h root).service = s := by
  obtain ⟨text, hscan⟩ := scanRoot_eq_of_missing s hmissing
  rw [hscan]

theorem of_searched? {h : Host} {root : Option String} {top : String}
    (hfound : h.searched? root = some top) :
    ∃ r, root = some r ∧ r ≠ "" ∧ h.isDirectory (h.absoluteUser r) = true ∧
      top = h.absoluteUser r := by
  obtain ⟨r, hroot, hr⟩ := Option.bind_eq_some_iff.1 hfound
  split at hr
  · next hfound =>
    exact ⟨r, hroot, hfound.1, hfound.2, (Option.some.inj hr).symm⟩
  · simp at hr

theorem candidates_of_searched? {h : Host} (hr : h.IsRooted) {root : Option String} {top : String}
    (hfound : h.searched? root = some top) (extensions excluded : List String) :
    ∃ files, candidates h top extensions excluded = .ok files := by
  obtain ⟨r, -, -, hd, rfl⟩ := of_searched? hfound
  exact exists_candidates (nul_not_mem_absoluteUser hr hd)

/-- A search that finds its directory is answered, and leaves of each file what the file holds, if
it is to be searched. -/
theorem scanRoot_of_found (s : Service) {h : Host} (hr : h.IsRooted) {root : Option String}
    {top : String} (hfound : h.searched? root = some top) {files : List String}
    (hc : candidates h top s.settings.extensions s.settings.excluded = .ok files)
    {out : String → Bool} (hout : ∀ path ∈ files, h.Decides s.settings.marker out path) :
    (∃ scan, (s.scanRoot h root).answer = .ok scan) ∧
    (s.scanRoot h root).service.settings = s.settings ∧
    ∀ file, (s.scanRoot h root).service.store.ofFile file =
      if file ∈ files ∧ out file = false then h.remindersIn s.settings.defaultTime file
      else [] := by
  obtain ⟨r, rfl, hne, hd, rfl⟩ := of_searched? hfound
  obtain ⟨search, hcovers, hscan⟩ := scanRoot_covers hr hne hd hc hout
  rw [hscan]
  refine ⟨⟨some search.scan, rfl⟩, rfl, fun file => ?_⟩
  have hdistinct : files.Nodup := (candidates_increasing hc).imp fun hlt => String.ne_of_lt hlt
  have hstore : (s.withStore search.store).store.toList = _ := hcovers.store
  rw [Store.ofFile, hstore, Store.filter_flatMap_remindersIn h _ _ (hdistinct.filter _)]
  simp only [List.mem_filter]
  by_cases hfile : file ∈ files <;> simp only [hfile, true_and, false_and, if_false]
  cases ht : h.text? file with
  | none => simp [Host.isSearched, Host.isReadable, Host.remindersIn, ht]
  | some text => simp [Host.isSearched, Host.isReadable, ht]

/-- A search for a marker that is a text is answered, also where there is no directory. -/
theorem exists_answer_scanRoot (s : Service) {h : Host} (hr : h.IsRooted) {marker : String}
    (hm : s.settings.marker = .text marker) (root : Option String) :
    ∃ scan, (s.scanRoot h root).answer = .ok scan := by
  cases hfound : h.searched? root with
  | none =>
    obtain ⟨text, hscan⟩ := scanRoot_eq_of_missing s hfound
    exact ⟨none, by rw [hscan]⟩
  | some top =>
    obtain ⟨files, hc⟩ :=
      candidates_of_searched? hr hfound s.settings.extensions s.settings.excluded
    exact (scanRoot_of_found s hr hfound hc fun path _ => h.decides_isOptedOut hm path).1

theorem scanWorkspace_eq (s : Service) (h : Host) (root : Option String) :
    s.scanWorkspace h root = s.scanRoot h (root.or s.settings.root) := by
  cases root <;> rfl

end Service
end ReminderScan
