import ReminderScan.Proofs.Watch.Agreement

/-! The start of a watch while the files change. The first look tells what differs from the record
that is taken after the search; what was edited between the search and the record stands in the
record already and is not told. -/

namespace ReminderScan

namespace Watcher

variable {w primed : Watcher} {recorded looked : Host}

/-- The time of change that a look sees of a file, if it sees the file. -/
def timeOf (w : Watcher) (h : Host) (file : String) : Option Number.Binary64 :=
  match w.snapshot h with
  | .ok now => now.lookup file
  | .error _ => none

theorem timeOf_eq {h : Host} {now : Snapshot} (hs : w.snapshot h = .ok now) (file : String) :
    w.timeOf h file = now.lookup file := by
  rw [timeOf, hs]

/-- A look after a record tells the files whose time of change it sees, and not the one recorded. -/
theorem poll_of_prime (hprime : w.prime recorded = .ok primed) (hr : looked.IsRooted)
    (hnul : '\x00' ∉ (looked.absolute w.root).toList) :
    ∃ c watcher, primed.poll looked = .ok (c, watcher) ∧
      (∀ file, file ∈ c.opened ++ c.saved ↔
        w.timeOf looked file ≠ none ∧ w.timeOf looked file ≠ w.timeOf recorded file) ∧
      ∀ file ∈ c.opened ++ c.saved, looked.absolute file = file := by
  obtain ⟨before, hbefore, hprimed⟩ := bind_eq_ok.1 hprime
  obtain rfl : { w with seen := before } = primed := Except.ok.inj hprimed
  obtain ⟨files, hc⟩ : ∃ files, candidates looked w.root w.extensions w.excluded = .ok files :=
    exists_candidates hnul
  have hnow := snapshot_eq hc
  generalize (files.filterMap fun path => (looked.modified? path).map (path, ·)) = now at hnow
  have hchanged : ∀ file, file ∈ (changes before now).opened ++ (changes before now).saved ↔
      now.lookup file ≠ none ∧ now.lookup file ≠ before.lookup file := by
    intro file
    exact mem_changes fun m => mem_snapshot hc hnow
  refine ⟨changes before now, { w with seen := now }, ?_, ?_, ?_⟩
  · have hsame : { w with seen := before }.snapshot looked = w.snapshot looked := rfl
    rw [poll, hsame, hnow]
    rfl
  · intro file
    rw [timeOf_eq hnow, timeOf_eq hbefore]
    exact hchanged file
  · intro file hfile
    have hlisted : file ∈ files := (listed_of_lookup hc hnow ((hchanged file).1 hfile).1).1
    exact absolute_of_mem_candidates hr hc hlisted _

end Watcher

namespace Service

/-- Serving some files leaves what is known of the others as it is, also if a fault ends the row. -/
theorem ofFile_serveAll_of_ne (s : Service) {h : Host} (hr : h.IsRooted) {file : String}
    {calls : List (Trigger × String)} (hcalls : ∀ call ∈ calls, h.absolute call.2 ≠ file) :
    (s.serveAll h calls).service.store.ofFile file = s.store.ofFile file := by
  induction calls generalizing s with
  | nil => rfl
  | cons call rest ih =>
    obtain ⟨trigger, path⟩ := call
    have hne : h.absolute path ≠ file := hcalls (trigger, path) List.mem_cons_self
    have hfirst : (s.documentChanged h trigger path).service.store.ofFile file =
        s.store.ofFile file := by
      rw [documentChanged_store s hr, Store.ofFile_append, Store.filter_remindersIn, if_neg hne,
        List.append_nil]
      split
      · exact Store.ofFile_removeFile_of_ne _ hne.symm
      · rfl
    rw [serveAll]
    split
    · exact hfirst
    · refine (ih _ ?_).trans hfirst
      intro call hcall
      exact hcalls call (List.mem_cons_of_mem _ hcall)

end Service

namespace Watch

variable {w started : Watch} {h recorded looked : Host}

/-- The start of a watch whose files are edited between the search and the record. -/
def startLate (w : Watch) (h recorded : Host) : Except Fault Watch := do
  let scan := w.service.scanWorkspace h (some w.watcher.root)
  let _ ← scan.answer
  let watcher ← w.watcher.prime recorded
  .ok { w with watcher, service := scan.service }

theorem startLate_self (w : Watch) (h : Host) : w.startLate h h =
    match (w.start h).fault with
    | some f => .error f
    | none => .ok (w.start h).watch := by
  rw [startLate, start]
  cases (w.service.scanWorkspace h (some w.watcher.root)).answer with
  | error f => rfl
  | ok scan =>
    dsimp only
    cases w.watcher.prime h with
    | error f => rfl
    | ok watcher => rfl

theorem ofFile_cycle_of_not_mem (hr : h.IsRooted) {c : Changes} {watcher : Watcher} {file : String}
    (hpoll : w.watcher.poll h = .ok (c, watcher))
    (hpaths : ∀ path ∈ c.opened ++ c.saved, h.absolute path = path)
    (hfile : file ∉ c.opened ++ c.saved) :
    (w.cycle h).watch.service.store.ofFile file = w.service.store.ofFile file := by
  have hserved :
      (w.service.dispatch h c).service.store.ofFile file = w.service.store.ofFile file := by
    apply Service.ofFile_serveAll_of_ne w.service hr
    intro call hcall
    have hmem : call.2 ∈ c.opened ++ c.saved := by
      rw [List.mem_append] at hcall ⊢
      rcases hcall with hcall | hcall
      · obtain ⟨path, hpath, rfl⟩ := List.mem_map.1 hcall
        exact Or.inl hpath
      · obtain ⟨path, hpath, rfl⟩ := List.mem_map.1 hcall
        exact Or.inr hpath
    rw [hpaths call.2 hmem]
    rintro rfl
    exact hfile hmem
  rw [cycle, hpoll]
  dsimp only
  split
  · rfl
  · split <;> exact hserved

/-- The first look tells a file when its time of change is not the one recorded. Edits between the
search and the record are not asked for: of a file that is not told, the watch knows what the search
read. -/
theorem poll_startLate (hr : h.IsRooted) (hnul : '\x00' ∉ (h.absolute w.watcher.root).toList)
    (window later : List Edit)
    (hstart : w.startLate h (window.foldl Host.edited h) = .ok started) :
    ∃ c watcher, started.watcher.poll ((window ++ later).foldl Host.edited h) = .ok (c, watcher) ∧
      (∀ file, file ∈ c.opened ++ c.saved ↔
        w.watcher.timeOf ((window ++ later).foldl Host.edited h) file ≠ none ∧
        w.watcher.timeOf ((window ++ later).foldl Host.edited h) file ≠
          w.watcher.timeOf (window.foldl Host.edited h) file) ∧
      (later = [] → c.opened ++ c.saved = []) ∧
      ∀ file, file ∉ c.opened ++ c.saved →
        (started.cycle ((window ++ later).foldl Host.edited h)).watch.service.store.ofFile file =
          (w.service.scanWorkspace h (some w.watcher.root)).service.store.ofFile file := by
  obtain ⟨_, -, hrest⟩ := bind_eq_ok.1 hstart
  obtain ⟨primed, hprime, hstarted⟩ := bind_eq_ok.1 hrest
  obtain rfl := Except.ok.inj hstarted
  have hr' := Host.isRooted_foldl hr (window ++ later)
  have hnul' := hnul
  rw [← Host.absolute_foldl h (window ++ later)] at hnul'
  obtain ⟨c, watcher, hpoll, hchanged, hpaths⟩ := Watcher.poll_of_prime hprime hr' hnul'
  refine ⟨c, watcher, hpoll, hchanged, ?_, ?_⟩
  · rintro rfl
    apply List.eq_nil_iff_forall_not_mem.2
    intro file hfile
    have hdiffer := ((hchanged file).1 hfile).2
    rw [List.append_nil] at hdiffer
    exact hdiffer rfl
  · intro file hfile
    exact ofFile_cycle_of_not_mem hr' hpoll hpaths hfile

def noteWatch : Watch where
  watcher := ⟨"/w", standardExtensions, standardExcluded, []⟩
  service := ⟨{}, .empty⟩

theorem exists_startLate_noteWatch :
    ∃ started, noteWatch.startLate Station.noteHost (Station.noteHost.edited Station.noteEdit) =
      .ok started := by
  have hstarts : (noteWatch.startLate Station.noteHost
      (Station.noteHost.edited Station.noteEdit)).toOption.isSome = true := by
    decide +kernel
  cases hstart : noteWatch.startLate Station.noteHost
      (Station.noteHost.edited Station.noteEdit) with
  | error f =>
    rw [hstart] at hstarts
    cases hstarts
  | ok started => exact ⟨started, rfl⟩

theorem poll_startLate_noteWatch : Station.noteHost.IsRooted ∧
    '\x00' ∉ (Station.noteHost.absolute noteWatch.watcher.root).toList ∧
    ∃ started, noteWatch.startLate Station.noteHost (Station.noteHost.edited Station.noteEdit) =
        .ok started ∧
      ∃ c watcher, started.watcher.poll (Station.noteHost.edited Station.noteEdit) =
        .ok (c, watcher) ∧ c.opened ++ c.saved = [] := by
  have hr : Station.noteHost.IsRooted := by decide
  have hnul : '\x00' ∉ (Station.noteHost.absolute noteWatch.watcher.root).toList := by
    decide +kernel
  obtain ⟨started, hstart⟩ := exists_startLate_noteWatch
  obtain ⟨c, watcher, hpoll, -, hquiet, -⟩ :=
    poll_startLate hr hnul [Station.noteEdit] [] hstart
  exact ⟨hr, hnul, started, hstart, c, watcher, hpoll, hquiet rfl⟩

/-- The note is rewritten after it was searched and before the record: another text and another time
of change, and the first look tells nothing. -/
theorem startLate_loses_edit : ∃ started c watcher,
    noteWatch.startLate Station.noteHost (Station.noteHost.edited Station.noteEdit) = .ok started ∧
    started.watcher.poll (Station.noteHost.edited Station.noteEdit) = .ok (c, watcher) ∧
    noteWatch.watcher.timeOf Station.noteHost "/w/a.py" ≠ none ∧
    noteWatch.watcher.timeOf (Station.noteHost.edited Station.noteEdit) "/w/a.py" ≠
      noteWatch.watcher.timeOf Station.noteHost "/w/a.py" ∧
    (Station.noteHost.edited Station.noteEdit).text? "/w/a.py" ≠ Station.noteHost.text? "/w/a.py" ∧
    "/w/a.py" ∉ c.opened ++ c.saved := by
  obtain ⟨started, hstart⟩ := exists_startLate_noteWatch
  obtain ⟨_, -, hrest⟩ := bind_eq_ok.1 hstart
  obtain ⟨primed, hprime, hstarted⟩ := bind_eq_ok.1 hrest
  have hr : (Station.noteHost.edited Station.noteEdit).IsRooted := by decide
  have hnul : '\x00' ∉
      ((Station.noteHost.edited Station.noteEdit).absolute noteWatch.watcher.root).toList := by
    decide +kernel
  obtain ⟨c, watcher, hpoll, hchanged, -⟩ := Watcher.poll_of_prime hprime hr hnul
  refine ⟨started, c, watcher, hstart, ?_, by decide +kernel, by decide +kernel, by decide +kernel,
    ?_⟩
  · obtain rfl := Except.ok.inj hstarted
    exact hpoll
  · intro hfile
    exact ((hchanged _).1 hfile).2 rfl

end Watch
end ReminderScan
