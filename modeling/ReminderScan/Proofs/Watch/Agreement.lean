import ReminderScan.Proofs.Watch.Edits

/-! A watch with pruning knows in the end what a search from scratch would find. Between the looks,
and between a look and the serving of what it found, the files may change in any way that a look can
tell by their times of change. -/

namespace ReminderScan

/-- A watch at rest: the machine, what was seen and what is known. -/
structure Station where
  host : Host
  watcher : Watcher
  service : Service

namespace Station

/-- A search, and its files are taken for seen. -/
def start (s : Service) (h : Host) (root : String) : Except Fault Station := do
  let scan := s.scanWorkspace h (some root)
  let _ ← scan.answer
  let watcher ← (Watcher.new h root s.settings.extensions s.settings.excluded).prime h
  .ok ⟨h, watcher, scan.service⟩

/-- A look, and what it found is served, maybe in another state of the machine. -/
def look (st : Station) (looked served : Host) : Except Fault Station := do
  let (changes, watcher) ← st.watcher.poll looked
  let out := st.service.dispatch served changes
  let _ ← out.answer
  .ok ⟨served, watcher, out.service⟩

/-- Edits, a look, more edits, and what the look found is served. -/
def cycle (st : Station) (c : Cycle) : Except Fault Station :=
  st.look (c.before.foldl Host.edited st.host) (c.edits.foldl Host.edited st.host)

def run (s : Service) (h : Host) (root : String) (cycles : List Cycle) : Except Fault Station := do
  let st ← start s h root
  cycles.foldlM cycle st

/-- Of each file that was seen, what is known is what it held at some time since it got the time of
change that was seen; of others nothing is known. -/
structure Tracks (w : Watcher) (s : Settings) (past : List Host) (st : Station) : Prop where
  settings : st.service.settings = s
  watcher : st.watcher = { w with seen := st.watcher.seen }
  last : ∃ before, past = before ++ [st.host]
  rooted : st.host.IsRooted
  nul : '\x00' ∉ (st.host.absolute w.root).toList
  known : ∀ file m, st.watcher.seen.lookup file = some m →
    ∃ older g recent, past = older ++ g :: recent ∧ g.modified? file = some m ∧
      ∃ e ∈ g :: recent, st.service.store.ofFile file = e.remindersIn s.defaultTime file
  unknown : ∀ file, st.watcher.seen.lookup file = none → st.service.store.ofFile file = []

variable {s : Settings} {w : Watcher} {past : List Host} {st : Station} {c : Cycle}
variable {looked served : Host} {files : List String} {now : Snapshot}

/-- A look goes well, and reads anew what has another time of change than before. -/
theorem look_eq (hw : st.watcher = { w with seen := st.watcher.seen }) (hr : looked.IsRooted)
    (hr' : served.IsRooted) (hprune : st.service.settings.pruneOnRescan.isTruthy = true)
    (hnul : '\x00' ∉ (looked.absolute w.root).toList)
    (hc : candidates looked w.root w.extensions w.excluded = .ok files)
    (hs : w.snapshot looked = .ok now) :
    ∃ service, st.look looked served = .ok ⟨served, { w with seen := now }, service⟩ ∧
      service.settings = st.service.settings ∧
      ∀ file, service.store.ofFile file =
        if now.lookup file ≠ none ∧ now.lookup file ≠ st.watcher.seen.lookup file then
          served.remindersIn st.service.settings.defaultTime file
        else st.service.store.ofFile file := by
  have hchanged : ∀ file, file ∈ (Watcher.changes st.watcher.seen now).opened ++
      (Watcher.changes st.watcher.seen now).saved ↔
      now.lookup file ≠ none ∧ now.lookup file ≠ st.watcher.seen.lookup file := fun file =>
    Watcher.mem_changes fun m => Watcher.mem_snapshot hc hs
  have hpaths : ∀ path ∈ (Watcher.changes st.watcher.seen now).opened ++
      (Watcher.changes st.watcher.seen now).saved,
      served.absolute path = path ∧ '\x00' ∉ path.toList := by
    intro path hpath
    have hp : path ∈ files := (Watcher.listed_of_lookup hc hs ((hchanged path).1 hpath).1).1
    exact ⟨absolute_of_mem_candidates hr hc hp _, nul_not_mem_candidate hnul hc hp⟩
  obtain ⟨⟨count, hanswer⟩, hsettings, hfiles⟩ := st.service.dispatch_store hr' hprune hpaths
  refine ⟨(st.service.dispatch served (Watcher.changes st.watcher.seen now)).service, ?_,
    hsettings, ?_⟩
  · have hpoll : st.watcher.poll looked =
        .ok (Watcher.changes st.watcher.seen now, { w with seen := now }) := by
      have hsnapshot : st.watcher.snapshot looked = .ok now := by
        rw [hw]
        exact hs
      rw [Watcher.poll, hsnapshot, hw]
      rfl
    simp only [look, hpoll, bind, Except.bind, hanswer]
  · intro file
    simp only [hfiles, hchanged]

/-- A look keeps what is known in step with what was seen, if no file that was seen is gone. -/
theorem tracks_look (ht : Tracks w s past st) {older recent : List Host}
    (hserved : ∃ before, looked :: recent = before ++ [served]) (hr : served.IsRooted)
    (hnul : '\x00' ∉ (served.absolute w.root).toList) {more : List Host}
    (hpast : past ++ more = older ++ looked :: recent)
    (hnow : ∀ file m, now.lookup file = some m → looked.modified? file = some m)
    (hkeep : ∀ file, now.lookup file = none → st.watcher.seen.lookup file = none)
    {service : Service} (hsettings : service.settings = s)
    (hfiles : ∀ file, service.store.ofFile file =
      if now.lookup file ≠ none ∧ now.lookup file ≠ st.watcher.seen.lookup file then
        served.remindersIn s.defaultTime file
      else st.service.store.ofFile file) :
    Tracks w s (past ++ more) ⟨served, { w with seen := now }, service⟩ := by
  obtain ⟨before, hbefore⟩ := hserved
  have hmem : served ∈ looked :: recent := by
    rw [hbefore]
    simp
  refine ⟨hsettings, rfl, ⟨older ++ before, ?_⟩, hr, hnul, ?_, ?_⟩
  · rw [hpast, hbefore, List.append_assoc]
  · intro file m hm
    change now.lookup file = some m at hm
    change ∃ older g recent, past ++ more = older ++ g :: recent ∧ g.modified? file = some m ∧
      ∃ e ∈ g :: recent, service.store.ofFile file = e.remindersIn s.defaultTime file
    by_cases hsame : st.watcher.seen.lookup file = some m
    · -- The file is not served, so what is known of it stays as it is.
      obtain ⟨before, g, after, rfl, hg, e, he, hstore⟩ := ht.known file m hsame
      refine ⟨before, g, after ++ more, by simp, hg, e, ?_, ?_⟩
      · exact List.mem_append_left more he
      · rw [hfiles, hm, hsame, if_neg (by simp), hstore]
    · refine ⟨older, looked, recent, hpast, hnow file m hm, served, hmem, ?_⟩
      rw [hfiles, hm, if_pos ⟨by simp, fun he => hsame he.symm⟩]
  · intro file hnone
    change now.lookup file = none at hnone
    change service.store.ofFile file = []
    rw [hfiles, hnone, if_neg (by simp)]
    exact ht.unknown file (hkeep file hnone)

/-- A whole cycle goes well, whatever was edited before the look and after it. -/
theorem tracks_cycle (ht : Tracks w s past st) (hprune : s.pruneOnRescan.isTruthy = true)
    {g : Host} (hseen : w.snapshot g = .ok st.watcher.seen)
    (hkeep : ∀ file, w.Sees g file → w.Sees (c.before.foldl Host.edited st.host) file) :
    ∃ next, st.cycle c = .ok next ∧ next.host = c.edits.foldl Host.edited st.host ∧
      w.snapshot (c.before.foldl Host.edited st.host) = .ok next.watcher.seen ∧
      Tracks w s (past ++ st.host.history c.edits) next := by
  have hend : c.between.foldl Host.edited (c.before.foldl Host.edited st.host) =
      c.edits.foldl Host.edited st.host := by
    rw [Cycle.edits, List.foldl_append]
  have hserved := (c.before.foldl Host.edited st.host).last_history c.between
  rw [hend] at hserved
  obtain ⟨older, hpast⟩ : ∃ older, past ++ st.host.history c.edits =
      older ++ c.before.foldl Host.edited st.host ::
        (c.before.foldl Host.edited st.host).history c.between := by
    obtain ⟨start, hstart⟩ := ht.last
    obtain ⟨more, hmore⟩ := st.host.last_history c.before
    refine ⟨start ++ more, ?_⟩
    rw [Cycle.edits, Host.history_append, hstart, List.append_assoc, List.singleton_append,
      ← List.cons_append, hmore]
    simp
  have hr := Host.isRooted_foldl ht.rooted c.before
  have hr' := Host.isRooted_foldl ht.rooted c.edits
  have hnul : '\x00' ∉ ((c.before.foldl Host.edited st.host).absolute w.root).toList := by
    rw [Host.absolute_foldl]
    exact ht.nul
  have hnul' : '\x00' ∉ ((c.edits.foldl Host.edited st.host).absolute w.root).toList := by
    rw [Host.absolute_foldl]
    exact ht.nul
  unfold cycle
  generalize c.before.foldl Host.edited st.host = looked at *
  generalize c.edits.foldl Host.edited st.host = served at *
  obtain ⟨files, hc⟩ : ∃ files, candidates looked w.root w.extensions w.excluded = .ok files :=
    exists_candidates hnul
  obtain ⟨now, hs⟩ : ∃ now, w.snapshot looked = .ok now := ⟨_, Watcher.snapshot_eq hc⟩
  obtain ⟨service, hlook, hsettings, hfiles⟩ :=
    look_eq ht.watcher hr hr' (ht.settings.symm ▸ hprune) hnul hc hs
  rw [ht.settings] at hsettings hfiles
  refine ⟨_, hlook, rfl, hs, ?_⟩
  refine tracks_look ht hserved hr' hnul' hpast ?_ ?_ hsettings hfiles
  · intro file m hm
    rw [Watcher.lookup_snapshot hc hs] at hm
    split at hm
    · exact hm
    · simp at hm
  · intro file hnone
    refine Classical.byContradiction fun hsome => ?_
    exact (Watcher.sees_iff hs).1 (hkeep file ((Watcher.sees_iff hseen).2 hsome)) hnone

/-- From cycle to cycle what is known keeps in step. -/
theorem tracks_foldlM (cycles : List Cycle) (ht : Tracks w s past st)
    (hprune : s.pruneOnRescan.isTruthy = true) {g : Host}
    (hseen : w.snapshot g = .ok st.watcher.seen)
    (hkeep : (g :: st.host.looks cycles).Pairwise fun a b =>
      ∀ file, w.Sees a file → w.Sees b file) :
    ∃ next last, cycles.foldlM cycle st = .ok next ∧
      next.host = (cycles.flatMap Cycle.edits).foldl Host.edited st.host ∧
      (g :: st.host.looks cycles).getLast? = some last ∧
      w.snapshot last = .ok next.watcher.seen ∧
      Tracks w s (past ++ st.host.history (cycles.flatMap Cycle.edits)) next := by
  induction cycles generalizing st past g with
  | nil => exact ⟨st, g, rfl, rfl, rfl, hseen, by simpa [Host.history] using ht⟩
  | cons c rest ih =>
    rw [Host.looks, List.pairwise_cons] at hkeep
    obtain ⟨st', hcycle, hhost, hseen', ht'⟩ :=
      tracks_cycle ht hprune hseen (hkeep.1 _ List.mem_cons_self)
    rw [← hhost] at hkeep
    obtain ⟨next, last, hrun, hnext, hlast, hsnapshot, htracks⟩ := ih ht' hseen' hkeep.2
    refine ⟨next, last, ?_, ?_, ?_, hsnapshot, ?_⟩
    · rw [List.foldlM_cons, hcycle]
      exact hrun
    · rw [hnext, hhost, List.flatMap_cons, List.foldl_append]
    · rw [Host.looks, ← hhost]
      simpa using hlast
    · rw [List.flatMap_cons, Host.history_append, ← List.append_assoc, ← hhost]
      exact htracks

/-- Where the last look is not older than the files are, what is known of them is what they hold. -/
theorem ofFile_of_tracks (ht : Tracks w s past st)
    (hc : candidates st.host w.root w.extensions w.excluded = .ok files)
    (hs : w.snapshot st.host = .ok st.watcher.seen) (htimes : ∀ file ∈ files, FreshTimes past file)
    (file : String) : st.service.store.ofFile file =
      if file ∈ files then st.host.remindersIn s.defaultTime file else [] := by
  rw [Watcher.remindersIn_eq_of_lookup hc hs]
  cases hm : st.watcher.seen.lookup file with
  | none => rw [if_pos rfl, ht.unknown file hm]
  | some m =>
    rw [if_neg (by simp)]
    obtain ⟨older, g, recent, hpast, hg, e, he, hknown⟩ := ht.known file m hm
    rw [Watcher.lookup_snapshot hc hs] at hm
    split at hm
    · next hfile =>
      obtain ⟨before, hlast⟩ := ht.last
      have hend : (g :: recent).getLast? = some st.host := by
        have hsome : (older ++ g :: recent).getLast? = some st.host := by
          rw [← hpast, hlast, List.getLast?_concat]
        simpa [List.getLast?_append] using hsome
      have htext :=
        text?_of_freshTimes (htimes file hfile) (by rw [hpast, List.append_nil]) hend hg hm
      rw [hknown]
      exact Host.remindersIn_congr (htext e he) _
    · simp at hm

end Station

namespace Service

variable {s : Service} {h : Host} {root : String} {files : List String}

/-- A search that meets no marker is answered, and leaves of each file what it holds. -/
theorem scanWorkspace_of_isDirectory (hr : h.IsRooted) (hne : root ≠ "")
    (hd : h.isDirectory (h.absoluteUser root) = true)
    (hc : candidates h (h.absoluteUser root) s.settings.extensions s.settings.excluded = .ok files)
    (hmarker : ∀ path ∈ files, ∀ text, h.text? path = some text →
      WorkspaceScan.holdsMarker s.settings.marker text = .ok false) :
    (∃ scan, (s.scanWorkspace h (some root)).answer = .ok scan) ∧
    (s.scanWorkspace h (some root)).service.settings = s.settings ∧
    ∀ file, (s.scanWorkspace h (some root)).service.store.ofFile file =
      if file ∈ files then h.remindersIn s.settings.defaultTime file else [] := by
  have hfound : h.searched? (some root) = some (h.absoluteUser root) := by
    simp [Host.searched?, hne, hd]
  have hout : ∀ path ∈ files, h.Decides s.settings.marker (fun _ => false) path :=
    fun path hp => ⟨hmarker path hp, by simp⟩
  rw [scanWorkspace_eq, Option.some_or]
  simpa using scanRoot_of_found s hr hfound hc hout

/-- From nothing known, a search that meets no marker leaves of each file what it holds, even if
there is no directory to search. -/
theorem ofFile_scanWorkspace_empty {settings : Settings} (hr : h.IsRooted) (hne : root ≠ "")
    (hc : candidates h (h.absoluteUser root) settings.extensions settings.excluded = .ok files)
    (hmarker : ∀ path ∈ files, ∀ text, h.text? path = some text →
      WorkspaceScan.holdsMarker settings.marker text = .ok false) (file : String) :
    (scanWorkspace ⟨settings, .empty⟩ h (some root)).service.store.ofFile file =
      if file ∈ files then h.remindersIn settings.defaultTime file else [] := by
  by_cases hd : h.isDirectory (h.absoluteUser root) = true
  · exact (scanWorkspace_of_isDirectory (s := ⟨settings, .empty⟩) hr hne hd hc hmarker).2.2 file
  · have hmissing : h.searched? (some root) = none := by simp [Host.searched?, hd]
    have hempty : files = [] :=
      candidates_of_missing (by simpa [Host.absolute_absoluteUser hr] using hd) hc
    rw [scanWorkspace_eq, Option.some_or, scanRoot_of_missing _ hmissing, hempty]
    rfl

end Service

namespace Station

variable {s : Service} {h : Host} {root : String}

theorem tracks_start (hr : h.IsRooted) (hne : root ≠ "")
    (hd : h.isDirectory (h.absoluteUser root) = true)
    (hmarker : ∀ files,
      candidates h (h.absoluteUser root) s.settings.extensions s.settings.excluded = .ok files →
      ∀ path ∈ files, ∀ text, h.text? path = some text →
        WorkspaceScan.holdsMarker s.settings.marker text = .ok false) :
    ∃ st, start s h root = .ok st ∧ st.host = h ∧
      (Watcher.new h root s.settings.extensions s.settings.excluded).snapshot h =
        .ok st.watcher.seen ∧
      Tracks (Watcher.new h root s.settings.extensions s.settings.excluded) s.settings [h] st := by
  have hnul := nul_not_mem_absoluteUser hr hd
  obtain ⟨files, hc⟩ : ∃ files, candidates h (h.absoluteUser root) s.settings.extensions
      s.settings.excluded = .ok files := exists_candidates hnul
  obtain ⟨⟨scan, hanswer⟩, hsettings, hstore⟩ :=
    Service.scanWorkspace_of_isDirectory hr hne hd hc (hmarker files hc)
  generalize hw : Watcher.new h root s.settings.extensions s.settings.excluded = w
  have hcw : candidates h w.root w.extensions w.excluded = .ok files := by
    rw [← hw]
    exact hc
  have hnulw : '\x00' ∉ (h.absolute w.root).toList := by
    rw [← hw]
    exact hnul
  obtain ⟨now, hs⟩ : ∃ now, w.snapshot h = .ok now := ⟨_, Watcher.snapshot_eq hcw⟩
  have hlook := Watcher.lookup_snapshot hcw hs
  have heq := Watcher.remindersIn_eq_of_lookup hcw hs s.settings.defaultTime
  refine ⟨⟨h, { w with seen := now }, (s.scanWorkspace h (some root)).service⟩, ?_, rfl, hs,
    hsettings, rfl, ⟨[], rfl⟩, hr, hnulw, ?_, ?_⟩
  · simp only [start, hw, hanswer, Watcher.prime, hs, bind, Except.bind]
  · intro file m hm
    change now.lookup file = some m at hm
    refine ⟨[], h, [], rfl, ?_, h, List.mem_cons_self, ?_⟩
    · rw [hlook] at hm
      split at hm
      · exact hm
      · simp at hm
    · rw [hstore, heq, hm, if_neg (by simp)]
  · intro file hnone
    change now.lookup file = none at hnone
    rw [hstore, heq, if_pos hnone]

/-- After a cycle in which nothing was edited between the look and the serving, a watch with pruning
knows of each file what a search from scratch would find. -/
theorem run_agrees (s : Service) (h : Host) (root : String) (cycles : List Cycle) (quiet : Cycle)
    (hr : h.IsRooted) (hne : root ≠ "") (hd : h.isDirectory (h.absoluteUser root) = true)
    (hprune : s.settings.pruneOnRescan.isTruthy = true) (hquiet : quiet.between = [])
    (htimes : ∀ file,
      Listed (h.absoluteUser root) s.settings (h.timeline (cycles ++ [quiet])) file →
      FreshTimes (h.timeline (cycles ++ [quiet])) file)
    (hkeep : (h :: h.looks (cycles ++ [quiet])).Pairwise fun a b => ∀ file,
      (Watcher.new h root s.settings.extensions s.settings.excluded).Sees a file →
      (Watcher.new h root s.settings.extensions s.settings.excluded).Sees b file)
    (hmarker : ∀ g ∈ h.timeline (cycles ++ [quiet]), ∀ files,
      candidates g (h.absoluteUser root) s.settings.extensions s.settings.excluded = .ok files →
      ∀ path ∈ files, ∀ text, g.text? path = some text →
        WorkspaceScan.holdsMarker s.settings.marker text = .ok false) :
    ∃ st, run s h root (cycles ++ [quiet]) = .ok st ∧
      st.host = ((cycles ++ [quiet]).flatMap Cycle.edits).foldl Host.edited h ∧
      (∀ file, st.service.store.ofFile file = (Service.scanWorkspace ⟨s.settings, .empty⟩ st.host
        (some root)).service.store.ofFile file) ∧
      (∀ file, st.host.text? file = none → st.service.store.ofFile file = []) ∧
      (st.service.store.toList.map fun r => (r.file, r.line)).Nodup := by
  obtain ⟨first, hstart, rfl, hseen, ht⟩ :=
    tracks_start hr hne hd (hmarker h List.mem_cons_self)
  obtain ⟨st, last, hrun, hend, hlast, hs, ht⟩ := tracks_foldlM _ ht hprune hseen hkeep
  have hsame : last = st.host := by
    rw [Host.looks_concat, ← List.cons_append, List.getLast?_concat] at hlast
    rw [hend, List.flatMap_append, List.foldl_append, List.flatMap_singleton, Cycle.edits, hquiet,
      List.append_nil]
    exact (Option.some.inj hlast).symm
  subst hsame
  have hplace : st.host.absoluteUser root = first.host.absoluteUser root := by
    rw [hend, Host.absoluteUser_foldl]
  have hmem : st.host ∈ first.host.timeline (cycles ++ [quiet]) := by
    obtain ⟨before, hbefore⟩ := first.host.last_history ((cycles ++ [quiet]).flatMap Cycle.edits)
    rw [Host.timeline, hbefore, hend]
    simp
  generalize hw : Watcher.new first.host root s.settings.extensions s.settings.excluded = w at *
  obtain ⟨files, hc⟩ := Watcher.candidates_of_snapshot hs
  have hcs : candidates st.host (first.host.absoluteUser root) s.settings.extensions
      s.settings.excluded = .ok files := by
    rw [← hw] at hc
    exact hc
  have hstore := ofFile_of_tracks ht hc hs fun file hfile =>
    htimes file ⟨st.host, hmem, files, hcs, hfile⟩
  have hfresh : ∀ file, (Service.scanWorkspace ⟨s.settings, .empty⟩ st.host
      (some root)).service.store.ofFile file =
        if file ∈ files then st.host.remindersIn s.settings.defaultTime file else [] :=
    Service.ofFile_scanWorkspace_empty ht.rooted hne (by rw [hplace]; exact hcs)
      (hmarker _ hmem files hcs)
  refine ⟨st, ?_, hend, fun file => (hstore file).trans (hfresh file).symm, ?_, ?_⟩
  · rw [run, hstart]
    exact hrun
  · intro file hnone
    rw [hstore]
    split
    · simp [Host.remindersIn, hnone]
    · rfl
  · refine Store.nodup_of_ofFile fun file => ?_
    rw [hstore]
    split
    · exact st.host.remindersIn_increasing _ _
    · exact .nil

def noteTree (text : String) (modified : Number.Binary64) : FileTree where
  nodes := [([Service.folderName], .directory),
    ([Service.folderName, Service.noteName], .file (Text.Utf8.encode text.toList) modified)]
  distinct := by
    simp only [List.map_cons, List.map_nil]
    decide

/-- A machine with a note, and one where the note was rewritten. -/
def noteHost : Host :=
  { Service.mixedHost with tree := noteTree "// @reminder 2024-01-02: pay" (.zero false) }

def noteEdit : Edit where
  tree := noteTree "// @reminder 2024-01-03: call" (.finite false (Nat.pow 2 52) (-52) (by decide))
  now := noteHost.now

/-- The note is rewritten between a look and the serving of what it found. -/
def noteCycles : List Cycle := [⟨[], [noteEdit]⟩]

def noteService : Service := ⟨{ pruneOnRescan := .bool true }, .empty⟩

def noteStates : List Host := [noteHost, noteHost.edited noteEdit]

theorem mem_note_iff {g : Host} (hg : g ∈ noteStates) {files : List String}
    (hc : candidates g "/w" standardExtensions standardExcluded = .ok files) (path : String) :
    path ∈ files ↔ path = "/w/a.py" := by
  have hplace : ∀ g ∈ noteStates, (g.searchRoot? (g.absolute "/w")).toOption =
      some (some [Service.folderName]) := by decide +kernel
  have hlist : ∀ g ∈ noteStates, eligible g (g.absolute "/w") standardExtensions standardExcluded
      [Service.folderName] = ["/w/a.py"] := by decide +kernel
  have hroot := hplace g hg
  cases hs : g.searchRoot? (g.absolute "/w") with
  | error f => simp [hs, Except.toOption] at hroot
  | ok found =>
    obtain rfl : found = some [Service.folderName] := by simpa [hs, Except.toOption] using hroot
    simp [mem_candidates_iff hc, hs, hlist g hg]

theorem sees_note_iff {w : Watcher} (hroot : w.root = "/w")
    (hext : w.extensions = standardExtensions) (hexcl : w.excluded = standardExcluded)
    {g : Host} (hg : g ∈ noteStates) (file : String) :
    w.Sees g file ↔ file = "/w/a.py" := by
  have hnul : ∀ g ∈ noteStates, '\x00' ∉ (g.absolute "/w").toList := by decide +kernel
  have hthere : ∀ g ∈ noteStates, g.modified? "/w/a.py" ≠ none := by decide +kernel
  obtain ⟨files, hc⟩ : ∃ files, candidates g w.root w.extensions w.excluded = .ok files :=
    exists_candidates (by rw [hroot]; exact hnul g hg)
  rw [Watcher.sees_iff (Watcher.snapshot_eq hc), Watcher.lookup_filterMap,
    ← mem_note_iff hg (by rw [← hroot, ← hext, ← hexcl]; exact hc)]
  constructor
  · intro hsome
    exact Classical.byContradiction fun hno => hsome (if_neg hno)
  · intro hfile
    obtain rfl := (mem_note_iff hg (by rw [← hroot, ← hext, ← hexcl]; exact hc) file).1 hfile
    rw [if_pos hfile]
    exact hthere g hg

theorem run_agrees_noteHost :
    noteHost.IsRooted ∧ ∃ st, run noteService noteHost "/w" (noteCycles ++ [⟨[], []⟩]) = .ok st ∧
      ∀ file, st.service.store.ofFile file = (Service.scanWorkspace
        ⟨noteService.settings, .empty⟩ st.host (some "/w")).service.store.ofFile file := by
  have hroot : noteHost.absoluteUser "/w" = "/w" := by decide +kernel
  have hchange : noteHost.modified? "/w/a.py" ≠ (noteHost.edited noteEdit).modified? "/w/a.py" := by
    decide +kernel
  have hplain : ∀ g ∈ noteStates,
      ((g.text? "/w/a.py").all fun text => !optsOut standardMarker.toList text) = true := by
    decide +kernel
  have hagree := run_agrees noteService noteHost "/w" noteCycles ⟨[], []⟩ (by decide) (by decide)
    (by decide +kernel) rfl rfl ?_ ?_ ?_
  · obtain ⟨st, hrun, -, hstore, -⟩ := hagree
    exact ⟨by decide, st, hrun, hstore⟩
  · rintro file ⟨g, hg, files, hc, hfile⟩
    rw [hroot] at hc
    obtain rfl := (mem_note_iff hg hc file).1 hfile
    rintro past g next later hstates - m hm e he
    cases past with
    | nil =>
      obtain ⟨rfl, rfl, rfl⟩ : noteHost = g ∧ noteHost.edited noteEdit = next ∧ [] = later := by
        simpa [noteCycles, Host.timeline, Host.history, Cycle.edits] using hstates
      obtain rfl : e = noteHost := by simpa using he
      exact fun hsame => hchange (hsame.trans hm.symm)
    | cons x rest =>
      have hlength := congrArg List.length hstates
      simp [noteCycles, Host.timeline, Host.history, Cycle.edits] at hlength
      omega
  · have hlooks : ∀ g ∈ noteHost :: noteHost.looks (noteCycles ++ [⟨[], []⟩]), g ∈ noteStates := by
      simp [noteCycles, noteStates, Host.looks, Cycle.edits]
    refine List.pairwise_of_forall_mem_list fun a ha b hb file hsees => ?_
    exact (sees_note_iff hroot rfl rfl (hlooks b hb) file).2
      ((sees_note_iff hroot rfl rfl (hlooks a ha) file).1 hsees)
  · intro g hg files hc path hp text ht
    rw [hroot] at hc
    obtain rfl := (mem_note_iff hg hc path).1 hp
    have hout := hplain g hg
    rw [ht] at hout
    rw [show noteService.settings.marker = .text standardMarker from rfl,
      WorkspaceScan.holdsMarker_text]
    simpa using hout

end Station
end ReminderScan
