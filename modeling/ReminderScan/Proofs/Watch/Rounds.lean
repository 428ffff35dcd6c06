import ReminderScan.Proofs.Watch.Reports
import ReminderScan.Proofs.Watch.StartUp

/-! A watch of a given number of cycles, told in full. What one cycle does is a round; the rounds of
a run follow one another, each on what the one before it left. -/

namespace ReminderScan

namespace Watcher

variable {w : Watcher} {h : Host} {now : Snapshot}

theorem absolute_of_mem_triggers (hr : h.IsRooted) (hnul : '\x00' ∉ (h.absolute w.root).toList)
    (hs : w.snapshot h = .ok now) (before : Snapshot) :
    ∀ call ∈ (changes before now).triggers, h.absolute call.2 = call.2 ∧
      '\x00' ∉ call.2.toList := by
  obtain ⟨files, hc⟩ := candidates_of_snapshot hs
  have hexact := isExact_changes hs before
  have hpath : ∀ path, now.lookup path ≠ none →
      h.absolute path = path ∧ '\x00' ∉ path.toList := by
    intro path hp
    have hfile := (listed_of_lookup hc hs hp).1
    exact ⟨absolute_of_mem_candidates hr hc hfile h, nul_not_mem_candidate hnul hc hfile⟩
  intro call hcall
  rcases List.mem_append.1 hcall with hcall | hcall
  · obtain ⟨path, hp, rfl⟩ := List.mem_map.1 hcall
    exact hpath path ((hexact.mem_opened path).1 hp).2
  · obtain ⟨path, hp, rfl⟩ := List.mem_map.1 hcall
    obtain ⟨old, m, -, hm, -⟩ := (hexact.mem_saved path).1 hp
    exact hpath path (hm ▸ Option.some_ne_none m)

end Watcher

namespace Watch

/-- What one cycle does after its rest. -/
structure Round where
  host : Host
  seen : Snapshot
  found : Changes
  outcomes : List (Outcome Bool)
  service : Service

namespace Round

variable {listed : Host → Except Fault (List String)} {before : Snapshot} {s : Service} {r : Round}

/-- What a round tells after the rest. -/
def events (r : Round) : List Event :=
  if r.found.isEmpty then []
  else
    record .debug
        s!"Detected {r.found.opened.length} new and {r.found.saved.length} modified files" ::
      r.outcomes.flatMap Outcome.events ++ [.refresh r.service.store r.host.now.date]

/-- A round that goes on from what was seen and what was known: it finds what differs from what was
seen, and serves each path of that once, the new ones first. -/
structure Follows (r : Round) (listed : Host → Except Fault (List String)) (before : Snapshot)
    (s : Service) : Prop where
  seen : Watcher.IsSeen listed r.host r.seen
  found : r.found.IsExact before r.seen
  outcomes : r.outcomes = s.trail r.host r.found.triggers
  answers : r.outcomes.map Outcome.answer =
    r.found.triggers.map fun call => .ok (s.finds r.host call.2)
  service : r.service = (r.found.opened ++ r.found.saved).foldl (·.reread r.host ·) s
  known : ∀ path ∈ r.found.opened ++ r.found.saved,
    ∀ x ∈ r.host.remindersIn s.settings.defaultTime path, x ∈ r.service.store.toList

/-- Of what a round tells only the list of the day at its end is no report. -/
theorem filterMap_events {α : Type} {pick : Event → Option α}
    (hpick : ∀ e, e.isReport = true → pick e = none) (hr : r.Follows listed before s) :
    r.events.filterMap pick = if r.found.isEmpty then []
      else (pick (.refresh r.service.store r.host.now.date)).toList := by
  have hreport := Service.isReport_trail s r.host r.found.triggers
  rw [← hr.outcomes] at hreport
  unfold events
  split
  · rfl
  · rw [List.cons_append, List.filterMap_cons, hpick _ rfl, List.filterMap_append,
      Event.filterMap_of_isReport hpick hreport, List.nil_append, List.filterMap_cons]
    cases pick (.refresh r.service.store r.host.now.date) <;> rfl

/-- Each round goes on from what the one before it saw and left. -/
def Succeed (listed : Host → Except Fault (List String)) : Snapshot → Service → List Round → Prop
  | _, _, [] => True
  | before, s, r :: rest => r.Follows listed before s ∧ Succeed listed r.seen r.service rest

variable {rounds : List Round} (interval : Number.Binary64)

theorem rests_of_succeed (hrounds : Succeed listed before s rounds) :
    Event.rests (rounds.flatMap fun r => .rest interval :: r.events) =
      List.replicate rounds.length interval := by
  induction rounds generalizing before s with
  | nil => rfl
  | cons r rest ih =>
    obtain ⟨hr, hrest⟩ := hrounds
    have hnone : Event.rests r.events = [] :=
      (filterMap_events (fun e he => (e.not_picked_of_isReport he).1) hr).trans (by split <;> rfl)
    rw [List.flatMap_cons, Event.rests_append, ih hrest, List.length_cons, List.replicate_succ]
    change interval :: (Event.rests r.events ++ _) = _
    rw [hnone, List.nil_append]

theorem refreshes_of_succeed (hrounds : Succeed listed before s rounds) :
    Event.refreshes (rounds.flatMap fun r => .rest interval :: r.events) =
      (rounds.filter fun r => !r.found.isEmpty).map fun r =>
        (r.service.store, r.host.now.date) := by
  induction rounds generalizing before s with
  | nil => rfl
  | cons r rest ih =>
    obtain ⟨hr, hrest⟩ := hrounds
    have hlast : Event.refreshes r.events = if r.found.isEmpty then []
        else [(r.service.store, r.host.now.date)] :=
      filterMap_events (fun e he => (e.not_picked_of_isReport he).2) hr
    rw [List.flatMap_cons, Event.refreshes_append, ih hrest]
    change Event.refreshes r.events ++ _ = _
    rw [hlast]
    cases hempty : r.found.isEmpty <;> simp [hempty]

end Round

/-- The machine after each of some rests. -/
def machines : Host → List Pause → List Host
  | _, [] => []
  | h, pause :: rest => (pause h).1 :: machines (pause h).1 rest

theorem length_machines (h : Host) (pauses : List Pause) :
    (machines h pauses).length = pauses.length := by
  induction pauses generalizing h with
  | nil => rfl
  | cons pause rest ih => exact congrArg Nat.succ (ih _)

/-- No rest ends in a fault, and none moves the program. -/
def Undisturbed : Host → List Pause → Prop
  | _, [] => True
  | h, pause :: rest =>
    (pause h).2 = none ∧ (pause h).1.directory = h.directory ∧ Undisturbed (pause h).1 rest

variable {w : Watch} {h : Host} {interval : Number.Binary64} {pauses : List Pause}

/-- One cycle is a round. -/
theorem exists_round (w : Watch) (hr : h.IsRooted)
    (hnul : '\x00' ∉ (h.absolute w.watcher.root).toList) :
    ∃ r : Round, r.host = h ∧ r.Follows w.watcher.listed w.watcher.seen w.service ∧
      w.cycle h = ⟨none, ⟨{ w.watcher with seen := r.seen }, r.service,
        w.dispatched + r.outcomes.length⟩, r.events⟩ := by
  obtain ⟨now, hs⟩ := Watcher.exists_snapshot hnul
  have hexact := Watcher.isExact_changes hs w.watcher.seen
  have hcalls := Watcher.absolute_of_mem_triggers hr hnul hs w.watcher.seen
  have hpoll : w.watcher.poll h =
      .ok (Watcher.changes w.watcher.seen now, { w.watcher with seen := now }) := by
    rw [Watcher.poll, hs]
    rfl
  generalize Watcher.changes w.watcher.seen now = c at hexact hcalls hpoll
  have hdispatch := w.service.dispatch_eq hr hcalls
  have hanswers : (w.service.trail h c.triggers).map Outcome.answer =
      c.triggers.map fun call => .ok (w.service.finds h call.2) := by
    rw [w.service.answers_trail hr fun call hcall => (hcalls call hcall).1.symm ▸
      (hcalls call hcall).2]
    apply List.map_congr_left
    intro call hcall
    rw [(hcalls call hcall).1]
  refine ⟨⟨h, now, c, w.service.trail h c.triggers,
    (c.opened ++ c.saved).foldl (·.reread h ·) w.service⟩, rfl,
    ⟨Watcher.isSeen_of_snapshot hs, hexact, rfl, hanswers, rfl, ?_⟩, ?_⟩
  · intro path hpath x hx
    obtain rfl := Host.file_of_mem_remindersIn hx
    exact Service.mem_foldl_reread hx (Or.inr hpath)
  rw [cycle, hpoll]
  by_cases hempty : c.isEmpty = true
  · obtain ⟨opened, saved⟩ := c
    obtain ⟨rfl, rfl⟩ : opened = [] ∧ saved = [] := by simpa [Changes.isEmpty] using hempty
    rfl
  · simp only [hempty, Bool.false_eq_true, if_false, hdispatch, Round.events]

/-- A row of cycles is a row of rounds. -/
theorem exists_rounds (interval : Number.Binary64) (w : Watch) (hr : h.IsRooted)
    (hnul : '\x00' ∉ (h.absolute w.watcher.root).toList) (hpauses : Undisturbed h pauses) :
    ∃ rounds : List Round, rounds.map Round.host = machines h pauses ∧
      Round.Succeed w.watcher.listed w.watcher.seen w.service rounds ∧
      (loop interval pauses (some pauses.length) h w).fault = none ∧
      (loop interval pauses (some pauses.length) h w).events =
        rounds.flatMap (fun r => .rest interval :: r.events) ∧
      (loop interval pauses (some pauses.length) h w).watch.dispatched =
        w.dispatched + (rounds.flatMap Round.outcomes).length := by
  induction pauses generalizing h w with
  | nil => exact ⟨[], rfl, trivial, rfl, rfl, rfl⟩
  | cons pause rest ih =>
    obtain ⟨hpause, hplace, hrest⟩ := hpauses
    rcases hafter : pause h with ⟨g, fault⟩
    rw [hafter] at hpause hplace hrest
    obtain rfl : fault = none := hpause
    have hrooted : g.IsRooted := by rwa [Host.IsRooted, hplace]
    have hnul' : '\x00' ∉ (g.absolute w.watcher.root).toList := by rwa [Host.absolute, hplace]
    obtain ⟨r, rfl, hfollows, hcycle⟩ := exists_round w hrooted hnul'
    obtain ⟨rounds, hhosts, hsucceed, hfault, hevents, hdispatched⟩ :=
      ih ⟨{ w.watcher with seen := r.seen }, r.service, w.dispatched + r.outcomes.length⟩ hrooted
        hnul' hrest
    refine ⟨r :: rounds, ?_, ⟨hfollows, hsucceed⟩, ?_⟩
    · rw [List.map_cons, hhosts, machines, hafter]
    · rw [List.length_cons, loop.eq_def]
      simp only [hafter, hcycle, Option.map_some, Nat.add_sub_cancel, hfault, hevents, hdispatched,
        List.flatMap_cons, List.length_append, Nat.add_assoc, List.cons_append, and_self]

theorem start_eq (w : Watch) (hr : h.IsRooted) {marker : String}
    (hm : w.service.settings.marker = .text marker)
    (hnul : '\x00' ∉ (h.absolute w.watcher.root).toList) :
    let search := w.service.scanWorkspace h (some w.watcher.root)
    ∃ seen, Watcher.IsSeen w.watcher.listed h seen ∧ w.start h =
      ⟨none, ⟨{ w.watcher with seen }, search.service, w.dispatched⟩,
        search.events ++ [.refresh search.service.store h.now.date]⟩ := by
  obtain ⟨seen, hs⟩ := Watcher.exists_snapshot hnul
  obtain ⟨scan, hanswer⟩ :
      ∃ scan, (w.service.scanWorkspace h (some w.watcher.root)).answer = .ok scan :=
    Service.exists_answer_scanRoot w.service hr hm (some w.watcher.root)
  have hprime : w.watcher.prime h = .ok { w.watcher with seen } := by
    rw [Watcher.prime, hs]
    rfl
  refine ⟨seen, Watcher.isSeen_of_snapshot hs, ?_⟩
  rw [start]
  simp only [hanswer, hprime]

/-- A watch of a number of cycles, after this search of its directory and with these rounds. -/
structure ExactRun (interval : Number.Binary64) (pauses : List Pause) (h : Host) (watcher : Watcher)
    (search : Outcome (Option WorkspaceScan)) (rounds : List Round) (out : Run) : Prop where
  completed : out.fault = none
  /-- There is a round for each rest, at the machine as the rest leaves it. -/
  hosts : rounds.map Round.host = machines h pauses
  /-- The first round goes on from the files at the start and from what the search left. -/
  succeed : ∃ seen, Watcher.IsSeen watcher.listed h seen ∧
    Round.Succeed watcher.listed seen search.service rounds
  events : out.events = search.events ++ [.refresh search.service.store h.now.date] ++
    rounds.flatMap fun r => .rest interval :: r.events
  rests : Event.rests out.events = List.replicate pauses.length interval
  /-- The list of the day is shown after the search and after each round that found something. -/
  refreshes : Event.refreshes out.events = (search.service.store, h.now.date) ::
    (rounds.filter fun r => !r.found.isEmpty).map fun r => (r.service.store, r.host.now.date)
  dispatched : out.watch.dispatched = (rounds.flatMap Round.outcomes).length

/-- A watch of some cycles searches and shows the list of the day, and then does one round after
each rest: it serves each path that a look finds once, the new ones first, also if one cannot be
read, and shows the list of the day anew if there was any. -/
theorem run_exact (interval : Number.Binary64) (pauses : List Pause) (h : Host) (watcher : Watcher)
    (service : Service) (marker : String) (hr : h.IsRooted)
    (hm : service.settings.marker = .text marker)
    (hnul : '\x00' ∉ (h.absolute watcher.root).toList) (hpauses : Undisturbed h pauses) :
    ∃ rounds, ExactRun interval pauses h watcher
      (service.scanWorkspace h (some watcher.root)) rounds
      (run interval pauses (some pauses.length) h ⟨watcher, service, 0⟩) := by
  obtain ⟨seen, hseen, hstart⟩ := start_eq ⟨watcher, service, 0⟩ hr hm hnul
  have hreport : (service.scanWorkspace h (some watcher.root)).events.all Event.isReport = true :=
    Service.isReport_scanRoot service h (some watcher.root)
  rw [run, hstart]
  generalize service.scanWorkspace h (some watcher.root) = search at hreport ⊢
  obtain ⟨rounds, hhosts, hsucceed, hfault, hevents, hdispatched⟩ :=
    exists_rounds interval ⟨{ watcher with seen }, search.service, 0⟩ hr hnul hpauses
  have hcount : rounds.length = pauses.length := by
    rw [← List.length_map Round.host, hhosts, length_machines]
  refine ⟨rounds, hfault, hhosts, ⟨seen, hseen, hsucceed⟩, ?_, ?_, ?_, ?_⟩
  · dsimp only
    rw [hevents]
  · dsimp only
    rw [hevents, Event.rests_append, Event.rests_append, Event.rests_of_isReport hreport,
      Round.rests_of_succeed interval hsucceed, hcount]
    rfl
  · dsimp only
    rw [hevents, Event.refreshes_append, Event.refreshes_append,
      Event.refreshes_of_isReport hreport, Round.refreshes_of_succeed interval hsucceed]
    rfl
  · rw [← Nat.zero_add (rounds.flatMap Round.outcomes).length]
    exact hdispatched

/-- During the first rest the note is rewritten, during the second nothing happens. -/
def notePauses : List Pause :=
  [fun h => (h.edited Station.noteEdit, none), fun h => (h, none)]

theorem run_exact_notePauses : Station.noteHost.IsRooted ∧
    noteWatch.service.settings.marker = .text standardMarker ∧
    '\x00' ∉ (Station.noteHost.absolute noteWatch.watcher.root).toList ∧
    Undisturbed Station.noteHost notePauses ∧
    ∃ rounds, ExactRun (.ofRatio false 1 2) notePauses Station.noteHost noteWatch.watcher
        (noteWatch.service.scanWorkspace Station.noteHost (some noteWatch.watcher.root)) rounds
        (run (.ofRatio false 1 2) notePauses (some 2) Station.noteHost noteWatch) ∧
      (rounds.flatMap Round.outcomes).length = 1 := by
  have hr : Station.noteHost.IsRooted := by decide
  have hnul : '\x00' ∉ (Station.noteHost.absolute noteWatch.watcher.root).toList := by
    decide +kernel
  have hpauses : Undisturbed Station.noteHost notePauses := ⟨rfl, rfl, rfl, rfl, trivial⟩
  have hcount :
      (run (.ofRatio false 1 2) notePauses (some 2) Station.noteHost noteWatch).watch.dispatched
      = 1 := by
    decide +kernel
  obtain ⟨rounds, hrun⟩ :=
    run_exact (.ofRatio false 1 2) notePauses Station.noteHost noteWatch.watcher
    noteWatch.service standardMarker hr rfl hnul hpauses
  exact ⟨hr, rfl, hnul, hpauses, rounds, hrun, hrun.dispatched.symm.trans hcount⟩

/-- A watch of a directory whose path holds a NUL ends before the first rest and the first list. -/
theorem run_of_nul (w : Watch) (hr : h.IsRooted) {marker : String}
    (hm : w.service.settings.marker = .text marker)
    (hnul : '\x00' ∈ (h.absolute w.watcher.root).toList) (cycles : Option Nat) :
    (run interval pauses cycles h w).fault = some .nullByte ∧
    Event.rests (run interval pauses cycles h w).events = [] ∧
    Event.refreshes (run interval pauses cycles h w).events = [] := by
  have hreport :
      (w.service.scanWorkspace h (some w.watcher.root)).events.all Event.isReport = true :=
    Service.isReport_scanRoot w.service h (some w.watcher.root)
  obtain ⟨scan, hanswer⟩ :
      ∃ scan, (w.service.scanWorkspace h (some w.watcher.root)).answer = .ok scan :=
    Service.exists_answer_scanRoot w.service hr hm (some w.watcher.root)
  have hprime : w.watcher.prime h = .error .nullByte := by
    rw [Watcher.prime, Watcher.snapshot_of_nul hnul]
    rfl
  rw [run, start]
  generalize w.service.scanWorkspace h (some w.watcher.root) = search at hreport hanswer ⊢
  simp only [hanswer, hprime, true_and]
  exact ⟨Event.rests_of_isReport hreport, Event.refreshes_of_isReport hreport⟩

/-- A path of a NUL alone, and a watch of what it names. -/
def nulWatch : Watch where
  watcher := .new Station.noteHost "\x00" standardExtensions standardExcluded
  service := ⟨{}, .empty⟩

theorem run_nulWatch : Station.noteHost.IsRooted ∧
    nulWatch.service.settings.marker = .text standardMarker ∧
    Undisturbed Station.noteHost [fun h => (h, none)] ∧
    (run (.ofRatio false 1 2) [fun h => (h, none)] (some 1) Station.noteHost nulWatch).fault =
      some .nullByte ∧
    Event.rests (run (.ofRatio false 1 2) [fun h => (h, none)] (some 1) Station.noteHost
      nulWatch).events = [] ∧
    Event.refreshes (run (.ofRatio false 1 2) [fun h => (h, none)] (some 1) Station.noteHost
      nulWatch).events = [] := by
  have hr : Station.noteHost.IsRooted := by decide
  exact ⟨hr, rfl, ⟨rfl, rfl, trivial⟩,
    run_of_nul nulWatch hr rfl (by decide +kernel) (some 1)⟩

end Watch
end ReminderScan
