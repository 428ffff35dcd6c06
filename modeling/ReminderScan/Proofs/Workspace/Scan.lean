import Mathlib.Data.List.Infix
import ReminderScan.Proofs.Document
import ReminderScan.Proofs.Workspace.Candidates
import ReminderScan.Service

/-! A search of a workspace: what is known, counted and told at the end is what the documents hold.
The invariant says this of the files looked into so far. -/

namespace ReminderScan

theorem holds_iff_isInfix (part text : List Char) : holds part text = true ↔ part <:+: text := by
  induction text with
  | nil => simp [holds]
  | cons c rest ih => simp [holds, ih, List.infix_cons_iff]

theorem optsOut_eq_decide (marker : String) (text : List Char) :
    optsOut marker.toList text = decide (marker ≠ "" ∧ marker.toList <:+: text) := by
  rw [Bool.eq_iff_iff]
  simp [optsOut, holds_iff_isInfix]

theorem WorkspaceScan.holdsMarker_text (marker : String) (text : List Char) :
    holdsMarker (.text marker) text = .ok (optsOut marker.toList text) := by
  by_cases h : marker = ""
  · subst h
    rfl
  · simp [holdsMarker, Json.Value.isTruthy, h]

namespace Host

def isReadable (h : Host) (path : String) : Bool := (h.text? path).isSome

/-- The document can be read and holds the marker, which is not empty. -/
def isOptedOut (h : Host) (marker path : String) : Bool :=
  (h.text? path).any fun text => decide (marker ≠ "" ∧ marker.toList <:+: text)

/-- The document can be read and is to be searched, if these documents opt out. -/
def isSearched (h : Host) (out : String → Bool) (path : String) : Bool :=
  h.isReadable path && !out path

/-- Of a document it is told rightly, and without a fault, whether it opts out. -/
structure Decides (h : Host) (marker : Json.Value) (out : String → Bool) (path : String) :
    Prop where
  holds : ∀ text, h.text? path = some text → WorkspaceScan.holdsMarker marker text = .ok (out path)
  readable : out path = true → h.isReadable path = true

/-- A marker that is a text is looked for without a fault. -/
theorem decides_isOptedOut (h : Host) {m : Json.Value} {marker : String} (hm : m = .text marker)
    (path : String) : h.Decides m (h.isOptedOut marker) path := by
  subst hm
  constructor
  · intro text ht
    rw [WorkspaceScan.holdsMarker_text, optsOut_eq_decide, isOptedOut, ht, Option.any_some]
  · intro ho
    cases ht : h.text? path with
    | none => simp [isOptedOut, ht] at ho
    | some text => simp [isReadable, ht]

end Host

namespace Event

theorem notices_append (a b : List Event) : notices (a ++ b) = notices a ++ notices b :=
  List.filterMap_append

end Event

namespace Document

/-- Without a request for a notice, reading a document only warns. -/
theorem isWarning_of_scan {rules : DocumentRules} {now : Calendar.Timestamp} {file : String}
    {lines : List (List Char)} {n : Notice}
    (h : n ∈ Event.notices (scan rules now file lines false).events) : n.isWarning = true := by
  obtain ⟨e, he, hn⟩ := List.mem_filterMap.1 h
  simp only [scan, Bool.and_false, Bool.false_eq_true, if_false, List.append_nil, List.mem_append,
    List.mem_flatMap, List.mem_singleton] at he
  rcases he with ⟨r, -, hr⟩ | rfl
  · unfold eventsOf at hr
    split at hr
    · rcases List.mem_cons.1 hr with rfl | hr
      · simp [record] at hn
      · split at hr
        · obtain rfl := List.mem_singleton.1 hr
          cases hn
          rfl
        · simp at hr
    · split at hr
      · obtain rfl := List.mem_singleton.1 hr
        cases hn
        rfl
      · simp at hr
  · simp [record] at hn

end Document

namespace Search

/-- What is known, counted and told is what some files, in their order, account for. -/
structure Covers (h : Host) (s : Settings) (out : String → Bool) (files : List String)
    (p : Search) : Prop where
  store : p.store.toList = (files.filter (h.isSearched out)).flatMap (h.remindersIn s.defaultTime)
  scanned : p.scan.scanned = files.countP (h.isSearched out)
  skipped : p.scan.skipped = files.countP out
  failed : p.scan.failed = files.countP fun path => !h.isReadable path
  found : p.scan.found = p.store.size
  failedPaths : p.scan.failedPaths = files.filter fun path => !h.isReadable path
  warns : ∀ n ∈ Event.notices p.events, n.isWarning = true

variable {h : Host} {s : Settings} {out : String → Bool} {files : List String} {p : Search}

theorem covers_fail (hp : Covers h s out files p) {path : String} (ht : h.text? path = none)
    (hout : out path = false) (fault : Fault) :
    Covers h s out (files ++ [path]) (p.fail path fault) := by
  have hread : h.isReadable path = false := by simp [Host.isReadable, ht]
  have hsearch : h.isSearched out path = false := by simp [Host.isSearched, hread]
  constructor
  · simp [fail, hp.store, hsearch]
  · simp [fail, hp.scanned, hsearch]
  · simp [fail, hp.skipped, hout]
  · simp [fail, hp.failed, hread]
  · simpa [fail] using hp.found
  · simp [fail, hp.failedPaths, hread]
  · simpa [fail, Event.notices, WorkspaceScan.record] using hp.warns

theorem covers_skip (hp : Covers h s out files p) {path : String} (hout : out path = true)
    (hread : h.isReadable path = true) : Covers h s out (files ++ [path]) (p.skip path) := by
  have hsearch : h.isSearched out path = false := by simp [Host.isSearched, hout]
  constructor
  · simp [skip, hp.store, hsearch]
  · simp [skip, hp.scanned, hsearch]
  · simp [skip, hp.skipped, hout]
  · simp [skip, hp.failed, hread]
  · simpa [skip] using hp.found
  · simp [skip, hp.failedPaths, hread]
  · simpa [skip, Event.notices, WorkspaceScan.record] using hp.warns

theorem covers_add (hp : Covers h s out files p) {path : String} {text : List Char}
    (ht : h.text? path = some text) (hout : out path = false) :
    Covers h s out (files ++ [path])
      (p.add (Document.scan (WorkspaceScan.rules s) h.now path (Text.lines text) false)) := by
  have hread : h.isReadable path = true := by simp [Host.isReadable, ht]
  have hsearch : h.isSearched out path = true := by simp [Host.isSearched, hread, hout]
  have hfound :
      (Document.scan (WorkspaceScan.rules s) h.now path (Text.lines text) false).reminders =
      h.remindersIn s.defaultTime path := by
    simp [Document.scan, Document.reminders_eq_annotations, Host.remindersIn, ht,
      WorkspaceScan.rules]
  constructor
  · simp [add, hp.store, hsearch, hfound]
  · simp [add, hp.scanned, hsearch]
  · simp [add, hp.skipped, hout]
  · simp [add, hp.failed, hread]
  · simp only [add, hp.found, Store.size, Store.toList_append, List.length_append]
    omega
  · simp [add, hp.failedPaths, hread]
  · intro n hn
    simp only [add, Event.notices_append, List.mem_append] at hn
    exact hn.elim (hp.warns n) Document.isWarning_of_scan

/-- One file more is looked into, whatever comes of it. -/
theorem covers_visit (hp : Covers h s out files p) {path : String}
    (hd : h.Decides s.marker out path) (hnul : '\x00' ∉ path.toList) :
    ∃ q, p.visit h s path = .ok q ∧ Covers h s out (files ++ [path]) q := by
  cases hread : h.readDocument path with
  | error f =>
    obtain ⟨reason, rfl⟩ := Host.readDocument_error hnul hread
    have ht : h.text? path = none := by simp [Host.text?, hread, Except.toOption]
    have hout : out path = false :=
      Bool.eq_false_iff.2 fun ho => by simpa [Host.isReadable, ht] using hd.readable ho
    exact ⟨p.fail path (.unreadable path reason), by simp only [visit, hread],
      covers_fail hp ht hout _⟩
  | ok text =>
    have ht : h.text? path = some text := Host.text?_eq_some_iff.2 hread
    have hholds := hd.holds text ht
    cases hout : out path with
    | true =>
      rw [hout] at hholds
      exact ⟨_, by simp only [visit, hread, hholds], covers_skip hp hout (hd.readable hout)⟩
    | false =>
      rw [hout] at hholds
      exact ⟨_, by simp only [visit, hread, hholds], covers_add hp ht hout⟩

theorem covers_visitAll (rest : List String) (hd : ∀ path ∈ rest, h.Decides s.marker out path)
    (hnul : ∀ path ∈ rest, '\x00' ∉ path.toList) (hp : Covers h s out files p) :
    ∃ q, visitAll h s p rest = (q, none) ∧ Covers h s out (files ++ rest) q := by
  induction rest generalizing files p with
  | nil => exact ⟨p, rfl, by simpa using hp⟩
  | cons path rest ih =>
    obtain ⟨q, hq, hcovers⟩ :=
      covers_visit hp (hd path List.mem_cons_self) (hnul path List.mem_cons_self)
    obtain ⟨r, hr, hall⟩ := ih (fun other ho => hd other (List.mem_cons_of_mem path ho))
      (fun other ho => hnul other (List.mem_cons_of_mem path ho)) hcovers
    refine ⟨r, by simp only [visitAll, hq, hr], ?_⟩
    simpa using hall

/-- Each file is read to the end, opted out or unreadable. -/
theorem counts_of_covers (hp : Covers h s out files p)
    (hd : ∀ path ∈ files, h.Decides s.marker out path) :
    p.scan.scanned + p.scan.skipped + p.scan.failed = files.length := by
  rw [hp.scanned, hp.skipped, hp.failed]
  clear hp
  induction files with
  | nil => rfl
  | cons path rest ih =>
    have hrest := ih fun other ho => hd other (List.mem_cons_of_mem path ho)
    have hout := (hd path List.mem_cons_self).readable
    simp only [List.countP_cons, List.length_cons, ← hrest, Host.isSearched]
    rcases Bool.eq_false_or_eq_true (out path) with ho | ho
    · simp only [ho, hout ho]
      simp
      omega
    · rcases Bool.eq_false_or_eq_true (h.isReadable path) with hr | hr <;> simp [ho, hr] <;> omega

end Search

/-- The reminder stands before another: in an earlier file, or further up in the same one. -/
def Reminder.Precedes (a b : Reminder) : Prop := a.file < b.file ∨ a.file = b.file ∧ a.line < b.line

/-- Reminders taken file by file from increasing paths stand in order. -/
theorem precedes_flatMap_remindersIn (h : Host) (defaultTime : String) {files : List String}
    (hfiles : files.Pairwise (· < ·)) :
    (files.flatMap (h.remindersIn defaultTime)).Pairwise Reminder.Precedes := by
  refine List.pairwise_flatMap.2 ⟨fun path _ => ?_, hfiles.imp fun hlt a ha b hb => ?_⟩
  · refine (h.remindersIn_increasing defaultTime path).imp_of_mem fun ha hb hlt => ?_
    rw [Reminder.Precedes, Host.file_of_mem_remindersIn ha, Host.file_of_mem_remindersIn hb]
    exact Or.inr ⟨rfl, hlt⟩
  · rw [Reminder.Precedes, Host.file_of_mem_remindersIn ha, Host.file_of_mem_remindersIn hb]
    exact Or.inl hlt

namespace Service

variable {s : Service} {h : Host} {root marker : String}

theorem covers_start (h : Host) (s : Settings) (out : String → Bool) (root : String) (n : Nat) :
    Search.Covers h s out [] ⟨.empty, { root },
      [WorkspaceScan.record .debug s!"Found {n} candidate files under {root}"]⟩ := by
  constructor <;> simp [Store.size, Event.notices, WorkspaceScan.record]

theorem scanRoot_eq (hne : root ≠ "") (hd : h.isDirectory (h.absoluteUser root) = true)
    {files : List String}
    (hc : candidates h (h.absoluteUser root) s.settings.extensions s.settings.excluded = .ok files)
    {search : Search} {fault : Option Fault}
    (hall : Search.visitAll h s.settings ⟨.empty, { root := h.absoluteUser root },
      [WorkspaceScan.record .debug
        s!"Found {files.length} candidate files under {h.absoluteUser root}"]⟩ files =
          (search, fault)) :
    s.scanRoot h (some root) =
      ⟨fault.elim (.ok (some search.scan)) .error, s.withStore search.store,
      search.events ++ fault.elim [.info "Workspace scan complete."] fun _ => []⟩ := by
  unfold scanRoot
  split
  · next hnone => cases hnone
  · next hempty => exact absurd (Option.some.inj hempty) hne
  · next r _ hroot =>
    obtain rfl := Option.some.inj hroot
    simp only [hd, Bool.not_true, Bool.false_eq_true, if_false, hc, hall]
    cases fault with
    | none => rfl
    | some f => simp only [Option.elim_some, List.append_nil]

/-- A search of a directory runs to its end, and covers all its files. -/
theorem scanRoot_covers (hr : h.IsRooted) (hne : root ≠ "")
    (hd : h.isDirectory (h.absoluteUser root) = true) {files : List String}
    (hc : candidates h (h.absoluteUser root) s.settings.extensions s.settings.excluded = .ok files)
    {out : String → Bool} (hout : ∀ path ∈ files, h.Decides s.settings.marker out path) :
    ∃ search, Search.Covers h s.settings out files search ∧
      s.scanRoot h (some root) = ⟨.ok (some search.scan), s.withStore search.store,
        search.events ++ [.info "Workspace scan complete."]⟩ := by
  have hnul := nul_not_mem_absoluteUser hr hd
  obtain ⟨search, hall, hcovers⟩ := Search.covers_visitAll files hout
    (fun path hp => nul_not_mem_candidate hnul hc hp)
    (covers_start h s.settings out (h.absoluteUser root) files.length)
  exact ⟨search, hcovers, scanRoot_eq hne hd hc hall⟩

/-- What a search leaves in the store, counts and tells, where these are the files to look into. -/
structure ExactScan (s : Service) (h : Host) (marker : String) (files : List String)
    (scan : WorkspaceScan) (out : Outcome (Option WorkspaceScan)) : Prop where
  answer : out.answer = .ok (some scan)
  /-- One reminder for each line with a tag in the readable documents without the marker. -/
  store : out.service.store.toList =
    (files.filter (h.isSearched (h.isOptedOut marker))).flatMap
      (h.remindersIn s.settings.defaultTime)
  ordered : out.service.store.toList.Pairwise Reminder.Precedes
  counted : scan.scanned + scan.skipped + scan.failed = files.length
  found : scan.found = out.service.store.size
  failedPaths : scan.failedPaths = files.filter fun path => !h.isReadable path
  failedPaths_increasing : scan.failedPaths.Pairwise (· < ·)
  failed : scan.failedPaths.length = scan.failed
  /-- All warnings come before the only notice that informs. -/
  notices : ∃ warnings, (∀ n ∈ warnings, n.isWarning = true) ∧
    Event.notices out.events = warnings ++ [.info "Workspace scan complete."]

/-- A search of a directory puts in place of all earlier reminders those of the documents to be
searched, in the order of paths and lines, and accounts for every file once. -/
theorem scanRoot_exact (s : Service) (h : Host) (root marker : String) (hr : h.IsRooted)
    (hm : s.settings.marker = .text marker) (hne : root ≠ "")
    (hd : h.isDirectory (h.absoluteUser root) = true) :
    ∃ files scan,
      candidates h (h.absoluteUser root) s.settings.extensions s.settings.excluded = .ok files ∧
      files.Pairwise (· < ·) ∧
      ExactScan s h marker files scan (s.scanRoot h (some root)) := by
  have hout := h.decides_isOptedOut hm
  obtain ⟨files, hc⟩ :
      ∃ files, candidates h (h.absoluteUser root) s.settings.extensions
        s.settings.excluded = .ok files :=
    exists_candidates (nul_not_mem_absoluteUser hr hd)
  obtain ⟨search, hcovers, hscan⟩ := scanRoot_covers hr hne hd hc fun path _ => hout path
  have hsorted := candidates_increasing hc
  refine ⟨files, search.scan, hc, hsorted, ?_⟩
  rw [hscan]
  have hstore : (s.withStore search.store).store.toList = _ := hcovers.store
  refine ⟨rfl, hstore, ?_, Search.counts_of_covers hcovers fun path _ => hout path, hcovers.found,
    hcovers.failedPaths, ?_, ?_, ?_⟩
  · rw [hstore]
    exact precedes_flatMap_remindersIn h _ (hsorted.filter _)
  · rw [hcovers.failedPaths]
    exact hsorted.filter _
  · rw [hcovers.failedPaths, hcovers.failed, List.countP_eq_length_filter]
  · refine ⟨Event.notices search.events, hcovers.warns, ?_⟩
    rw [Event.notices_append]
    rfl

/-- The name of a directory, and of documents in it. -/
def folderName : Name := ⟨"w", by decide⟩

def noteName : Name := ⟨"a.py", by decide⟩

def markedName : Name := ⟨"b.py", by decide⟩

def brokenName : Name := ⟨"c.py", by decide⟩

/-- A directory with a reminder, a document that opts out and one that is not UTF-8. -/
def mixedTree : FileTree where
  nodes := [([folderName], .directory),
    ([folderName, noteName],
      .file (Text.Utf8.encode "x\n// @reminder 2024-01-02: pay".toList) (.zero false)),
    ([folderName, markedName], .file (Text.Utf8.encode standardMarker.toList) (.zero false)),
    ([folderName, brokenName], .file [0xFF] (.zero false))]
  distinct := by decide

def mixedHost : Host where
  tree := mixedTree
  directory := "/"
  environment := []
  ownHome := "/"
  homes := []
  platform := "linux"
  now := ⟨⟨2024, 1, 1, by decide⟩, 0, 0, 0, 0, by decide⟩
  stamp := 0

theorem scanRoot_mixedHost :
    mixedHost.IsRooted ∧ mixedHost.isDirectory (mixedHost.absoluteUser "/w") = true ∧
    ∃ files scan, candidates mixedHost (mixedHost.absoluteUser "/w") standardExtensions
        standardExcluded = .ok files ∧
      files.Pairwise (· < ·) ∧
      ExactScan ⟨{}, .empty⟩ mixedHost standardMarker files scan
        (scanRoot ⟨{}, .empty⟩ mixedHost (some "/w")) :=
  ⟨by decide, by decide +kernel,
    scanRoot_exact ⟨{}, .empty⟩ mixedHost "/w" standardMarker (by decide) rfl (by decide)
      (by decide +kernel)⟩

end Service
end ReminderScan
