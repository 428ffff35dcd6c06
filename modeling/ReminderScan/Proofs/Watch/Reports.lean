import Mathlib.Data.List.Nodup
import ReminderScan.Proofs.Watch.Edits

/-! What a watcher tells over a whole run, with edits, records and looks in any order. Each look is
compared with the one before it, so what it tells is what differs between the two, and what follows
for a path over the run depends on the row of looks alone. -/

namespace ReminderScan

/-- What a look tells is what differs from what was seen before, each path once and in order. -/
structure Changes.IsExact (before now : Snapshot) (c : Changes) : Prop where
  opened_increasing : c.opened.Pairwise (· < ·)
  saved_increasing : c.saved.Pairwise (· < ·)
  disjoint : ∀ path ∈ c.opened, path ∉ c.saved
  mem_opened : ∀ path, path ∈ c.opened ↔ before.lookup path = none ∧ now.lookup path ≠ none
  mem_saved : ∀ path, path ∈ c.saved ↔
    ∃ old m, before.lookup path = some old ∧ now.lookup path = some m ∧ m ≠ old
  count : ∀ path, (c.opened ++ c.saved).count path =
    if now.lookup path ≠ none ∧ now.lookup path ≠ before.lookup path then 1 else 0

/-- Where nothing differs, nothing is told. -/
theorem Changes.IsExact.eq_none {seen : Snapshot} {c : Changes} (hc : c.IsExact seen seen) :
    c = ⟨[], []⟩ := by
  have hopened : c.opened = [] := List.eq_nil_iff_forall_not_mem.2 fun path hp =>
    ((hc.mem_opened path).1 hp).2 ((hc.mem_opened path).1 hp).1
  have hsaved : c.saved = [] := by
    refine List.eq_nil_iff_forall_not_mem.2 fun path hp => ?_
    obtain ⟨old, m, hold, hm, hne⟩ := (hc.mem_saved path).1 hp
    exact hne (Option.some.inj (hm.symm.trans hold))
  obtain ⟨opened, saved⟩ := c
  obtain rfl : opened = [] := hopened
  obtain rfl : saved = [] := hsaved
  rfl

namespace Watcher

variable {w : Watcher} {h g : Host} {files : List String} {before now : Snapshot} {path : String}

/-- A look sees each path once, in the order of paths. -/
theorem snapshot_increasing (hs : w.snapshot h = .ok now) : (now.map (·.1)).Pairwise (· < ·) := by
  obtain ⟨files, hc⟩ := candidates_of_snapshot hs
  obtain rfl := Except.ok.inj ((snapshot_eq hc).symm.trans hs)
  have hpaths : ∀ path m, (h.modified? path).map (path, ·) = some m → m.1 = path := by
    intro path m hm
    obtain ⟨_, -, rfl⟩ := Option.map_eq_some_iff.1 hm
    rfl
  refine List.pairwise_map.2 ((candidates_increasing hc).filterMap _ ?_)
  intro a b hab m hm n hn
  rwa [hpaths a m hm, hpaths b n hn]

theorem isExact_changes (hs : w.snapshot h = .ok now) (before : Snapshot) :
    (changes before now).IsExact before now := by
  obtain ⟨files, hc⟩ := candidates_of_snapshot hs
  have hnow : ∀ path, (∃ m, (path, m) ∈ now) ↔ now.lookup path ≠ none := by
    intro path
    rw [Option.ne_none_iff_exists']
    exact exists_congr fun m => mem_snapshot hc hs
  have hordered := List.pairwise_map.1 (snapshot_increasing hs)
  have hopened : (changes before now).opened.Pairwise (· < ·) :=
    List.pairwise_map.2 (hordered.filter _)
  have hsaved : (changes before now).saved.Pairwise (· < ·) :=
    List.pairwise_map.2 (hordered.filter _)
  have hdisjoint : ∀ path ∈ (changes before now).opened, path ∉ (changes before now).saved := by
    intro path ho hsave
    obtain ⟨old, -, hold, -⟩ := mem_saved.1 hsave
    rw [(mem_opened.1 ho).1] at hold
    cases hold
  have hdistinct : ((changes before now).opened ++ (changes before now).saved).Nodup :=
    List.Nodup.append (hopened.imp String.ne_of_lt) (hsaved.imp String.ne_of_lt)
      fun path => hdisjoint path
  refine ⟨hopened, hsaved, hdisjoint, ?_, ?_, ?_⟩
  · intro path
    rw [mem_opened, hnow]
  · intro path
    simp only [mem_saved, mem_snapshot hc hs]
  · intro path
    rw [hdistinct.count]
    simp only [mem_changes fun m => mem_snapshot hc hs]

/-- The files that a look at a machine goes through. -/
def listed (w : Watcher) (h : Host) : Except Fault (List String) :=
  candidates h w.root w.extensions w.excluded

/-- A look saw the time of change of every file it went through that has one, and nothing else. -/
def IsSeen (listed : Host → Except Fault (List String)) (h : Host) (seen : Snapshot) : Prop :=
  ∃ files, listed h = .ok files ∧
    ∀ path, seen.lookup path = if path ∈ files then h.modified? path else none

theorem isSeen_of_snapshot (hs : w.snapshot h = .ok now) : IsSeen w.listed h now := by
  obtain ⟨files, hc⟩ := candidates_of_snapshot hs
  exact ⟨files, hc, lookup_snapshot hc hs⟩

theorem exists_snapshot (hnul : '\x00' ∉ (h.absolute w.root).toList) :
    ∃ now, w.snapshot h = .ok now := by
  obtain ⟨files, hc⟩ : ∃ files, w.listed h = .ok files := exists_candidates hnul
  exact ⟨_, snapshot_eq hc⟩

/-- A directory whose path holds a NUL cannot be looked at. -/
theorem snapshot_of_nul (hnul : '\x00' ∈ (h.absolute w.root).toList) :
    w.snapshot h = .error .nullByte := by
  simp [snapshot, candidates, Host.searchRoot?, Host.locate, hnul, bind, Except.bind]

/-- What a look sees depends on the files and on where the program stands. -/
theorem snapshot_congr (htree : g.tree = h.tree) (hdirectory : g.directory = h.directory) :
    w.snapshot g = w.snapshot h := by
  have hlocate : g.locate = h.locate := by
    funext follow path
    rw [Host.locate, Host.locate, htree, hdirectory]
  have hopen : g.openFile = h.openFile := by
    funext path
    rw [Host.openFile, Host.openFile, hlocate]
  have hcounts : g.countsAsDirectory = h.countsAsDirectory := by
    funext path node
    cases node <;> simp only [Host.countsAsDirectory, Host.isDirectory, hlocate]
  have hcandidate : isCandidate g = isCandidate h := by
    funext extensions top entry
    rw [isCandidate, isCandidate, hcounts]
  have hcandidates : candidates g w.root w.extensions w.excluded =
      candidates h w.root w.extensions w.excluded := by
    simp only [candidates_eq, eligible, hcandidate, Host.searchRoot?, Host.absolute, hlocate, htree,
      hdirectory]
  rw [snapshot, snapshot, hcandidates, hopen]

/-- A look of a run: the machine at that time, what was seen, and what was told unless the look was
only for the record. -/
structure Look where
  host : Host
  seen : Snapshot
  told : Option Changes

namespace Look

def opened (l : Look) : List String := l.told.elim [] Changes.opened

def saved (l : Look) : List String := l.told.elim [] Changes.saved

end Look

/-- Looks at the files, for the record alone or to tell what differs, and says what was seen. -/
def look (w : Watcher) (h : Host) (tells : Bool) : Except Fault (Look × Watcher) :=
  if tells then do
    let (told, next) ← w.poll h
    .ok (⟨h, next.seen, some told⟩, next)
  else do
    let next ← w.prime h
    .ok (⟨h, next.seen, none⟩, next)

/-- Looks one after another, each at the machine as it is then. A fault ends the row. -/
def looks (w : Watcher) : List (Host × Bool) → Except Fault (List Look)
  | [] => .ok []
  | (h, tells) :: rest => do
    let (first, next) ← w.look h tells
    let later ← next.looks rest
    .ok (first :: later)

/-- What happens to a watcher, and to the files beside it. -/
inductive Move where
  | edit (e : Edit)
  | prime
  | poll

/-- The machine at each look of a run, and whether the look is to tell something. -/
def calls : Host → List Move → List (Host × Bool)
  | _, [] => []
  | h, .edit e :: rest => calls (h.edited e) rest
  | h, .prime :: rest => (h, false) :: calls h rest
  | h, .poll :: rest => (h, true) :: calls h rest

variable {moments : List (Host × Bool)} {row past later : List Look} {l : Look} {next : Watcher}
variable {tells : Bool}

theorem look_eq_ok : w.look h tells = .ok (l, next) ↔ ∃ now, w.snapshot h = .ok now ∧
    l = ⟨h, now, if tells then some (changes w.seen now) else none⟩ ∧
      next = { w with seen := now } := by
  cases hs : w.snapshot h with
  | error f => cases tells <;> simp [look, poll, prime, hs, bind, Except.bind]
  | ok now =>
    cases tells <;> simp [look, poll, prime, hs, bind, Except.bind, eq_comm]

theorem looks_cons : w.looks ((h, tells) :: moments) = .ok row ↔
    ∃ now later, w.snapshot h = .ok now ∧
    { w with seen := now }.looks moments = .ok later ∧
    row = ⟨h, now, if tells then some (changes w.seen now) else none⟩ :: later := by
  rw [looks, bind_eq_ok]
  constructor
  · rintro ⟨⟨l, next⟩, hlook, hrest⟩
    obtain ⟨now, hs, rfl, rfl⟩ := look_eq_ok.1 hlook
    obtain ⟨later, hlater, hrow⟩ := bind_eq_ok.1 hrest
    exact ⟨now, later, hs, hlater, (Except.ok.inj hrow).symm⟩
  · rintro ⟨now, later, hs, hlater, rfl⟩
    exact ⟨_, look_eq_ok.2 ⟨now, hs, rfl, rfl⟩, bind_eq_ok.2 ⟨later, hlater, rfl⟩⟩

/-- A row has one look for each call. -/
theorem map_looks (hrow : w.looks moments = .ok row) :
    row.map (fun l => (l.host, l.told.isSome)) = moments := by
  induction moments generalizing w row with
  | nil =>
    obtain rfl := Except.ok.inj hrow
    rfl
  | cons moment rest ih =>
    obtain ⟨h, tells⟩ := moment
    obtain ⟨now, later, -, hlater, rfl⟩ := looks_cons.1 hrow
    rw [List.map_cons, ih hlater]
    cases tells <;> rfl

/-- What was seen last, at the end of some looks: if there are none, what was seen before them. -/
def lastSeen (before : Snapshot) (past : List Look) : Snapshot :=
  (past.map Look.seen).getLastD before

theorem lastSeen_cons (before : Snapshot) (first : Look) (past : List Look) :
    lastSeen before (first :: past) = lastSeen first.seen past := List.getLastD_cons

theorem lastSeen_concat (before : Snapshot) (past : List Look) (l : Look) :
    lastSeen before (past ++ [l]) = l.seen := by
  rw [lastSeen, List.map_append]
  exact List.getLastD_concat

/-- Each look of a row is compared with the one before it. -/
theorem looks_split (hrow : w.looks moments = .ok row) (hsplit : row = past ++ l :: later) :
    w.snapshot l.host = .ok l.seen ∧
    ∀ c, l.told = some c → c = changes (lastSeen w.seen past) l.seen := by
  induction moments generalizing w row past with
  | nil =>
    obtain rfl := Except.ok.inj hrow
    simp at hsplit
  | cons moment rest ih =>
    obtain ⟨h, tells⟩ := moment
    obtain ⟨now, others, hs, hothers, rfl⟩ := looks_cons.1 hrow
    cases past with
    | nil =>
      obtain ⟨rfl, -⟩ := List.cons.inj hsplit
      refine ⟨hs, fun c hc => ?_⟩
      cases tells with
      | false => cases hc
      | true => exact (Option.some.inj hc).symm
    | cons first past =>
      obtain ⟨rfl, hothers'⟩ := List.cons.inj hsplit
      rw [lastSeen_cons]
      exact ih (w := { w with seen := now }) hothers hothers'

theorem exists_looks (hnul : ∀ m ∈ moments, '\x00' ∉ (m.1.absolute w.root).toList) :
    ∃ row, w.looks moments = .ok row := by
  induction moments generalizing w with
  | nil => exact ⟨[], rfl⟩
  | cons moment rest ih =>
    obtain ⟨h, tells⟩ := moment
    obtain ⟨hfirst, hrest⟩ := List.forall_mem_cons.1 hnul
    obtain ⟨now, hs⟩ := exists_snapshot hfirst
    obtain ⟨later, hlater⟩ := ih (w := { w with seen := now }) hrest
    exact ⟨_, looks_cons.2 ⟨now, later, hs, hlater, rfl⟩⟩

theorem looks_of_nul (hnul : '\x00' ∈ (h.absolute w.root).toList) :
    w.looks ((h, tells) :: moments) = .error .nullByte := by
  cases tells <;> simp [looks, look, poll, prime, snapshot_of_nul hnul, bind, Except.bind]

theorem directory_of_mem_calls {moves : List Move} {m : Host × Bool} (hm : m ∈ calls h moves) :
    m.1.directory = h.directory := by
  induction moves generalizing h with
  | nil => cases hm
  | cons move rest ih =>
    cases move with
    | edit e => exact ih (h := h.edited e) hm
    | prime =>
      rcases List.mem_cons.1 hm with rfl | hm
      · rfl
      · exact ih hm
    | poll =>
      rcases List.mem_cons.1 hm with rfl | hm
      · rfl
      · exact ih hm

/-- What a row of looks tells is what differs from look to look, where nothing was seen before
it. -/
def TellsExactly (row : List Look) : Prop := ∀ past l later c, row = past ++ l :: later →
  l.told = some c → c.IsExact (lastSeen [] past) l.seen

theorem exists_told_of_mem {part : Changes → List String} (hp : path ∈ l.told.elim [] part) :
    ∃ c, l.told = some c ∧ path ∈ part c := by
  cases ht : l.told with
  | none => simp [ht] at hp
  | some c => exact ⟨c, rfl, by simpa [ht] using hp⟩

section

variable (hexact : TellsExactly row)
include hexact

theorem lookup_of_mem_opened (hsplit : row = past ++ l :: later) (hp : path ∈ l.opened) :
    (lastSeen [] past).lookup path = none ∧ l.seen.lookup path ≠ none := by
  obtain ⟨c, ht, hp⟩ := exists_told_of_mem hp
  exact ((hexact past l later c hsplit ht).mem_opened path).1 hp

theorem lookup_of_mem_saved (hsplit : row = past ++ l :: later) (hp : path ∈ l.saved) :
    (lastSeen [] past).lookup path ≠ none ∧ l.seen.lookup path ≠ none := by
  obtain ⟨c, ht, hp⟩ := exists_told_of_mem hp
  obtain ⟨old, m, hold, hm, -⟩ := ((hexact past l later c hsplit ht).mem_saved path).1 hp
  rw [hold, hm]
  exact ⟨Option.some_ne_none old, Option.some_ne_none m⟩

/-- A path that is told as opened twice was gone in between. -/
theorem exists_gone_between {first second : Look} {between : List Look}
    (hsplit : row = past ++ first :: (between ++ second :: later)) (hfirst : path ∈ first.opened)
    (hsecond : path ∈ second.opened) : ∃ l ∈ between, l.seen.lookup path = none := by
  have hseen := (lookup_of_mem_opened hexact hsplit hfirst).2
  have hgone : (lastSeen [] (past ++ first :: between)).lookup path = none :=
    (lookup_of_mem_opened hexact (by rw [hsplit, List.append_assoc]; rfl) hsecond).1
  rcases List.eq_nil_or_concat' between with rfl | ⟨others, l, rfl⟩
  · rw [lastSeen_concat] at hgone
    exact absurd hgone hseen
  · rw [← List.cons_append, ← List.append_assoc, lastSeen_concat] at hgone
    exact ⟨l, List.mem_append_right others (List.mem_singleton_self l), hgone⟩

/-- What was seen last came to be seen by a record, or was told as opened. -/
theorem exists_known_of_lookup (hsplit : row = past ++ later)
    (hp : (lastSeen [] past).lookup path ≠ none) :
    ∃ l ∈ past, (l.told = none ∧ l.seen.lookup path ≠ none) ∨ path ∈ l.opened := by
  induction past using List.reverseRecOn generalizing later with
  | nil => exact absurd rfl hp
  | append_singleton past l ih =>
    rw [List.append_assoc, List.singleton_append] at hsplit
    rw [lastSeen_concat] at hp
    have hl : l ∈ past ++ [l] := List.mem_append_right past (List.mem_singleton_self l)
    cases ht : l.told with
    | none => exact ⟨l, hl, Or.inl ⟨ht, hp⟩⟩
    | some c =>
      by_cases hbefore : (lastSeen [] past).lookup path = none
      · refine ⟨l, hl, Or.inr ?_⟩
        rw [Look.opened, ht]
        exact ((hexact past l later c hsplit ht).mem_opened path).2 ⟨hbefore, hp⟩
      · obtain ⟨earlier, hmem, hknown⟩ := ih hsplit hbefore
        exact ⟨earlier, List.mem_append_left _ hmem, hknown⟩

end

/-- The looks of a run are made one for each call, and what they tell is what differs from look to
look. -/
structure ExactLooks (w : Watcher) (moments : List (Host × Bool)) (row : List Look) : Prop where
  called : row.map (fun l => (l.host, l.told.isSome)) = moments
  seen : ∀ l ∈ row, IsSeen w.listed l.host l.seen
  exact : TellsExactly row
  /-- No path is told that is not listed or has no time of change. -/
  there : ∀ l ∈ row, ∀ path ∈ l.opened ++ l.saved, l.host.modified? path ≠ none ∧
    ∃ files, w.listed l.host = .ok files ∧ path ∈ files
  /-- Between two looks that tell a path as opened there is one that does not see it. -/
  gone_between : ∀ past first between second later path,
    row = past ++ first :: (between ++ second :: later) →
    path ∈ first.opened → path ∈ second.opened → ∃ l ∈ between, l.seen.lookup path = none
  /-- A path that is told as saved was recorded or told as opened before. -/
  known_before : ∀ past l later path, row = past ++ l :: later → path ∈ l.saved →
    ∃ earlier ∈ past, (earlier.told = none ∧ earlier.seen.lookup path ≠ none) ∨
      path ∈ earlier.opened
  /-- Where no file was edited since the look before, nothing is told. -/
  quiet : ∀ past first second later c, row = past ++ first :: second :: later →
    second.host.tree = first.host.tree → second.told = some c → c = ⟨[], []⟩

theorem exactLooks {directory : String} (hdirectory : ∀ m ∈ moments, m.1.directory = directory)
    (hw : w.seen = []) (hrow : w.looks moments = .ok row) : ExactLooks w moments row := by
  have hcalled := map_looks hrow
  have hsnapshot : ∀ l ∈ row, w.snapshot l.host = .ok l.seen := by
    intro l hl
    obtain ⟨past, later, hsplit⟩ := List.append_of_mem hl
    exact (looks_split hrow hsplit).1
  have hexact : TellsExactly row := by
    intro past l later c hsplit ht
    obtain ⟨hs, htold⟩ := looks_split hrow hsplit
    obtain rfl := htold c ht
    rw [hw]
    exact isExact_changes hs _
  refine ⟨hcalled, fun l hl => isSeen_of_snapshot (hsnapshot l hl), hexact, ?_, ?_, ?_, ?_⟩
  · intro l hl path hp
    obtain ⟨past, later, hsplit⟩ := List.append_of_mem hl
    have hsees : l.seen.lookup path ≠ none := by
      rcases List.mem_append.1 hp with hp | hp
      · exact (lookup_of_mem_opened hexact hsplit hp).2
      · exact (lookup_of_mem_saved hexact hsplit hp).2
    obtain ⟨files, hc⟩ := candidates_of_snapshot (hsnapshot l hl)
    obtain ⟨hfile, hthere⟩ := listed_of_lookup hc (hsnapshot l hl) hsees
    exact ⟨hthere, files, hc, hfile⟩
  · intro past first between second later path hsplit
    exact exists_gone_between hexact hsplit
  · intro past l later path hsplit hp
    exact exists_known_of_lookup hexact hsplit (lookup_of_mem_saved hexact hsplit hp).1
  · intro past first second later c hsplit htree ht
    have hplace : ∀ l ∈ row, l.host.directory = directory := by
      intro l hl
      refine hdirectory (l.host, l.told.isSome) ?_
      rw [← hcalled]
      exact List.mem_map_of_mem hl
    have hfirst : first ∈ row := by simp [hsplit]
    have hsecond : second ∈ row := by simp [hsplit]
    have hsame : second.seen = first.seen := by
      have hboth := snapshot_congr (w := w) htree
        ((hplace second hsecond).trans (hplace first hfirst).symm)
      rw [hsnapshot second hsecond, hsnapshot first hfirst] at hboth
      exact Except.ok.inj hboth
    have htold :=
      hexact (past ++ [first]) second later c (by rw [hsplit, List.append_assoc]; rfl) ht
    rw [lastSeen_concat, hsame] at htold
    exact htold.eq_none

/-- Whatever is edited, recorded and looked at from a new watcher on, in whatever order: each look
tells exactly what differs from the look or the record before it. A directory whose path holds a NUL
cannot be looked at. -/
theorem looks_exact (h : Host) (root : String) (extensions excluded : List String)
    (moves : List Move) :
    let w := new h root extensions excluded
    ('\x00' ∈ (h.absolute w.root).toList ∧ calls h moves ≠ [] ∧
      w.looks (calls h moves) = .error .nullByte) ∨
    ∃ row, w.looks (calls h moves) = .ok row ∧ ExactLooks w (calls h moves) row := by
  intro w
  have hdirectory : ∀ m ∈ calls h moves, m.1.directory = h.directory :=
    fun m => directory_of_mem_calls
  by_cases hnul : '\x00' ∈ (h.absolute w.root).toList ∧ calls h moves ≠ []
  · obtain ⟨hroot, hcalls⟩ := hnul
    obtain ⟨⟨g, tells⟩, rest, hcons⟩ := List.exists_cons_of_ne_nil hcalls
    have hg : g.directory = h.directory := hdirectory (g, tells) (hcons ▸ List.mem_cons_self)
    refine Or.inl ⟨hroot, hcalls, ?_⟩
    rw [hcons]
    apply looks_of_nul
    rwa [Host.absolute, hg]
  · have hnuls : ∀ m ∈ calls h moves, '\x00' ∉ (m.1.absolute w.root).toList := by
      intro m hm hroot
      rw [Host.absolute, hdirectory m hm] at hroot
      exact hnul ⟨hroot, List.ne_nil_of_mem hm⟩
    obtain ⟨row, hrow⟩ := exists_looks hnuls
    exact Or.inr ⟨row, hrow, exactLooks hdirectory rfl hrow⟩

end Watcher
end ReminderScan
