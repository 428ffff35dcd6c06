import Mathlib.Data.List.Induction
import ReminderScan.Proofs.Watch.Look

/-! Edits of the files while they are watched, and which of them a look can tell by the times of
change. -/

namespace ReminderScan

/-- A change of the files, and the clock after it. -/
structure Edit where
  tree : FileTree
  now : Calendar.Timestamp

/-- The edits before a look, and those between the look and the serving of what it found. -/
structure Cycle where
  before : List Edit
  between : List Edit

def Cycle.edits (c : Cycle) : List Edit := c.before ++ c.between

namespace Host

def edited (h : Host) (e : Edit) : Host := { h with tree := e.tree, now := e.now }

/-- The machine after each of some edits. -/
def history : Host → List Edit → List Host
  | _, [] => []
  | h, e :: rest => h.edited e :: (h.edited e).history rest

def looks : Host → List Cycle → List Host
  | _, [] => []
  | h, c :: rest => c.before.foldl edited h :: (c.edits.foldl edited h).looks rest

/-- The machine from the beginning on, after each edit. -/
def timeline (h : Host) (cycles : List Cycle) : List Host :=
  h :: h.history (cycles.flatMap Cycle.edits)

theorem looks_concat (h : Host) (cycles : List Cycle) (c : Cycle) :
    h.looks (cycles ++ [c]) = h.looks cycles ++
      [c.before.foldl edited ((cycles.flatMap Cycle.edits).foldl edited h)] := by
  induction cycles generalizing h with
  | nil => rfl
  | cons first rest ih => simp [looks, ih]

theorem history_append (h : Host) (edits more : List Edit) :
    h.history (edits ++ more) = h.history edits ++ (edits.foldl edited h).history more := by
  induction edits generalizing h with
  | nil => rfl
  | cons e rest ih => simp [history, ih]

theorem last_history (h : Host) (edits : List Edit) :
    ∃ before, h :: h.history edits = before ++ [edits.foldl edited h] := by
  induction edits generalizing h with
  | nil => exact ⟨[], rfl⟩
  | cons e rest ih =>
    obtain ⟨before, hb⟩ := ih (h.edited e)
    exact ⟨h :: before, by rw [history, hb]; rfl⟩

/-- Edits do not move the machine. -/
theorem directory_foldl (h : Host) (edits : List Edit) :
    (edits.foldl edited h).directory = h.directory := by
  induction edits generalizing h with
  | nil => rfl
  | cons e rest ih => exact ih (h.edited e)

theorem isRooted_foldl {h : Host} (hr : h.IsRooted) (edits : List Edit) :
    (edits.foldl edited h).IsRooted := by
  rw [IsRooted, directory_foldl]
  exact hr

theorem absolute_foldl (h : Host) (edits : List Edit) (path : String) :
    (edits.foldl edited h).absolute path = h.absolute path := by
  rw [absolute, directory_foldl]
  rfl

theorem absoluteUser_foldl (h : Host) (edits : List Edit) (path : String) :
    (edits.foldl edited h).absoluteUser path = h.absoluteUser path := by
  induction edits generalizing h with
  | nil => rfl
  | cons e rest ih => exact ih (h.edited e)

end Host

/-- The file was looked into at one of some states of the machine. -/
def Listed (root : String) (s : Settings) (states : List Host) (file : String) : Prop :=
  ∃ g ∈ states, ∃ files, candidates g root s.extensions s.excluded = .ok files ∧ file ∈ files

/-- Every edit that changes what a file reads as, or its time of change, leaves it with a time of
change it never had before, or with none. -/
def FreshTimes (states : List Host) (file : String) : Prop :=
  ∀ past g next later, states = past ++ g :: next :: later →
    g.text? file ≠ next.text? file ∨ g.modified? file ≠ next.modified? file →
    ∀ m, next.modified? file = some m → ∀ e ∈ past ++ [g], e.modified? file ≠ some m

/-- As long as a file has the same time of change at two times, it did not change between them. -/
theorem text?_of_freshTimes {states : List Host} {file : String} (hf : FreshTimes states file)
    {older recent later : List Host} {g last : Host} {m : Number.Binary64}
    (hstates : states = older ++ g :: recent ++ later) (hlast : (g :: recent).getLast? = some last)
    (hg : g.modified? file = some m) (hm : last.modified? file = some m) :
    ∀ e ∈ g :: recent, e.text? file = last.text? file := by
  induction recent using List.reverseRecOn generalizing later last with
  | nil =>
    obtain rfl : g = last := by simpa using hlast
    simp
  | append_singleton recent x ih =>
    obtain rfl : x = last := by
      rw [← List.cons_append, List.getLast?_concat] at hlast
      exact Option.some.inj hlast
    obtain ⟨before, y, hy⟩ : ∃ before y, g :: recent = before ++ [y] :=
      ⟨_, _, (List.dropLast_concat_getLast (List.cons_ne_nil g recent)).symm⟩
    have hsplit : states = (older ++ before) ++ y :: x :: later := by
      rw [hstates, ← List.cons_append, hy]
      simp
    have hmem : g ∈ older ++ before ++ [y] := by
      rw [List.append_assoc, ← hy]
      simp
    have hsame : y.text? file = x.text? file ∧ y.modified? file = x.modified? file := by
      refine Classical.byContradiction fun hne => ?_
      exact hf _ _ _ _ hsplit (Classical.not_and_iff_not_or_not.1 hne) m hm g hmem hg
    have hmore : states = older ++ g :: recent ++ x :: later := by
      rw [hstates]
      simp
    have hbefore : ∀ e ∈ g :: recent, e.text? file = y.text? file :=
      ih hmore (by rw [hy, List.getLast?_concat]) (hsame.2.trans hm)
    intro e he
    rw [← List.cons_append, List.mem_append] at he
    rcases he with he | he
    · exact (hbefore e he).trans hsame.1
    · rw [List.mem_singleton.1 he]

end ReminderScan
