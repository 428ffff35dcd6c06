import Mathlib.Data.List.Chain
import ReminderScan.Text.Line

/-! Lines with ends between them, and the lines that are read back. The ends may be of all three
kinds, in any mixture, as long as no return meets a line feed across an empty line: the two would be
one end. -/

namespace ReminderScan.Text

inductive LineEnd where
  | lineFeed
  | returnFeed
  | carriageReturn
deriving DecidableEq, Repr

def LineEnd.chars : LineEnd → List Char
  | lineFeed => ['\n']
  | returnFeed => ['\r', '\n']
  | carriageReturn => ['\r']

/-- The text of a single line: it holds no line end, and any other separator counts as text. -/
def IsLine (line : List Char) : Prop := ∀ c ∈ line, c ≠ '\r' ∧ c ≠ '\n'

instance (line : List Char) : Decidable (IsLine line) :=
  decidable_of_iff (line.all fun c => c ≠ '\r' ∧ c ≠ '\n') (by simp [IsLine])

/-- A line and those after it, each with the end that stands before it. -/
def joinLines (first : List Char) : List (LineEnd × List Char) → List Char
  | [] => first
  | (e, line) :: rest => first ++ (e.chars ++ joinLines line rest)

/-- No carriage return stands before an empty line that a line feed ends. -/
def Distinguished (rest : List (LineEnd × List Char)) : Prop :=
  rest.IsChain fun a b => ¬(a.1 = .carriageReturn ∧ a.2 = [] ∧ b.1 = .lineFeed)

variable {line first text : List Char} {rest : List (LineEnd × List Char)} {e : LineEnd}

theorem isLine_cons {c : Char} : IsLine (c :: line) ↔ (c ≠ '\r' ∧ c ≠ '\n') ∧ IsLine line :=
  List.forall_mem_cons

/-- Ends that are all of one kind are told apart, whatever lines are empty. -/
theorem distinguished_map (e : LineEnd) (lines : List (List Char)) :
    Distinguished (lines.map (e, ·)) := by
  refine List.Pairwise.isChain (List.pairwise_map.2 (List.pairwise_of_forall ?_))
  rintro a b ⟨hreturn, -, hfeed⟩
  exact LineEnd.noConfusion (hreturn.symm.trans hfeed)

theorem lines_cons {c : Char} (hr : c ≠ '\r') (hn : c ≠ '\n') (text : List Char) :
    lines (c :: text) = prependToFirst c (lines text) := by
  rw [lines.eq_def]
  split <;> simp_all

/-- A line before a text belongs to the first line of the text. -/
theorem lines_append {next : List Char} {others : List (List Char)} (hline : IsLine line)
    (htext : lines text = next :: others) : lines (line ++ text) = (line ++ next) :: others := by
  induction line with
  | nil => exact htext
  | cons c line ih =>
    obtain ⟨⟨hr, hn⟩, hline⟩ := isLine_cons.1 hline
    rw [List.cons_append, lines_cons hr hn, ih hline]
    rfl

theorem lines_of_isLine (hline : IsLine line) : lines line = [line] := by
  have hlines : lines (line ++ []) = [line ++ []] := lines_append hline rfl
  rwa [List.append_nil] at hlines

/-- An end is one end, unless it is a carriage return and a line feed follows. -/
theorem lines_chars_append (hfeed : e = .carriageReturn → text.head? ≠ some '\n') :
    lines (e.chars ++ text) = [] :: lines text := by
  cases e with
  | lineFeed => rfl
  | returnFeed => rfl
  | carriageReturn =>
    cases text with
    | nil => rfl
    | cons c text =>
      have hc : c ≠ '\n' := fun hc => hfeed rfl (congrArg some hc)
      change lines ('\r' :: c :: text) = _
      rw [lines]
      intro rest hcons
      exact hc (List.cons.inj hcons).1

theorem head?_joinLines (hline : IsLine first) : (joinLines first rest).head? = some '\n' ↔
    first = [] ∧ rest.head?.any (·.1 = .lineFeed) := by
  cases first with
  | nil =>
    cases rest with
    | nil => simp [joinLines]
    | cons next rest =>
      obtain ⟨e, line⟩ := next
      cases e <;> simp [joinLines, LineEnd.chars]
  | cons c first =>
    have hc := (isLine_cons.1 hline).1.2
    cases rest <;> simp [joinLines, hc]

theorem length_lines_chars_append (e : LineEnd) (text : List Char) :
    (lines (e.chars ++ text)).length ≤ (lines text).length + 1 := by
  by_cases hfeed : e = .carriageReturn → text.head? ≠ some '\n'
  · exact (congrArg List.length (lines_chars_append hfeed)).le
  · obtain ⟨rfl, hhead⟩ := Classical.not_imp.1 hfeed
    cases text with
    | nil => simp at hhead
    | cons c text =>
      obtain rfl : c = '\n' := by simpa using hhead
      change ([] :: lines text).length ≤ ([] :: lines text).length + 1
      exact Nat.le_succ _

theorem length_lines_append (hline : IsLine line) (text : List Char) :
    (lines (line ++ text)).length = (lines text).length := by
  obtain ⟨next, others, htext⟩ := List.exists_cons_of_ne_nil (lines_ne_nil text)
  rw [lines_append hline htext, htext, List.length_cons, List.length_cons]

/-- There are no more lines than were joined. -/
theorem length_lines_joinLines_le (hlines : ∀ line ∈ first :: rest.map (·.2), IsLine line) :
    (lines (joinLines first rest)).length ≤ rest.length + 1 := by
  induction rest generalizing first with
  | nil =>
    rw [joinLines, lines_of_isLine (List.forall_mem_cons.1 hlines).1]
    rfl
  | cons next rest ih =>
    obtain ⟨e, line⟩ := next
    obtain ⟨hfirst, hrest⟩ := List.forall_mem_cons.1 hlines
    have hend := length_lines_chars_append e (joinLines line rest)
    have hbound : (lines (joinLines line rest)).length ≤ rest.length + 1 := ih hrest
    rw [joinLines, length_lines_append hfirst, List.length_cons]
    omega

/-- A carriage return and a line feed across an empty line are read as one end, and a line is
lost. -/
theorem lines_joinLines_ne {third : List Char}
    (hlines : ∀ line ∈ first :: [] :: third :: rest.map (·.2), IsLine line) :
    lines (joinLines first ((.carriageReturn, []) :: (.lineFeed, third) :: rest)) ≠
      first :: [] :: third :: rest.map (·.2) := by
  intro heq
  obtain ⟨hfirst, hothers⟩ := List.forall_mem_cons.1 hlines
  have hlost : (lines (joinLines third rest)).length ≤ rest.length + 1 :=
    length_lines_joinLines_le (List.forall_mem_cons.1 hothers).2
  have hend : lines (LineEnd.returnFeed.chars ++ joinLines third rest) =
      [] :: lines (joinLines third rest) := rfl
  have hlength := congrArg List.length heq
  change (lines (first ++ (LineEnd.returnFeed.chars ++ joinLines third rest))).length = _ at hlength
  rw [length_lines_append hfirst, hend] at hlength
  simp only [List.length_cons, List.length_map] at hlength
  omega

/-- Lines are read back as they were joined just when no carriage return meets a line feed across an
empty line. -/
theorem lines_joinLines_eq_iff (hlines : ∀ line ∈ first :: rest.map (·.2), IsLine line) :
    lines (joinLines first rest) = first :: rest.map (·.2) ↔ Distinguished rest := by
  induction rest generalizing first with
  | nil =>
    rw [joinLines, lines_of_isLine (List.forall_mem_cons.1 hlines).1]
    exact iff_of_true rfl .nil
  | cons next rest ih =>
    obtain ⟨e, line⟩ := next
    obtain ⟨hfirst, hrest⟩ := List.forall_mem_cons.1 hlines
    have hline : IsLine line := (List.forall_mem_cons.1 hrest).1
    rw [Distinguished, List.isChain_cons, ← Distinguished, ← ih hrest]
    by_cases hfeed : e = .carriageReturn → (joinLines line rest).head? ≠ some '\n'
    · -- The end stands for itself, so what follows it are the lines of the rest.
      rw [joinLines, lines_append hfirst (lines_chars_append hfeed), List.append_nil, List.map_cons,
        List.cons_inj_right, and_iff_right]
      rintro second hsecond ⟨hreturn, hempty, hnext⟩
      refine hfeed hreturn ((head?_joinLines hline).2 ⟨hempty, ?_⟩)
      rw [Option.mem_def.1 hsecond]
      exact decide_eq_true hnext
    · obtain ⟨rfl, hhead⟩ := Classical.not_imp.1 hfeed
      obtain ⟨rfl, hsecond⟩ := (head?_joinLines hline).1 (Classical.not_not.1 hhead)
      cases rest with
      | nil => simp at hsecond
      | cons second rest =>
        obtain ⟨e, third⟩ := second
        obtain rfl : e = .lineFeed := by simpa using hsecond
        refine iff_of_false (lines_joinLines_ne hlines) ?_
        rintro ⟨hmeets, -⟩
        exact hmeets _ rfl ⟨rfl, rfl, rfl⟩

/-- Writing every end as a line feed changes no line. -/
theorem lines_unifyLineEnds (text : List Char) : lines (unifyLineEnds text) = lines text := by
  fun_induction unifyLineEnds text with
  | case1 => rfl
  | case2 rest ih => rw [lines, lines, ih]
  | case3 rest hfeed ih => rw [lines, lines, ih]; exact hfeed
  | case4 c rest _ hr ih =>
    by_cases hn : c = '\n'
    · subst hn
      rw [lines, lines, ih]
    · rw [lines_cons hr hn, lines_cons hr hn, ih]

/-- A character that is neither a carriage return nor a line feed starts no line: what stands before
it and after it is one line with it. -/
theorem lines_append_cons {c : Char} (hr : c ≠ '\r') (hn : c ≠ '\n') (before after : List Char) :
    ∃ earlier last next later, lines before = earlier ++ [last] ∧ lines after = next :: later ∧
      lines (before ++ c :: after) = earlier ++ (last ++ c :: next) :: later := by
  obtain ⟨next, later, hafter⟩ := List.exists_cons_of_ne_nil (lines_ne_nil after)
  have hc : lines (c :: after) = (c :: next) :: later := by
    rw [lines_cons hr hn, hafter]
    rfl
  suffices h : ∃ earlier last, lines before = earlier ++ [last] ∧
      lines (before ++ c :: after) = earlier ++ (last ++ c :: next) :: later by
    obtain ⟨earlier, last, hbefore, hwhole⟩ := h
    exact ⟨earlier, last, next, later, hbefore, hafter, hwhole⟩
  fun_induction lines before with
  | case1 => exact ⟨[], [], rfl, hc⟩
  | case2 rest ih =>
    obtain ⟨earlier, last, hbefore, hwhole⟩ := ih
    exact ⟨[] :: earlier, last, congrArg _ hbefore, congrArg ([] :: ·) hwhole⟩
  | case3 rest hfeed ih =>
    obtain ⟨earlier, last, hbefore, hwhole⟩ := ih
    refine ⟨[] :: earlier, last, congrArg _ hbefore, ?_⟩
    have hhead : (rest ++ c :: after).head? ≠ some '\n' := by
      cases rest with
      | nil => simpa using hn
      | cons d rest => simpa using fun hd : d = '\n' => hfeed rest (by rw [hd])
    exact (lines_chars_append (e := .carriageReturn) fun _ => hhead).trans
      (congrArg ([] :: ·) hwhole)
  | case4 rest ih =>
    obtain ⟨earlier, last, hbefore, hwhole⟩ := ih
    exact ⟨[] :: earlier, last, congrArg _ hbefore, congrArg ([] :: ·) hwhole⟩
  | case5 d rest _ hdr hdn ih =>
    obtain ⟨earlier, last, hbefore, hwhole⟩ := ih
    rw [List.cons_append, lines_cons hdr hdn, hbefore, hwhole]
    cases earlier with
    | nil => exact ⟨[], d :: last, rfl, rfl⟩
    | cons first earlier => exact ⟨(d :: first) :: earlier, last, rfl, rfl⟩

end ReminderScan.Text
