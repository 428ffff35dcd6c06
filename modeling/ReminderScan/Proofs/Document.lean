import ReminderScan.Document

/-! What a document holds, said line by line, and why a path without a NUL can always be tried: it
is read, or it counts as unreadable. -/

namespace ReminderScan

namespace Document

/-- One reminder for each line with a tag, in the order of the lines. The first line is number
one. -/
def annotations (defaultTime file : String) (lines : List (List Char)) : List Reminder :=
  (lines.zipIdx 1).filterMap fun line => (Tag.read? defaultTime line.1).map (.ofTag file line.2)

theorem remindersFrom_eq_filterMap (defaultTime file : String) (lines : List (List Char))
    (n : Nat) :
    remindersFrom defaultTime file n lines =
      (lines.zipIdx n).filterMap fun line =>
        (Tag.read? defaultTime line.1).map (.ofTag file line.2) := by
  induction lines generalizing n with
  | nil => rfl
  | cons line rest ih =>
    cases h : Tag.read? defaultTime line <;> simp [remindersFrom, List.zipIdx_cons, h, ih]

theorem reminders_eq_annotations (defaultTime file : String) (lines : List (List Char)) :
    reminders defaultTime file lines = annotations defaultTime file lines :=
  remindersFrom_eq_filterMap defaultTime file lines 1

theorem mem_reminders_of_read? {defaultTime : String} {lines : List (List Char)} {n : Nat}
    {line : List Char} {tag : Tag} (hline : lines[n]? = some line)
    (hread : Tag.read? defaultTime line = some tag) (file : String) :
    Reminder.ofTag file (n + 1) tag ∈ reminders defaultTime file lines := by
  rw [reminders_eq_annotations, annotations, List.mem_filterMap]
  refine ⟨(line, n + 1), ?_, ?_⟩
  · rw [Nat.add_comm]
    exact List.mk_add_mem_zipIdx_iff_getElem?.2 hline
  · rw [hread]
    rfl

theorem file_of_mem_annotations {defaultTime file : String} {lines : List (List Char)}
    {r : Reminder}
    (h : r ∈ annotations defaultTime file lines) : r.file = file := by
  obtain ⟨line, -, hr⟩ := List.mem_filterMap.1 h
  obtain ⟨tag, -, rfl⟩ := Option.map_eq_some_iff.1 hr
  rfl

theorem annotations_increasing (defaultTime file : String) (lines : List (List Char)) :
    (annotations defaultTime file lines).Pairwise fun a b => a.line < b.line := by
  have hindex : ∀ n, (lines.zipIdx n).Pairwise fun a b => a.2 < b.2 := by
    induction lines with
    | nil => simp
    | cons line rest ih =>
      intro n
      rw [List.zipIdx_cons, List.pairwise_cons]
      refine ⟨fun e he => ?_, ih (n + 1)⟩
      have := List.le_snd_of_mem_zipIdx he
      simp only
      omega
  refine (hindex 1).filterMap _ ?_
  intro a b hab r hr q hq
  obtain ⟨_, -, rfl⟩ := Option.map_eq_some_iff.1 hr
  obtain ⟨_, -, rfl⟩ := Option.map_eq_some_iff.1 hq
  exact Int.ofNat_lt.2 hab

end Document

namespace Host

def text? (h : Host) (path : String) : Option (List Char) := (h.readDocument path).toOption

/-- The reminders that a document holds; none if it cannot be read. -/
def remindersIn (h : Host) (defaultTime path : String) : List Reminder :=
  match h.text? path with
  | some text => Document.annotations defaultTime path (Text.lines text)
  | none => []

variable {h : Host} {path : String}

theorem text?_eq_some_iff {text : List Char} :
    h.text? path = some text ↔ h.readDocument path = .ok text := by
  unfold text?
  cases h.readDocument path <;> simp [Except.toOption]

theorem remindersIn_congr {g h : Host} (ht : g.text? path = h.text? path) (defaultTime : String) :
    g.remindersIn defaultTime path = h.remindersIn defaultTime path := by
  rw [remindersIn, remindersIn, ht]

theorem file_of_mem_remindersIn {defaultTime : String} {r : Reminder}
    (hr : r ∈ h.remindersIn defaultTime path) : r.file = path := by
  unfold remindersIn at hr
  split at hr
  · exact Document.file_of_mem_annotations hr
  · simp at hr

theorem remindersIn_increasing (h : Host) (defaultTime path : String) :
    (h.remindersIn defaultTime path).Pairwise fun a b => a.line < b.line := by
  unfold remindersIn
  split
  · exact Document.annotations_increasing _ _ _
  · exact .nil

theorem isUnreadable_of_locate {follow : Bool} {f : Fault} (hnul : '\x00' ∉ path.toList)
    (hl : h.locate follow path = .error f) : f.isUnreadable = true := by
  simp only [locate, hnul, if_false] at hl
  split at hl
  · cases hl; rfl
  · split at hl
    · cases hl; rfl
    · split at hl <;> cases hl
      rfl

theorem isUnreadable_of_openFile {f : Fault} (hnul : '\x00' ∉ path.toList)
    (ho : h.openFile path = .error f) : f.isUnreadable = true := by
  unfold openFile at ho
  split at ho
  · next hl => cases ho; exact isUnreadable_of_locate hnul hl
  · cases ho
  · cases ho; rfl
  · cases ho; rfl

/-- A document that cannot be read is told apart from every other fault. -/
theorem readDocument_error {f : Fault} (hnul : '\x00' ∉ path.toList)
    (hd : h.readDocument path = .error f) : ∃ reason, f = .unreadable path reason := by
  have htext : ∀ g, h.readText path = .error g → g.isUnreadable = true := by
    intro g hg
    unfold readText at hg
    cases ho : h.openFile path with
    | error e =>
      rw [ho] at hg
      cases hg
      exact isUnreadable_of_openFile hnul ho
    | ok file =>
      rw [ho] at hg
      simp only [bind, Except.bind] at hg
      split at hg <;> cases hg
      rfl
  unfold readDocument at hd
  split at hd
  · cases hd
  · next g hg =>
    rw [htext g hg] at hd
    cases hd
    exact ⟨_, rfl⟩

end Host
end ReminderScan
