import ReminderScan.Proofs.Text.Line
import ReminderScan.Proofs.Text.Utf8
import ReminderScan.Proofs.Workspace.Scan

/-! What comes of the lines of one document: the reminders that are added, what the user is told of
them and what is logged, line by line. The lines themselves do not depend on how their ends are
written. -/

namespace ReminderScan

open Calendar Text

namespace Document

/-- The tags in some lines, with the numbers of the lines. The first line is number one. -/
def numberedTags (defaultTime : String) (lines : List (List Char)) : List (Nat × Tag) :=
  (lines.zipIdx 1).filterMap fun line => (Tag.read? defaultTime line.1).map (line.2, ·)

/-- What the user is told of a tag: that it is due, or that its day or time does not exist. -/
def noticeOf (rules : DocumentRules) (now : Timestamp) (name : String) (number : Nat) (tag : Tag) :
    Option Notice :=
  match tag.scheduled with
  | some t =>
    if t ≤ now then some (.warning s!"Reminder due in {name} (Line {number}): {tag.message}")
      else none
  | none =>
    if rules.reportInvalid then
      some (.warning s!"Invalid reminder date in {name} (Line {number}): {tag.date} [{tag.time}]")
    else none

/-- What is logged of a tag whose day or time does not exist. -/
def invalidRecord (file : String) (number : Nat) (tag : Tag) : LogRecord :=
  ⟨"code_nudger.annotations.scanner", .warning,
    s!"Unparseable reminder date in {file}:{number}: {tag.date} [{tag.time}]"⟩

variable {rules : DocumentRules} {now : Timestamp} {file : String} {lines : List (List Char)}

theorem reminders_eq_map (defaultTime file : String) (lines : List (List Char)) :
    reminders defaultTime file lines =
      (numberedTags defaultTime lines).map fun e => .ofTag file e.1 e.2 := by
  rw [reminders_eq_annotations, annotations, numberedTags, List.map_filterMap]
  congr 1
  funext line
  rw [Option.map_map]
  rfl

theorem lineText_ofTag (number : Nat) (tag : Tag) :
    lineText (.ofTag file number tag) = toString number := rfl

/-- The log hears of every tag that is no point in time, the user as the rules say. -/
theorem eventsOf_ofTag (number : Nat) (tag : Tag) : eventsOf rules now (.ofTag file number tag) =
    (if tag.scheduled = none then [.log (invalidRecord file number tag)] else []) ++
      (noticeOf rules now (Path.baseName file) number tag).toList.map .notice := by
  rw [eventsOf, lineText_ofTag]
  cases hs : tag.scheduled with
  | none =>
    have hinvalid : (!(Reminder.ofTag file number tag).isValid) = true := by
      simp [Reminder.isValid, Reminder.ofTag, hs]
    rw [if_pos hinvalid, if_pos rfl, noticeOf, hs]
    cases rules.reportInvalid with
    | true => rfl
    | false => rfl
  | some t =>
    have hvalid : ¬(!(Reminder.ofTag file number tag).isValid) = true := by
      simp [Reminder.isValid, Reminder.ofTag, hs]
    have hdue : (Reminder.ofTag file number tag).isDue now = decide (t ≤ now) := by
      simp [Reminder.isDue, Reminder.ofTag, hs]
    rw [if_neg hvalid, hdue, noticeOf, hs]
    by_cases ht : t ≤ now
    · simp only [ht, decide_true]
      rfl
    · simp only [ht, decide_false]
      rfl

theorem notices_eventsOf (number : Nat) (tag : Tag) :
    Event.notices (eventsOf rules now (.ofTag file number tag)) =
      (noticeOf rules now (Path.baseName file) number tag).toList := by
  rw [eventsOf_ofTag, Event.notices_append]
  cases noticeOf rules now (Path.baseName file) number tag with
  | none => split <;> rfl
  | some n => split <;> rfl

theorem warnings_eventsOf (number : Nat) (tag : Tag) :
    Event.warnings (eventsOf rules now (.ofTag file number tag)) =
      if tag.scheduled = none then [invalidRecord file number tag] else [] := by
  rw [eventsOf_ofTag]
  cases noticeOf rules now (Path.baseName file) number tag with
  | none => split <;> rfl
  | some n => split <;> rfl

theorem notices_flatMap_eventsOf (found : List (Nat × Tag)) :
    Event.notices ((found.map fun e => .ofTag file e.1 e.2).flatMap (eventsOf rules now)) =
      found.filterMap fun e => noticeOf rules now (Path.baseName file) e.1 e.2 := by
  rw [List.flatMap_map, Event.notices, List.filterMap_flatMap, List.filterMap_eq_flatMap_toList]
  congr 1
  funext e
  exact notices_eventsOf e.1 e.2

theorem warnings_flatMap_eventsOf (found : List (Nat × Tag)) :
    Event.warnings ((found.map fun e => .ofTag file e.1 e.2).flatMap (eventsOf rules now)) =
      (found.filter (·.2.scheduled = none)).map fun e => invalidRecord file e.1 e.2 := by
  rw [List.flatMap_map, Event.warnings, List.filterMap_flatMap]
  induction found with
  | nil => rfl
  | cons e rest ih =>
    have hfirst : Event.warnings (eventsOf rules now (.ofTag file e.1 e.2)) =
        if e.2.scheduled = none then [invalidRecord file e.1 e.2] else [] :=
      warnings_eventsOf e.1 e.2
    rw [Event.warnings] at hfirst
    rw [List.flatMap_cons, ih, hfirst, List.filter_cons]
    by_cases he : e.2.scheduled = none <;> simp [he]

/-- There is a tag just when a line can be read as one. -/
theorem isEmpty_numberedTags (defaultTime : String) (lines : List (List Char)) :
    (numberedTags defaultTime lines).isEmpty =
      !lines.any fun line => (Tag.read? defaultTime line).isSome := by
  have hlines : lines.any (fun line => (Tag.read? defaultTime line).isSome) =
      (lines.zipIdx 1).any fun line => (Tag.read? defaultTime line.1).isSome := by
    conv_lhs => rw [← List.zipIdx_map_fst 1 lines, List.any_map]
    rfl
  rw [hlines, Bool.eq_iff_iff]
  simp [numberedTags, List.filterMap_eq_nil_iff]

end Document

theorem Event.warnings_append (a b : List Event) : warnings (a ++ b) = warnings a ++ warnings b :=
  List.filterMap_append

namespace Service

theorem events_scanLines (s : Service) (h : Host) (file : String) (lines : List (List Char))
    (notify : Bool) : ∃ text, (s.scanLines h file lines notify).events =
      ((Document.numberedTags s.settings.defaultTime lines).map
        fun e => .ofTag file e.1 e.2).flatMap
        (Document.eventsOf (WorkspaceScan.rules s.settings) h.now) ++
      (if Document.numberedTags s.settings.defaultTime lines = [] ∧ notify then
        [Event.info s!"No reminders found in {Path.baseName file}."] else []) ++
      [Document.record .debug text] := by
  rw [scanLines, Document.scan]
  simp only [WorkspaceScan.rules, Document.reminders_eq_map, Bool.and_eq_true, List.isEmpty_iff,
    List.map_eq_nil_iff]
  exact ⟨_, rfl⟩

/-- Reading lines adds one reminder for each line with a tag, in the order of the lines. The user is
told of those that are due, and of those that are no point in time if the settings ask for it; the
log always hears of the latter. If there is no tag and a notice is asked for, that is told. -/
theorem scanLines_exact (s : Service) (h : Host) (file : String) (lines : List (List Char))
    (notify : Bool) :
    let found := Document.numberedTags s.settings.defaultTime lines
    let out := s.scanLines h file lines notify
    out.service.settings = s.settings ∧
    out.service.store.toList = s.store.toList ++ found.map (fun e => .ofTag file e.1 e.2) ∧
    Event.notices out.events =
      found.filterMap (fun e => Document.noticeOf
        ⟨s.settings.defaultTime, s.settings.reportInvalid.isTruthy⟩ h.now
          (Path.baseName file) e.1 e.2) ++
      (if found = [] ∧ notify then
        [.info s!"No reminders found in {Path.baseName file}."] else []) ∧
    Event.warnings out.events =
      (found.filter (·.2.scheduled = none)).map (fun e => Document.invalidRecord file e.1 e.2) ∧
    out.answer = .ok (lines.any fun line => (Tag.read? s.settings.defaultTime line).isSome) := by
  intro found out
  obtain ⟨text, hevents⟩ := events_scanLines s h file lines notify
  have hfound : Document.reminders s.settings.defaultTime file lines =
      found.map fun e => .ofTag file e.1 e.2 := Document.reminders_eq_map _ file lines
  refine ⟨rfl, congrArg (s.store.toList ++ ·) hfound, ?_, ?_, ?_⟩
  · rw [hevents, Event.notices_append, Event.notices_append, Document.notices_flatMap_eventsOf,
      List.append_assoc]
    congr 1
    split <;> rfl
  · rw [hevents, Event.warnings_append, Event.warnings_append, Document.warnings_flatMap_eventsOf,
      List.append_assoc]
    refine List.append_right_eq_self.2 ?_
    split <;> rfl
  · change Except.ok (!(Document.reminders s.settings.defaultTime file lines).isEmpty) = _
    rw [hfound, List.isEmpty_map, Document.isEmpty_numberedTags, Bool.not_not]

/-- A document that holds a text is scanned by the lines of the text. -/
theorem scanFile_of_encode (s : Service) {h : Host} {path : String} {text : List Char}
    {modified : Number.Binary64}
    (hfile : h.openFile (h.absolute path) = .ok (Utf8.encode text, modified)) (notify : Bool) :
    s.scanFile h path notify = s.scanLines h (h.absolute path) (Text.lines text) notify := by
  have hread : h.readDocument (h.absolute path) = .ok (unifyLineEnds text) := by
    rw [Host.readDocument, Host.readText, hfile]
    simp only [bind, Except.bind, Utf8.decode_encode]
  rw [scanFile, hread]
  dsimp only
  rw [lines_unifyLineEnds]

/-- The lines of a text are the same after every end is written as a line feed; lines that are
joined by ends of any kinds are read back just when no two ends run into one; and nothing but a
carriage return or a line feed starts a line. So of a document with the same end throughout it is
the lines that decide what is found, whichever end that is. -/
theorem scanFile_lineEnds :
    (∀ text, Text.lines (unifyLineEnds text) = Text.lines text) ∧
    (∀ first (rest : List (LineEnd × List Char)), (∀ line ∈ first :: rest.map (·.2), IsLine line) →
      (Text.lines (joinLines first rest) = first :: rest.map (·.2) ↔ Distinguished rest)) ∧
    (∀ before c after, c ≠ '\r' → c ≠ '\n' → ∃ earlier last next later,
      Text.lines before = earlier ++ [last] ∧ Text.lines after = next :: later ∧
      Text.lines (before ++ c :: after) = earlier ++ (last ++ c :: next) :: later) ∧
    ∀ (s : Service) (h : Host) (path : String) (notify : Bool) (e : LineEnd) first rest modified,
      (∀ line ∈ first :: rest, IsLine line) →
      h.openFile (h.absolute path) =
        .ok (Utf8.encode (joinLines first (rest.map (e, ·))), modified) →
      s.scanFile h path notify = s.scanLines h (h.absolute path) (first :: rest) notify ∧
      (s.scanFile h path notify).service.store.toList = s.store.toList ++
        (Document.numberedTags s.settings.defaultTime (first :: rest)).map
          fun found => .ofTag (h.absolute path) found.1 found.2 := by
  refine ⟨lines_unifyLineEnds, fun first rest => lines_joinLines_eq_iff,
    fun before c after hr hn => lines_append_cons hr hn before after, ?_⟩
  intro s h path notify e first rest modified hlines hfile
  have hrest : (rest.map (e, ·)).map (·.2) = rest := by simp [Function.comp_def]
  have hread := (lines_joinLines_eq_iff (hrest.symm ▸ hlines)).2 (distinguished_map e rest)
  rw [hrest] at hread
  have hscan := s.scanFile_of_encode hfile notify
  rw [hread] at hscan
  rw [hscan]
  exact ⟨rfl, congrArg (s.store.toList ++ ·) (Document.reminders_eq_map _ _ _)⟩

/-- Lines of which one is empty and one holds a line separator of another kind. -/
def returnLines : List (List Char) := [[], "// @reminder 2024-01-02: pay\u2028more".toList]

/-- A machine with a document whose lines all end with a carriage return. -/
def returnHost : Host :=
  { mixedHost with
    tree := {
      nodes := [([folderName], .directory), ([folderName, noteName],
        .file (Utf8.encode (joinLines ['x'] (returnLines.map (.carriageReturn, ·)))) (.zero false))]
      distinct := by
        simp only [List.map_cons, List.map_nil]
        decide } }

theorem scanFile_lineEnds_returnHost :
    (∀ line ∈ ['x'] :: returnLines, IsLine line) ∧
    returnHost.openFile (returnHost.absolute "/w/a.py") =
      .ok (Utf8.encode (joinLines ['x'] (returnLines.map (.carriageReturn, ·))), .zero false) ∧
    ((scanFile ⟨{}, .empty⟩ returnHost "/w/a.py" true).service.store.toList.map
      fun r => (r.line, r.message)) = [(3, "pay\u2028more")] := by
  have hlines : ∀ line ∈ ['x'] :: returnLines, IsLine line := by
    decide
  have hfile : returnHost.openFile (returnHost.absolute "/w/a.py") =
      .ok (Utf8.encode (joinLines ['x'] (returnLines.map (.carriageReturn, ·))), .zero false) := by
    decide +kernel
  refine ⟨hlines, hfile, ?_⟩
  obtain ⟨-, hstore⟩ := scanFile_lineEnds.2.2.2 ⟨{}, .empty⟩ returnHost "/w/a.py" true
    .carriageReturn ['x'] returnLines (.zero false) hlines hfile
  rw [hstore]
  decide +kernel

end Service
end ReminderScan
