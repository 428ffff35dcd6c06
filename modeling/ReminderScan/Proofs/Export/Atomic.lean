import ReminderScan.Proofs.Export
import ReminderScan.Proofs.Json.RoundTrip
import ReminderScan.Proofs.Text.Utf8

/-! A write replaces its target as a whole or leaves all that was there alone. What it can leave
beside its target is its temporary file, and that stays just where a fault ended the output. -/

namespace ReminderScan.Export

open Text

/-- The place has the name of a temporary file. -/
def IsTemporary (place : Place) : Prop :=
  ∃ dir name n, place = dir ++ [name] ∧ name.val = temporaryName n

variable {h : Host} {path : String} {layout : Json.Layout} {data : Json.Value} {place : Place}

/-- The value has a text, and no whole number in it is too long to be written. -/
def Writable (layout : Json.Layout) (data : Json.Value) : Prop :=
  data.hasLongNumber = false ∧ ∃ text, data.document layout = .ok text

theorem fault_output_eq_none_iff : (data.output layout 0).fault = none ↔ Writable layout data := by
  have hagrees := data.agrees layout 0
  constructor
  · intro hfault
    obtain ⟨hshort, hdocument⟩ := (hagrees (data.output layout 0).text).1 (by rw [← hfault])
    exact ⟨hshort, _, hdocument⟩
  · rintro ⟨hshort, text, hdocument⟩
    rw [(hagrees text).2 ⟨hshort, hdocument⟩]

/-- The reminders of a store are written like any value, where no number is too long. -/
theorem writeReminders_eq_write {store : Store}
    (hshort : (exportJson store).hasLongNumber = false) :
    writeReminders h path store = write h path (.export 2) (exportJson store) := by
  obtain ⟨text, hdocument⟩ := (isPlain_exportJson store).exists_document (.export 2)
  have houtput : (exportJson store).output (.export 2) 0 = ⟨text, none⟩ :=
    ((exportJson store).agrees (.export 2) 0 text).2 ⟨hshort, hdocument⟩
  rw [writeReminders, write, hdocument, houtput]
  rfl

/-- The temporary file has another name than the target. -/
theorem exists_name_of_opened? {target : Path.Names} (hopened : opened? h target = some place) :
    ∃ dir name n, place = dir ++ [name] ∧ name.val = temporaryName n ∧
      target.names.getLast? ≠ some (temporaryName n) := by
  obtain ⟨n, havoided, hname, hnot⟩ :=
    freePath_spec h target.parent.text (target.names.getLast?.getD "")
  unfold opened? at hopened
  split at hopened
  · rename_i directory free hl
    obtain rfl := Option.some.inj hopened
    obtain ⟨spot, hl', rfl | ⟨p, link, rfl⟩⟩ := Host.locate_false_of_true hl
    · obtain ⟨dir, name, hplace, hval⟩ := hname h.tree _ hl'
      refine ⟨dir, name, n, hplace, hval, ?_⟩
      intro hlast
      rw [hlast, Option.getD_some] at havoided
      exact havoided rfl
    · exact absurd hl' (hnot p _)
  · cases hopened

/-- A target that is there is not free for a temporary file, and one that is not has another
name. -/
theorem place_ne_of_opened? {spot : Spot}
    (hl : h.locate false (Path.Names.ofText path).text = .ok spot)
    (hopened : opened? h (.ofText path) = some place) : spot.place ≠ place := by
  rintro rfl
  cases spot with
  | taken there node =>
    have hget : h.tree.get? there = some node := Host.holds_of_locate hl
    have hnone : h.tree.get? there = none := get?_of_opened? hopened
    cases hget.symm.trans hnone
  | free dir name slash =>
    obtain ⟨dir', name', n, hplace, hname, hother⟩ := exists_name_of_opened? hopened
    obtain ⟨-, hsame⟩ := List.append_inj' hplace rfl
    rw [Host.getLast?_of_free hl, (List.cons.inj hsame).1, hname] at hother
    exact hother rfl

theorem opened?_of_temporary? (htemporary : temporary? h path = some place) :
    opened? (prepare h (.ofText (h.expandUser path))).host (.ofText (h.expandUser path)) =
      some place := by
  rw [temporary?_eq rfl] at htemporary
  generalize prepare h (.ofText (h.expandUser path)) = made at htemporary ⊢
  generalize opened? made.host (.ofText (h.expandUser path)) = opened at htemporary ⊢
  cases hfault : made.fault with
  | none => rwa [hfault] at htemporary
  | some f =>
    rw [hfault] at htemporary
    cases htemporary

theorem isTemporary_of_temporary? (htemporary : temporary? h path = some place) :
    IsTemporary place := by
  obtain ⟨dir, name, n, hplace, hname, -⟩ :=
    exists_name_of_opened? (opened?_of_temporary? htemporary)
  exact ⟨dir, name, n, hplace, hname⟩

theorem target?_ne_temporary? (htemporary : temporary? h path = some place) :
    target? h path ≠ some place := by
  have hopened := opened?_of_temporary? htemporary
  intro htarget
  unfold target? at htarget
  dsimp only at htarget
  split at htarget
  · rename_i spot hl
    exact place_ne_of_opened? hl hopened (Option.some.inj htarget)
  · cases htarget

/-- All that was there is as it was, and what is new is a directory or a temporary file that does
not stand at the target. -/
structure Abandoned (path : String) (before after : Host) : Prop where
  kept : ∀ p node, before.tree.get? p = some node → after.tree.get? p = some node
  fresh : ∀ p node, before.tree.get? p = none → after.tree.get? p = some node →
    node = .directory ∨ IsTemporary p ∧ target? before path ≠ some p

/-- The target is a file with the whole text of a value, and all else is as it was, new directories
apart. -/
structure Completed (path : String) (layout : Json.Layout) (data : Json.Value) (before after : Host)
    (place : Place) (text : List Char) : Prop where
  document : data.document layout = .ok text
  stands : Stands path before after place (Utf8.encode text)
  decode : Utf8.decode (Utf8.encode text) = .ok text
  parse : layout.IsSpaced → Json.HasDistinctNames data → Json.parse text = .ok data

/-- A write that is done has put the whole text of its value at the target; one that is not, for
whatever reason, has touched nothing. -/
theorem write_atomic (hc : h.tree.Connected) (path : String) (layout : Json.Layout)
    (data : Json.Value) :
    ((write h path layout data).2 = .done →
      ∃ place text, Completed path layout data h (write h path layout data).1 place text) ∧
    ((write h path layout data).2 ≠ .done → Abandoned path h (write h path layout data).1) := by
  rw [write]
  obtain ⟨hfailed, hdone⟩ := placed_writeOutput hc path (data.output layout 0)
  constructor
  · intro hending
    obtain ⟨hfault, hplaced⟩ := hdone hending
    obtain ⟨hshort, hdocument⟩ :=
      (data.agrees layout 0 (data.output layout 0).text).1 (by rw [← hfault])
    obtain ⟨place, hstands⟩ := stands_of_placed hplaced
    refine ⟨place, _, hdocument, hstands, Utf8.decode_encode _, ?_⟩
    intro hspaced hdistinct
    exact (hdistinct.isReadable hshort hdocument).parse_document hspaced hdocument
  · intro hending
    constructor
    · intro p node hbefore
      have hp := hfailed hending p
      split at hp
      · cases hbefore.symm.trans hp.1
      · rcases hp with hsame | ⟨hnone, -⟩
        · exact hsame.trans hbefore
        · cases hbefore.symm.trans hnone
    · intro p node hbefore hafter
      have hp := hfailed hending p
      split at hp
      · rename_i hleft
        exact Or.inr ⟨isTemporary_of_temporary? hleft.2, target?_ne_temporary? hleft.2⟩
      · rcases hp with hsame | ⟨-, hdir⟩
        · cases (hsame.trans hbefore).symm.trans hafter
        · exact Or.inl (Option.some.inj (hafter.symm.trans hdir))

/-- What a write leaves beside its target: something new that is no directory. -/
def LeftBehind (h : Host) (path : String) (layout : Json.Layout) (data : Json.Value) (p : Place)
    (node : Node) : Prop :=
  h.tree.get? p = none ∧ (write h path layout data).1.tree.get? p = some node ∧ node ≠ .directory ∧
    ¬((write h path layout data).2 = .done ∧ target? h path = some p)

instance (p : Place) (node : Node) : Decidable (LeftBehind h path layout data p node) := by
  unfold LeftBehind
  infer_instance

/-- Just where a value cannot be written to its end, the temporary file stays, with the text up to
there; in all other cases nothing is left behind. -/
theorem leftBehind_iff (hc : h.tree.Connected) (path : String) (layout : Json.Layout)
    (data : Json.Value) (p : Place) (node : Node) : LeftBehind h path layout data p node ↔
      ¬Writable layout data ∧ temporary? h path = some p ∧
        node = .file (Utf8.encode (data.output layout 0).text) h.stampTime := by
  rw [LeftBehind, write, ← fault_output_eq_none_iff]
  obtain ⟨hfailed, hdone⟩ := placed_writeOutput hc path (data.output layout 0)
  have hgrown : ∀ {after : Host}, h.tree.GrownAt p after.tree → h.tree.get? p = none →
      after.tree.get? p = some node → node = .directory := by
    rintro after (hsame | ⟨-, hdir⟩) hbefore hafter
    · cases (hsame.trans hbefore).symm.trans hafter
    · exact Option.some.inj (hafter.symm.trans hdir)
  constructor
  · rintro ⟨hbefore, hafter, hdirectory, hother⟩
    by_cases hending : (writeOutput h path (data.output layout 0)).2 = .done
    · obtain ⟨place, hstands⟩ := stands_of_placed (hdone hending).2
      have hp : p ≠ place := by
        rintro rfl
        exact hother ⟨hending, hstands.target⟩
      exact absurd (hgrown (hstands.others p hp) hbefore hafter) hdirectory
    · have hp := hfailed hending p
      split at hp
      · rename_i hleft
        exact ⟨hleft.1, hleft.2, Option.some.inj (hafter.symm.trans hp.2)⟩
      · exact absurd (hgrown hp hbefore hafter) hdirectory
  · rintro ⟨hfault, htemporary, rfl⟩
    have hending : (writeOutput h path (data.output layout 0)).2 ≠ .done :=
      fun hending => hfault (hdone hending).1
    have hp := hfailed hending p
    rw [if_pos ⟨hfault, htemporary⟩] at hp
    exact ⟨hp.1, hp.2, nofun, fun hboth => hending hboth.1⟩

/-- A machine with a file at the path that is written to. -/
def draftHost : Host where
  tree :=
    FileTree.empty.insert [⟨"o.json", by decide⟩] (.file (Utf8.encode "[]".toList) (.zero false))
  directory := "/"
  environment := []
  ownHome := "/"
  homes := []
  platform := "linux"
  now := ⟨⟨2023, 5, 17, by decide⟩, 10, 20, 0, 0, by decide⟩
  stamp := 0

/-- An object with something in it that has no text. -/
def unwritable : Json.Value := .object [("when", .foreign "object")]

theorem write_atomic_draftHost : draftHost.tree.Connected ∧
    ((write draftHost "o.json" (.export 2) .null).2 = .done ∧ ∃ place text,
      Completed "o.json" (.export 2) .null draftHost
        (write draftHost "o.json" (.export 2) .null).1 place
        text) ∧
    (write draftHost "o.json" (.export 2) unwritable).2 ≠ .done ∧
      Abandoned "o.json" draftHost (write draftHost "o.json" (.export 2) unwritable).1 := by
  have hc : draftHost.tree.Connected := by decide
  have hdone : (write draftHost "o.json" (.export 2) .null).2 = .done := by decide +kernel
  have hfailed : (write draftHost "o.json" (.export 2) unwritable).2 ≠ .done := by decide +kernel
  exact ⟨hc, ⟨hdone, (write_atomic hc "o.json" (.export 2) .null).1 hdone⟩, hfailed,
    (write_atomic hc "o.json" (.export 2) unwritable).2 hfailed⟩

theorem leftBehind_draftHost : draftHost.tree.Connected ∧
    LeftBehind draftHost "o.json" (.export 2) unwritable [⟨".tmp_00000000.json", by decide⟩]
      (.file (Utf8.encode "\x7b\n  \"when\": ".toList) draftHost.stampTime) := by
  have hc : draftHost.tree.Connected := by decide
  refine ⟨hc, (leftBehind_iff hc "o.json" (.export 2) unwritable _ _).2 ⟨?_, ?_, ?_⟩⟩
  · rw [← fault_output_eq_none_iff]
    decide
  · decide +kernel
  · decide +kernel

/-- A value without a text leaves its temporary file behind. -/
theorem leftBehind_unwritable : ¬∀ (h : Host) (path : String) (layout : Json.Layout)
    (data : Json.Value),
    h.tree.Connected → ∀ p node, ¬LeftBehind h path layout data p node := by
  intro hnone
  exact hnone draftHost "o.json" (.export 2) unwritable (by decide)
    [⟨".tmp_00000000.json", by decide⟩]
    (.file (Utf8.encode "\x7b\n  \"when\": ".toList) draftHost.stampTime) (by decide +kernel)

end ReminderScan.Export
