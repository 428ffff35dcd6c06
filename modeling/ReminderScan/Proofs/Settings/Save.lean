import ReminderScan.Proofs.Host.Edit
import ReminderScan.Proofs.Json.Output
import ReminderScan.Proofs.Settings.Load

/-! What a save of the settings leaves of the files. Their file is emptied before anything is
written to it, so a fault of the output would lose it; settings that were loaded know no such
fault. -/

namespace ReminderScan

open Text

theorem of_memberOr {P : Json.Value → Prop} (hP : Json.Inherited P) {v default found : Json.Value}
    {name : String} (hv : P v) (hdefault : P default) (hm : memberOr v name default = .ok found) :
    P found := by
  cases v with
  | object members =>
    obtain rfl := Except.ok.inj hm
    cases hl : Json.lookup? name members with
    | none => exact hdefault
    | some member => exact Json.of_lookup? (hP.members hv) hl
  | _ => cases hm

namespace Settings

/-- Those of the settings that are kept as they were given have a property. -/
structure Keeps (P : Json.Value → Prop) (s : Settings) : Prop where
  marker : P s.marker
  pruneOnRescan : P s.pruneOnRescan
  reportInvalid : P s.reportInvalid

theorem keeps_standard {P : Json.Value → Prop} (hP : Json.Inherited P) : Keeps P {} :=
  ⟨hP.text _, hP.bool _, hP.bool _⟩

theorem keeps_of_ofJson {P : Json.Value → Prop} (hP : Json.Inherited P) {h : Host} {v : Json.Value}
    {s : Settings} (hv : P v) (ho : ofJson h v = .ok s) : s.Keeps P := by
  obtain ⟨scan, reminders, hscan, hreminders, hmarker, hprune, hreport⟩ := given_of_ofJson ho
  have hscan := of_memberOr hP hv hP.empty hscan
  have hreminders := of_memberOr hP hv hP.empty hreminders
  exact ⟨of_memberOr hP hscan (hP.text _) hmarker, of_memberOr hP hreminders (hP.bool _) hprune,
    of_memberOr hP hreminders (hP.bool _) hreport⟩

theorem keeps_of_load {h : Host} {path : String} {s : Settings} (hl : load h path = .ok s) :
    s.Keeps Json.IsReadable := by
  obtain rfl | ⟨text, members, hparse, ho⟩ := eq_standard_or_of_load hl
  · exact keeps_standard Json.inherited_isReadable
  · exact keeps_of_ofJson Json.inherited_isReadable (Json.isReadable_of_parse hparse) ho

theorem Keeps.toJson {P : Json.Value → Prop} (hP : Json.Inherited P) {s : Settings}
    (hs : s.Keeps P) :
    P s.toJson := by
  apply hP.object (by simp)
  simp only [List.forall_mem_cons, List.not_mem_nil, false_implies, implies_true, and_true]
  refine ⟨?_, hP.object (by simp) ?_, hP.object (by simp) ?_, hP.object (by simp) ?_⟩
  · cases s.root with
    | none => exact hP.null
    | some root => exact hP.text root
  · simp only [List.forall_mem_cons, List.not_mem_nil, false_implies, implies_true, and_true]
    exact ⟨hP.list_map_text _, hP.list_map_text _, hs.marker⟩
  · simp only [List.forall_mem_cons, List.not_mem_nil, false_implies, implies_true, and_true]
    exact ⟨hP.text _, hs.pruneOnRescan, hs.reportInvalid⟩
  · exact List.forall_mem_singleton.2 (hP.real _)

/-- The bytes of a file that all of the settings are written to, if they can be. -/
def fileBytes (s : Settings) : Except Fault (List UInt8) :=
  match s.toJson.output .settings 0 with
  | ⟨text, none⟩ => .ok (Utf8.encode text)
  | ⟨_, some f⟩ => .error f

theorem fileBytes_eq_ok {s : Settings} {bytes : List UInt8} : s.fileBytes = .ok bytes ↔
    ∃ text, s.toJson.output .settings 0 = ⟨text, none⟩ ∧ Utf8.encode text = bytes := by
  rw [fileBytes]
  obtain ⟨text, _ | f⟩ := s.toJson.output .settings 0
  · simp
  · simp

theorem fileBytes_of_fault {s : Settings} (hnone : (s.toJson.output .settings 0).fault = none) :
    s.fileBytes = .ok (Utf8.encode (s.toJson.output .settings 0).text) := by
  refine fileBytes_eq_ok.2 ⟨_, ?_, rfl⟩
  rw [← hnone]

theorem Keeps.exists_fileBytes {s : Settings} (hs : s.Keeps Json.IsReadable) :
    ∃ bytes, s.fileBytes = .ok bytes := by
  have hread := hs.toJson Json.inherited_isReadable
  obtain ⟨text, htext⟩ := hread.isPlain.exists_document .settings
  have houtput := (s.toJson.agrees .settings 0 text).2 ⟨hread.hasLongNumber_eq_false, htext⟩
  exact ⟨_, fileBytes_eq_ok.2 ⟨text, houtput, rfl⟩⟩

/-- The path leads to a file that holds the settings. Apart from that file and from new directories
nothing is another than before. -/
def Saved (s : Settings) (path : String) (before after : Host) : Prop :=
  ∃ place bytes, s.fileBytes = .ok bytes ∧
    after.locate true (before.absoluteUser path) =
      .ok (.taken place (.file bytes before.stampTime)) ∧
    before.tree.GrownApart place after.tree

theorem Saved.of_prepared {s : Settings} {path : String} {h made after : Host}
    (hmade : h.Prepared made) (hs : s.Saved path made after) : s.Saved path h after := by
  obtain ⟨place, bytes, hbytes, hl, hapart⟩ := hs
  obtain ⟨tree, rfl⟩ := hmade.same
  exact ⟨place, bytes, hbytes, hl, hmade.grown.trans_apart hapart⟩

/-- Either the file cannot be opened, or all the output that there is goes to it. -/
theorem writeOutput_eq (h : Host) (path : String) (output : Json.Output) :
    (∃ f, writeOutput h path output = ⟨h, some f⟩) ∨
      ∃ written, h.writeFile path (Utf8.encode output.text) = .ok written ∧
        writeOutput h path output = ⟨written, output.fault⟩ := by
  cases hopen : h.writeFile path [] with
  | error f => exact Or.inl ⟨f, by rw [writeOutput, hopen]⟩
  | ok opened =>
    obtain ⟨written, hwrite, hagain⟩ := Host.writeFile_opened hopen (Utf8.encode output.text)
    refine Or.inr ⟨written, hwrite, ?_⟩
    rw [writeOutput, hopen]
    dsimp only
    rw [hagain]

/-- A save that fails has changed no file, if all of the settings can be written; one that is done
has written them. -/
theorem changes_save (s : Settings) (h : Host) (path : String) :
    ((∃ bytes, s.fileBytes = .ok bytes) → (s.save h path).fault ≠ none →
      h.tree.Grown (s.save h path).host.tree) ∧
    ((s.save h path).fault = none → s.Saved path h (s.save h path).host) := by
  unfold save Host.Attempt.andThen
  dsimp only
  have hmade := h.prepared_makeDirectories (Path.parent (h.absoluteUser path))
  generalize h.makeDirectories (Path.parent (h.absoluteUser path)) = made at hmade ⊢
  cases hfault : made.fault with
  | some f => exact ⟨fun _ _ => hmade.grown, fun hnone => nomatch hfault.symm.trans hnone⟩
  | none =>
    dsimp only
    rcases writeOutput_eq made.host (h.absoluteUser path) (s.toJson.output .settings 0) with
      ⟨f, hwrite⟩ | ⟨written, hw, hwrite⟩
    · rw [hwrite]
      exact ⟨fun _ _ => hmade.grown, nofun⟩
    · rw [hwrite]
      refine ⟨?_, fun hnone => Saved.of_prepared hmade ?_⟩
      · rintro ⟨bytes, hbytes⟩ hsome
        obtain ⟨text, houtput, -⟩ := fileBytes_eq_ok.1 hbytes
        exact absurd (congrArg Json.Output.fault houtput) hsome
      · obtain ⟨place, hfiled, -, hl⟩ := Host.filed_writeFile hw
        refine ⟨place, _, fileBytes_of_fault hnone, ?_, ?_⟩
        · rw [hmade.absoluteUser_eq]
          exact hl
        · exact fun p hp => Or.inl (hfiled.off p hp)

end Settings
end ReminderScan
