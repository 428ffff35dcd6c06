import ReminderScan.Proofs.Settings.RoundTrip
import ReminderScan.Proofs.Workspace.Scan

/-! What a search of a directory answers under settings of any form that a reading accepts. It runs
to its end unless a marker that is no text has to be looked for in a document. Then it stops at the
first document that can be read, and all that was known before is gone. -/

namespace ReminderScan

namespace WorkspaceScan

/-- The marker counts as true and is no text. -/
def Unsearchable (marker : Json.Value) : Prop :=
  marker.isTruthy = true ∧ ∀ text, marker ≠ .text text

variable {marker : Json.Value}

theorem holdsMarker_of_unsearchable (hm : Unsearchable marker) (document : List Char) :
    holdsMarker marker document = .error (.notSearchable marker.kindName) := by
  rw [holdsMarker.eq_def, hm.1]
  cases marker with
  | text s => exact absurd rfl (hm.2 s)
  | _ => rfl

theorem holdsMarker_of_not_truthy (hm : marker.isTruthy = false) (document : List Char) :
    holdsMarker marker document = .ok false := by
  rw [holdsMarker.eq_def, hm]
  rfl

/-- Each document can be told to opt out or not, if a marker that cannot be searched meets none that
can be read. -/
theorem exists_decides {h : Host} {files : List String}
    (hm : ¬(Unsearchable marker ∧ ∃ path ∈ files, h.isReadable path = true)) :
    ∃ out, ∀ path ∈ files, h.Decides marker out path := by
  by_cases htext : ∃ m, marker = .text m
  · obtain ⟨m, htext⟩ := htext
    exact ⟨_, fun path _ => h.decides_isOptedOut htext path⟩
  · refine ⟨fun _ => false, fun path hpath => ⟨?_, fun ho => Bool.noConfusion ho⟩⟩
    intro text ht
    cases htruthy : marker.isTruthy with
    | false => exact holdsMarker_of_not_truthy htruthy text
    | true =>
      exfalso
      apply hm
      refine ⟨⟨htruthy, not_exists.1 htext⟩, path, hpath, ?_⟩
      rw [Host.isReadable, ht, Option.isSome_some]

end WorkspaceScan

namespace Search

variable {h : Host} {s : Settings}

/-- The first document that can be read ends the search; nothing was added before. -/
theorem visitAll_of_unsearchable (hm : WorkspaceScan.Unsearchable s.marker) {files : List String}
    (hnul : ∀ path ∈ files, '\x00' ∉ path.toList) (hread : ∃ path ∈ files, h.isReadable path = true)
    (p : Search) : ∃ q, visitAll h s p files = (q, some (.notSearchable s.marker.kindName)) ∧
      q.store = p.store := by
  induction files generalizing p with
  | nil =>
    obtain ⟨path, hpath, -⟩ := hread
    cases hpath
  | cons path rest ih =>
    obtain ⟨hfirst, hnuls⟩ := List.forall_mem_cons.1 hnul
    cases hd : h.readDocument path with
    | ok text =>
      refine ⟨p, ?_, rfl⟩
      rw [visitAll, visit, hd]
      dsimp only
      rw [WorkspaceScan.holdsMarker_of_unsearchable hm]
    | error f =>
      obtain ⟨reason, rfl⟩ := Host.readDocument_error hfirst hd
      have hrest : ∃ other ∈ rest, h.isReadable other = true := by
        obtain ⟨other, hother, hreadable⟩ := hread
        rcases List.mem_cons.1 hother with rfl | hother
        · rw [Host.isReadable, Host.text?, hd] at hreadable
          cases hreadable
        · exact ⟨other, hother, hreadable⟩
      obtain ⟨q, hq, hstore⟩ := ih hnuls hrest (p.fail path (.unreadable path reason))
      refine ⟨q, ?_, hstore⟩
      rw [visitAll, visit, hd]
      exact hq

end Search

namespace Service

variable {h g : Host} {root : String} {files : List String} {s : Service}

theorem scanRoot_of_unsearchable (hr : h.IsRooted) (hne : root ≠ "")
    (hd : h.isDirectory (h.absoluteUser root) = true)
    (hc : candidates h (h.absoluteUser root) s.settings.extensions s.settings.excluded = .ok files)
    (hm : WorkspaceScan.Unsearchable s.settings.marker)
    (hread : ∃ path ∈ files, h.isReadable path = true) :
    (s.scanRoot h (some root)).answer = .error (.notSearchable s.settings.marker.kindName) ∧
    (s.scanRoot h (some root)).service.store = .empty := by
  have hnul := nul_not_mem_absoluteUser hr hd
  obtain ⟨search, hall, hstore⟩ := Search.visitAll_of_unsearchable hm
    (fun path hp => nul_not_mem_candidate hnul hc hp) hread _
  rw [scanRoot_eq hne hd hc hall]
  exact ⟨rfl, hstore⟩

/-- Whatever the settings were read from, a search of a directory runs to its end and tells the
files that cannot be read, unless a marker that is no text meets a document that can be read. In
that case the fault of the first such document is the answer, and no reminder is left. -/
theorem scanWorkspace_answer {v : Json.Value} {settings : Settings}
    (hs : Settings.ofJson g v = .ok settings) (store : Store) (hr : h.IsRooted) (hne : root ≠ "")
    (hd : h.isDirectory (h.absoluteUser root) = true) :
    ∃ members marker files, memberOr v "scan" (.object []) = .ok members ∧
      memberOr members "exclude_marker" (.text standardMarker) = .ok marker ∧
      candidates h (h.absoluteUser root) settings.extensions settings.excluded = .ok files ∧
      (¬(WorkspaceScan.Unsearchable marker ∧ ∃ path ∈ files, h.isReadable path = true) →
        ∃ scan, (scanWorkspace ⟨settings, store⟩ h (some root)).answer = .ok (some scan) ∧
          scan.failedPaths = (files.filter fun path => !h.isReadable path) ∧
          scan.failed = scan.failedPaths.length ∧
          scan.scanned + scan.skipped + scan.failed = files.length) ∧
      (WorkspaceScan.Unsearchable marker → (∃ path ∈ files, h.isReadable path = true) →
        (scanWorkspace ⟨settings, store⟩ h (some root)).answer =
          .error (.notSearchable marker.kindName) ∧
          (scanWorkspace ⟨settings, store⟩ h (some root)).service.store = .empty) := by
  obtain ⟨members, _, hmembers, -, hmarker, -⟩ := Settings.given_of_ofJson hs
  obtain ⟨files, hc⟩ :
      ∃ files, candidates h (h.absoluteUser root) settings.extensions settings.excluded =
        .ok files :=
    exists_candidates (nul_not_mem_absoluteUser hr hd)
  refine ⟨members, settings.marker, files, hmembers, hmarker, hc, ?_, ?_⟩
  · intro hm
    obtain ⟨out, hout⟩ := WorkspaceScan.exists_decides hm
    obtain ⟨search, hcovers, hscan⟩ := scanRoot_covers (s := ⟨settings, store⟩) hr hne hd hc hout
    refine ⟨search.scan, congrArg Outcome.answer hscan, hcovers.failedPaths, ?_,
      Search.counts_of_covers hcovers hout⟩
    rw [hcovers.failed, hcovers.failedPaths, List.countP_eq_length_filter]
  · intro hm hread
    exact scanRoot_of_unsearchable (s := ⟨settings, store⟩) hr hne hd hc hm hread

def markerJson (marker : Json.Value) : Json.Value :=
  .object [("scan", .object [("exclude_marker", marker)])]

/-- A marker of zero is no text, but counts as none. -/
theorem scanWorkspace_answer_zero :
    mixedHost.IsRooted ∧ mixedHost.isDirectory (mixedHost.absoluteUser "/w") = true ∧
    ∃ settings scan, Settings.ofJson mixedHost (markerJson (.int 0)) = .ok settings ∧
      (scanWorkspace ⟨settings, .empty⟩ mixedHost (some "/w")).answer = .ok (some scan) ∧
      scan.failed = scan.failedPaths.length := by
  have hr : mixedHost.IsRooted := by decide
  have hd : mixedHost.isDirectory (mixedHost.absoluteUser "/w") = true := by decide +kernel
  obtain ⟨settings, hs⟩ :
      ∃ settings, Settings.ofJson mixedHost (markerJson (.int 0)) = .ok settings :=
    ⟨_, rfl⟩
  obtain ⟨members, marker, files, hmembers, hmarker, -, hanswer, -⟩ :=
    scanWorkspace_answer hs .empty hr (by decide) hd
  obtain rfl := Except.ok.inj hmembers
  obtain rfl := Except.ok.inj hmarker
  obtain ⟨scan, hscan, -, hfailed, -⟩ := hanswer fun hm => Bool.noConfusion hm.1.1
  exact ⟨hr, hd, settings, scan, hs, hscan, hfailed⟩

/-- A machine with one document in a directory. -/
def loneHost : Host :=
  { mixedHost with
    tree := {
      nodes := [([folderName], .directory), ([folderName, noteName], .file [0x78] (.zero false))]
      distinct := by decide } }

/-- A marker of one is accepted, and ends the search with a fault. -/
theorem scanWorkspace_answer_one :
    loneHost.isDirectory (loneHost.absoluteUser "/w") = true ∧
    ∃ settings, Settings.ofJson loneHost (markerJson (.int 1)) = .ok settings ∧
      (scanWorkspace ⟨settings, .empty⟩ loneHost (some "/w")).answer =
        .error (.notSearchable "int") := by
  refine ⟨by decide +kernel, _, rfl, ?_⟩
  decide +kernel

end Service
end ReminderScan
