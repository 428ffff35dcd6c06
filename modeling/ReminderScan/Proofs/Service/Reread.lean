import Mathlib.Data.List.Dedup
import ReminderScan.Proofs.Service.Events

/-! Documents that are read again, one after another. With pruning each of them is known as it was
read last, and stands where it was read last. -/

namespace ReminderScan.Service

variable {h : Host} {path : String}

/-- Takes what a document holds now for known. With pruning it takes the place of what was known of
the document, without it is added to that. -/
def reread (s : Service) (h : Host) (path : String) : Service :=
  s.withStore
    ((if s.settings.pruneOnRescan.isTruthy then s.store.removeFile path else s.store).append
    (h.remindersIn s.settings.defaultTime path))

/-- There is a reminder in the document. There is none in one that cannot be read. -/
def finds (s : Service) (h : Host) (path : String) : Bool :=
  !(h.remindersIn s.settings.defaultTime path).isEmpty

/-- What documents hold when they are read again is known when all of them are read. -/
theorem mem_foldl_reread {s : Service} {h : Host} {paths : List String} {r : Reminder}
    (hholds : r ∈ h.remindersIn s.settings.defaultTime r.file)
    (hr : r ∈ s.store.toList ∨ r.file ∈ paths) :
    r ∈ (paths.foldl (·.reread h ·) s).store.toList := by
  induction paths generalizing s with
  | nil => exact hr.resolve_right List.not_mem_nil
  | cons path rest ih =>
    rw [List.foldl_cons]
    refine ih (s := s.reread h path) hholds ?_
    by_cases hpath : r.file = path
    · subst hpath
      exact Or.inl (List.mem_append_right _ hholds)
    · refine hr.imp (fun hknown => List.mem_append_left _ ?_)
        fun hlater => (List.mem_cons.1 hlater).resolve_left hpath
      split
      · exact List.mem_filter.2 ⟨hknown, decide_eq_true hpath⟩
      · exact hknown

/-- Serves triggers one after another, and keeps what each of them leaves. -/
def trail (s : Service) (h : Host) : List (Trigger × String) → List (Outcome Bool)
  | [] => []
  | (trigger, path) :: rest =>
    let first := s.documentChanged h trigger path
    first :: first.service.trail h rest

theorem length_trail (s : Service) (calls : List (Trigger × String)) :
    (s.trail h calls).length = calls.length := by
  induction calls generalizing s with
  | nil => rfl
  | cons call rest ih => exact congrArg Nat.succ (ih _)

theorem documentChanged_eq_reread (s : Service) (hr : h.IsRooted) (trigger : Trigger)
    (path : String) :
    (s.documentChanged h trigger path).service = s.reread h (h.absolute path) := by
  rw [documentChanged_service s hr trigger path, store_prune, reread, withStore, withStore,
    settings_prune]

theorem documentChanged_answer_eq (s : Service) (hr : h.IsRooted) (trigger : Trigger)
    (hnul : '\x00' ∉ (h.absolute path).toList) :
    (s.documentChanged h trigger path).answer = .ok (s.finds h (h.absolute path)) := by
  have hself := Host.absolute_absolute hr path
  rw [documentChanged]
  generalize h.absolute path = file at hself hnul ⊢
  have hscan : ((s.prune file).1.scanFile h file true).answer = .ok (s.finds h file) ∨
      (∃ reason, ((s.prune file).1.scanFile h file true).answer =
        .error (.unreadable file reason)) ∧
        s.finds h file = false := by
    rw [scanFile, hself]
    cases hd : h.readDocument file with
    | ok text =>
      have ht := Host.text?_eq_some_iff.2 hd
      refine Or.inl ?_
      simp only [scanLines, finds, Host.remindersIn, ht, ← Document.reminders_eq_annotations]
      rw [WorkspaceScan.rules, settings_prune]
      rfl
    | error f =>
      obtain ⟨reason, rfl⟩ := Host.readDocument_error hnul hd
      have ht : h.text? file = none := by rw [Host.text?, hd]; rfl
      refine Or.inr ⟨⟨reason, rfl⟩, ?_⟩
      simp [finds, Host.remindersIn, ht]
  dsimp only
  rcases hscan with hanswer | ⟨⟨reason, hanswer⟩, hnone⟩
  · rw [hanswer]
  · rw [hanswer, hnone]

theorem answers_trail (s : Service) (hr : h.IsRooted) {calls : List (Trigger × String)}
    (hnul : ∀ c ∈ calls, '\x00' ∉ (h.absolute c.2).toList) : (s.trail h calls).map Outcome.answer =
      calls.map fun c => .ok (s.finds h (h.absolute c.2)) := by
  induction calls generalizing s with
  | nil => rfl
  | cons call rest ih =>
    obtain ⟨hfirst, hrest⟩ := List.forall_mem_cons.1 hnul
    rw [trail, List.map_cons, List.map_cons, s.documentChanged_answer_eq hr call.1 hfirst,
      s.documentChanged_eq_reread hr call.1 call.2, ih (s.reread h (h.absolute call.2)) hrest]
    rfl

theorem toList_foldl_reread {s : Service} (hkeep : s.settings.pruneOnRescan.isTruthy = false)
    (paths : List String) : (paths.foldl (·.reread h ·) s).store.toList =
      s.store.toList ++ paths.flatMap (h.remindersIn s.settings.defaultTime) := by
  induction paths generalizing s with
  | nil => simp
  | cons path rest ih =>
    have hfirst : (s.reread h path).store.toList =
        s.store.toList ++ h.remindersIn s.settings.defaultTime path := by
      rw [reread, hkeep]
      rfl
    rw [List.foldl_cons, ih (s := s.reread h path) hkeep, hfirst, List.flatMap_cons,
      List.append_assoc]
    rfl

/-- What a document holds counts unless the document is named once more behind it. -/
theorem flatMap_dedup_cons (h : Host) (defaultTime path : String) (rest : List String) :
    (path :: rest).dedup.flatMap (h.remindersIn defaultTime) =
      (h.remindersIn defaultTime path).filter (·.file ∉ rest) ++
        rest.dedup.flatMap (h.remindersIn defaultTime) := by
  by_cases hagain : path ∈ rest
  · rw [List.dedup_cons_of_mem hagain, List.filter_eq_nil_iff.2, List.nil_append]
    intro r hmem
    rw [Host.file_of_mem_remindersIn hmem]
    simpa using hagain
  · rw [List.dedup_cons_of_notMem hagain, List.flatMap_cons, List.filter_eq_self.2]
    intro r hmem
    rw [Host.file_of_mem_remindersIn hmem]
    simpa using hagain

/-- With pruning only the last reading of a document counts. -/
theorem toList_foldl_reread_of_prune {s : Service}
    (hprune : s.settings.pruneOnRescan.isTruthy = true)
    (paths : List String) : (paths.foldl (·.reread h ·) s).store.toList =
      s.store.toList.filter (·.file ∉ paths) ++
        paths.dedup.flatMap (h.remindersIn s.settings.defaultTime) := by
  induction paths generalizing s with
  | nil => simp
  | cons path rest ih =>
    have hfirst : (s.reread h path).store.toList =
        s.store.toList.filter (·.file ≠ path) ++ h.remindersIn s.settings.defaultTime path := by
      rw [reread, hprune]
      rfl
    have hbefore : (s.store.toList.filter (·.file ≠ path)).filter (·.file ∉ rest) =
        s.store.toList.filter (·.file ∉ path :: rest) := by
      rw [List.filter_filter]
      refine List.filter_congr fun r _ => ?_
      simp [Bool.and_comm]
    rw [List.foldl_cons, ih (s := s.reread h path) hprune, hfirst, List.filter_append, hbefore,
      List.append_assoc, flatMap_dedup_cons]
    rfl

theorem settings_foldl_reread (s : Service) (paths : List String) :
    (paths.foldl (·.reread h ·) s).settings = s.settings := by
  induction paths generalizing s with
  | nil => rfl
  | cons path rest ih => exact ih (s.reread h path)

/-- With pruning, each file that is read again holds what it holds now, and every other what it
held. -/
theorem ofFile_foldl_reread {s : Service} (hprune : s.settings.pruneOnRescan.isTruthy = true)
    (paths : List String) (file : String) : (paths.foldl (·.reread h ·) s).store.ofFile file =
      if file ∈ paths then h.remindersIn s.settings.defaultTime file else s.store.ofFile file := by
  rw [Store.ofFile, toList_foldl_reread_of_prune hprune, List.filter_append,
    Store.filter_flatMap_remindersIn h _ _ (List.nodup_dedup paths), List.filter_filter]
  by_cases hread : file ∈ paths
  · rw [if_pos hread, if_pos (List.mem_dedup.2 hread), List.filter_eq_nil_iff.2, List.nil_append]
    intro r _ hboth
    simp only [Bool.and_eq_true, decide_eq_true_eq] at hboth
    obtain ⟨rfl, hnot⟩ := hboth
    exact hnot hread
  · rw [if_neg hread, if_neg (mt List.mem_dedup.1 hread), List.append_nil]
    apply List.filter_congr
    intro r _
    by_cases hfile : r.file = file
    · simp [hfile, hread]
    · simp [hfile]

theorem isReport_trail (s : Service) (h : Host) (calls : List (Trigger × String)) :
    ((s.trail h calls).flatMap Outcome.events).all Event.isReport = true := by
  induction calls generalizing s with
  | nil => rfl
  | cons call rest ih =>
    rw [trail, List.flatMap_cons, List.all_append, isReport_documentChanged, ih]
    rfl

end ReminderScan.Service
