import ReminderScan.Proofs.Service.Reread
import ReminderScan.Watcher

/-! What a look at a workspace sees, how it differs from the look before, and what serving the
differences does to the store. -/

namespace ReminderScan

def Host.modified? (h : Host) (path : String) : Option Number.Binary64 :=
  match h.openFile path with
  | .ok (_, modified) => some modified
  | .error _ => none

/-- A file that cannot be opened holds nothing. -/
theorem Host.remindersIn_of_modified? {h : Host} {path : String} (hm : h.modified? path = none)
    (defaultTime : String) : h.remindersIn defaultTime path = [] := by
  have ht : h.text? path = none := by
    unfold modified? at hm
    split at hm
    · simp at hm
    · next f ho =>
      simp [text?, readDocument, readText, ho, bind, Except.bind, Except.toOption]
  simp [remindersIn, ht]

namespace Watcher
variable {w : Watcher} {h : Host} {files : List String} {before now : Snapshot} {path : String}

theorem snapshot_eq (hc : candidates h w.root w.extensions w.excluded = .ok files) :
    w.snapshot h = .ok (files.filterMap fun path => (h.modified? path).map (path, ·)) := by
  rw [snapshot, hc]
  simp only [bind, Except.bind]
  congr 2
  funext path
  unfold Host.modified?
  cases h.openFile path <;> rfl

theorem candidates_of_snapshot (hs : w.snapshot h = .ok now) :
    ∃ files, candidates h w.root w.extensions w.excluded = .ok files := by
  cases hc : candidates h w.root w.extensions w.excluded with
  | error f => simp [snapshot, hc, bind, Except.bind] at hs
  | ok files => exact ⟨files, rfl⟩

theorem lookup_filterMap (time : String → Option Number.Binary64) (files : List String)
    (path : String) :
    (files.filterMap fun p => (time p).map (p, ·)).lookup path =
      if path ∈ files then time path else none := by
  induction files with
  | nil => simp
  | cons p rest ih =>
    by_cases he : path = p
    · subst he
      cases ht : time path with
      | none => simp [ht, ih]
      | some m => simp [ht]
    · have hne : (path == p) = false := by simpa using he
      cases ht : time p with
      | none => simp [ht, ih, he]
      | some m => simp [ht, ih, he, List.lookup_cons, hne]

/-- Of each file that can be opened a look sees its time of change, and nothing of others. -/
theorem lookup_snapshot (hc : candidates h w.root w.extensions w.excluded = .ok files)
    (hs : w.snapshot h = .ok now) (path : String) :
    now.lookup path = if path ∈ files then h.modified? path else none := by
  obtain rfl := Except.ok.inj ((snapshot_eq hc).symm.trans hs)
  exact lookup_filterMap h.modified? files path

theorem listed_of_lookup (hc : candidates h w.root w.extensions w.excluded = .ok files)
    (hs : w.snapshot h = .ok now) (hp : now.lookup path ≠ none) :
    path ∈ files ∧ h.modified? path ≠ none := by
  rw [lookup_snapshot hc hs] at hp
  split at hp
  · next hfile => exact ⟨hfile, hp⟩
  · exact absurd rfl hp

theorem mem_snapshot (hc : candidates h w.root w.extensions w.excluded = .ok files)
    (hs : w.snapshot h = .ok now) {m : Number.Binary64} :
    (path, m) ∈ now ↔ now.lookup path = some m := by
  rw [lookup_snapshot hc hs]
  obtain rfl := Except.ok.inj ((snapshot_eq hc).symm.trans hs)
  constructor
  · intro hmem
    obtain ⟨p, hp, ht⟩ := List.mem_filterMap.1 hmem
    obtain ⟨m', hm', he⟩ := Option.map_eq_some_iff.1 ht
    cases he
    rwa [if_pos hp]
  · intro ht
    split at ht
    · next hp => exact List.mem_filterMap.2 ⟨path, hp, by rw [ht]; rfl⟩
    · simp at ht

theorem mem_opened : path ∈ (changes before now).opened ↔
    before.lookup path = none ∧ ∃ m, (path, m) ∈ now := by
  simp only [changes, List.mem_map, List.mem_filter, Option.isNone_iff_eq_none]
  constructor
  · rintro ⟨⟨p, m⟩, ⟨hmem, hnone⟩, rfl⟩
    exact ⟨hnone, m, hmem⟩
  · rintro ⟨hnone, m, hmem⟩
    exact ⟨(path, m), ⟨hmem, hnone⟩, rfl⟩

theorem mem_saved : path ∈ (changes before now).saved ↔
    ∃ old m, before.lookup path = some old ∧ (path, m) ∈ now ∧ m ≠ old := by
  simp only [changes, List.mem_map, List.mem_filter]
  constructor
  · rintro ⟨⟨p, m⟩, ⟨hmem, hne⟩, rfl⟩
    split at hne
    · simp at hne
    · next old hold => exact ⟨old, m, hold, hmem, by simpa using hne⟩
  · rintro ⟨old, m, hold, hmem, hne⟩
    exact ⟨(path, m), ⟨hmem, by simpa [hold] using hne⟩, rfl⟩

/-- A listed file that a look does not see holds nothing. -/
theorem remindersIn_eq_of_lookup (hc : candidates h w.root w.extensions w.excluded = .ok files)
    (hs : w.snapshot h = .ok now) (defaultTime path : String) :
    (if path ∈ files then h.remindersIn defaultTime path else []) =
      if now.lookup path = none then [] else h.remindersIn defaultTime path := by
  rw [lookup_snapshot hc hs]
  split
  · split
    · next hm => exact Host.remindersIn_of_modified? hm defaultTime
    · rfl
  · rfl

def Sees (w : Watcher) (h : Host) (file : String) : Prop :=
  ∃ now, w.snapshot h = .ok now ∧ file ∈ now.map (·.1)

theorem sees_iff (hs : w.snapshot h = .ok now) : w.Sees h path ↔ now.lookup path ≠ none := by
  obtain ⟨files, hc⟩ := candidates_of_snapshot hs
  have hmem : path ∈ now.map (·.1) ↔ ∃ m, (path, m) ∈ now := by simp
  constructor
  · rintro ⟨_, hs', hp⟩
    obtain rfl := Except.ok.inj (hs.symm.trans hs')
    obtain ⟨m, hm⟩ := hmem.1 hp
    rw [(mem_snapshot hc hs).1 hm]
    simp
  · intro hsome
    obtain ⟨m, hm⟩ := Option.ne_none_iff_exists'.1 hsome
    exact ⟨now, hs, hmem.2 ⟨m, (mem_snapshot hc hs).2 hm⟩⟩

/-- A file is new or changed if it has a time of change, and not the one it had. -/
theorem mem_changes (hnow : ∀ m, (path, m) ∈ now ↔ now.lookup path = some m) :
    path ∈ (changes before now).opened ++ (changes before now).saved ↔
      now.lookup path ≠ none ∧ now.lookup path ≠ before.lookup path := by
  simp only [List.mem_append, mem_opened, mem_saved, hnow]
  cases now.lookup path <;> cases before.lookup path <;> simp

end Watcher

/-- The triggers for what a look found, the new files first. -/
def Changes.triggers (c : Changes) : List (Trigger × String) :=
  c.opened.map (Trigger.opened, ·) ++ c.saved.map (Trigger.saved, ·)

theorem Changes.paths_triggers (c : Changes) : c.triggers.map (·.2) = c.opened ++ c.saved := by
  simp [triggers, Function.comp_def]

namespace Service

variable {h : Host} {calls : List (Trigger × String)}

theorem serveAll_eq (s : Service) (hr : h.IsRooted)
    (hcalls : ∀ c ∈ calls, h.absolute c.2 = c.2 ∧ '\x00' ∉ c.2.toList) :
    s.serveAll h calls = ⟨.ok (), (calls.map (·.2)).foldl (·.reread h ·) s,
      (s.trail h calls).flatMap Outcome.events⟩ := by
  induction calls generalizing s with
  | nil => rfl
  | cons call rest ih =>
    obtain ⟨trigger, path⟩ := call
    obtain ⟨⟨hself, hnul⟩, hrest⟩ := List.forall_mem_cons.1 hcalls
    have hanswer := documentChanged_answer_eq s hr trigger (hself.symm ▸ hnul)
    have hservice := documentChanged_eq_reread s hr trigger path
    rw [hself] at hanswer hservice
    rw [serveAll, trail, hservice]
    simp only [hanswer, ih (s.reread h path) hrest]
    rfl

theorem dispatch_eq (s : Service) (hr : h.IsRooted) {c : Changes}
    (hcalls : ∀ call ∈ c.triggers, h.absolute call.2 = call.2 ∧ '\x00' ∉ call.2.toList) :
    s.dispatch h c = ⟨.ok (s.trail h c.triggers).length,
      (c.opened ++ c.saved).foldl (·.reread h ·) s,
      (s.trail h c.triggers).flatMap Outcome.events⟩ := by
  have hserved := s.serveAll_eq hr hcalls
  have hcount : (s.trail h c.triggers).length = c.opened.length + c.saved.length := by
    rw [length_trail, Changes.triggers, List.length_append, List.length_map, List.length_map]
  rw [c.paths_triggers, Changes.triggers] at hserved
  rw [dispatch, hserved, hcount]
  rfl

/-- Serving what a look found reads all of it anew. -/
theorem dispatch_store (s : Service) (hr : h.IsRooted)
    (hprune : s.settings.pruneOnRescan.isTruthy = true) {c : Changes}
    (hpaths : ∀ path ∈ c.opened ++ c.saved, h.absolute path = path ∧ '\x00' ∉ path.toList) :
    (∃ count, (s.dispatch h c).answer = .ok count) ∧
    (s.dispatch h c).service.settings = s.settings ∧
    ∀ file, (s.dispatch h c).service.store.ofFile file =
      if file ∈ c.opened ++ c.saved then h.remindersIn s.settings.defaultTime file
      else s.store.ofFile file := by
  have hcalls : ∀ call ∈ c.triggers, h.absolute call.2 = call.2 ∧ '\x00' ∉ call.2.toList := by
    intro call hcall
    apply hpaths
    rw [← c.paths_triggers]
    exact List.mem_map_of_mem hcall
  rw [s.dispatch_eq hr hcalls]
  exact ⟨⟨_, rfl⟩, s.settings_foldl_reread _, ofFile_foldl_reread hprune _⟩

end Service
end ReminderScan
