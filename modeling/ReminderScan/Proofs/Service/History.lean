import ReminderScan.Proofs.Service.Trigger

/-! What the store holds of a file after any row of triggers: all that was recorded since the last
trigger that dropped what was there. The triggers may come at different states of the machine, with
pruning switched on and off between them. -/

namespace ReminderScan

/-- A trigger: a search of a workspace, the given one or the one of the settings, or a document that
was saved or opened. -/
inductive Call where
  | search (root : Option String)
  | document (trigger : Trigger) (path : String)

/-- A trigger, with the machine and the setting for pruning as they are at that time. -/
structure Moment where
  host : Host
  prune : Json.Value
  call : Call

namespace Moment

/-- Whether the trigger drops what was known of a file. -/
def drops (settings : Settings) (file : String) (m : Moment) : Bool :=
  match m.call with
  | .search root => (m.host.searched? (root.or settings.root)).isSome
  | .document _ path => m.prune.isTruthy && m.host.absolute path = file

def recorded (settings : Settings) (marker file : String) (m : Moment) : List Reminder :=
  match m.call with
  | .document _ path =>
    if m.host.absolute path = file then m.host.remindersIn settings.defaultTime file else []
  | .search root =>
    match m.host.searched? (root.or settings.root) with
    | none => []
    | some top =>
      match candidates m.host top settings.extensions settings.excluded with
      | .error _ => []
      | .ok files =>
        if file ∈ files ∧ m.host.isOptedOut marker file = false then
          m.host.remindersIn settings.defaultTime file
        else []

end Moment

namespace Service

def withPrune (s : Service) (prune : Json.Value) : Service :=
  { s with settings := { s.settings with pruneOnRescan := prune } }

@[simp] theorem store_withPrune (s : Service) (prune : Json.Value) :
    (s.withPrune prune).store = s.store := rfl

@[simp] theorem root_withPrune (s : Service) (prune : Json.Value) :
    (s.withPrune prune).settings.root = s.settings.root := rfl

@[simp] theorem pruneOnRescan_withPrune (s : Service) (prune : Json.Value) :
    (s.withPrune prune).settings.pruneOnRescan = prune := rfl

@[simp] theorem marker_withPrune (s : Service) (prune : Json.Value) :
    (s.withPrune prune).settings.marker = s.settings.marker := rfl

@[simp] theorem drops_withPrune (s : Service) (prune : Json.Value) :
    Moment.drops (s.withPrune prune).settings = Moment.drops s.settings := rfl

@[simp] theorem recorded_withPrune (s : Service) (prune : Json.Value) :
    Moment.recorded (s.withPrune prune).settings = Moment.recorded s.settings := rfl

def serve (s : Service) (m : Moment) : Service :=
  match m.call with
  | .search root => ((s.withPrune m.prune).scanWorkspace m.host root).service
  | .document trigger path => ((s.withPrune m.prune).documentChanged m.host trigger path).service

theorem settings_serve (s : Service) {m : Moment} (hr : m.host.IsRooted) {marker : String}
    (hm : s.settings.marker = .text marker) :
    (s.serve m).settings = (s.withPrune m.prune).settings := by
  unfold serve
  split
  · next root hcall =>
    rw [scanWorkspace_eq]
    cases hfound : m.host.searched? (root.or (s.withPrune m.prune).settings.root) with
    | none => rw [scanRoot_of_missing _ hfound]
    | some top =>
      have hout := m.host.decides_isOptedOut hm
      obtain ⟨files, hc⟩ :=
        candidates_of_searched? hr hfound s.settings.extensions s.settings.excluded
      exact (scanRoot_of_found (s.withPrune m.prune) hr hfound hc fun path _ => hout path).2.1
  · rw [documentChanged_settings _ hr]

/-- One trigger drops what was known of a file or keeps it, and adds what it records of it. -/
theorem ofFile_serve (s : Service) {m : Moment} (hr : m.host.IsRooted) {marker : String}
    (hm : s.settings.marker = .text marker) (file : String) :
    (s.serve m).store.ofFile file =
      (if m.drops s.settings file then [] else s.store.ofFile file) ++
        m.recorded s.settings marker file := by
  cases hcall : m.call with
  | search root =>
    rcases hfound : m.host.searched? (root.or s.settings.root) with _ | top
    · simp only [serve, scanWorkspace_eq, root_withPrune, Moment.drops, Moment.recorded, hcall,
        hfound]
      rw [scanRoot_of_missing (s.withPrune m.prune) hfound]
      simp
    · have hout := m.host.decides_isOptedOut hm
      obtain ⟨files, hc⟩ :=
        candidates_of_searched? hr hfound s.settings.extensions s.settings.excluded
      obtain ⟨-, -, hstore⟩ :=
        scanRoot_of_found (s.withPrune m.prune) hr hfound hc fun path _ => hout path
      simp only [serve, scanWorkspace_eq, Moment.drops, Moment.recorded, hcall, hfound, hc,
        Option.isSome_some, if_true, List.nil_append]
      exact hstore file
  | document trigger path =>
    simp only [serve, Moment.drops, Moment.recorded, hcall]
    rw [documentChanged_store _ hr, Store.ofFile_append, Store.filter_remindersIn,
      pruneOnRescan_withPrune, store_withPrune]
    generalize m.host.absolute path = changed
    congr 1
    by_cases hp : changed = file
    · subst hp
      split <;> simp_all [Store.ofFile_removeFile_self]
    · have hne : file ≠ changed := fun e => hp e.symm
      split <;> simp [hp, Store.ofFile_removeFile_of_ne _ hne]

theorem settings_foldl_serve (s : Service) {marker : String} (hm : s.settings.marker = .text marker)
    {moments : List Moment} (hr : ∀ m ∈ moments, m.host.IsRooted) :
    ∃ prune, (moments.foldl serve s).settings = (s.withPrune prune).settings := by
  induction moments generalizing s with
  | nil => exact ⟨s.settings.pruneOnRescan, rfl⟩
  | cons m rest ih =>
    have hfirst := settings_serve s (hr m List.mem_cons_self) hm
    obtain ⟨prune, hrest⟩ := ih (s.serve m) (by rw [hfirst]; exact hm)
      fun n hn => hr n (List.mem_cons_of_mem m hn)
    refine ⟨prune, hrest.trans ?_⟩
    rw [withPrune, hfirst]
    rfl

/-- As long as nothing is dropped, what is recorded adds up. -/
theorem ofFile_foldl_serve (s : Service) {marker : String} (hm : s.settings.marker = .text marker)
    {moments : List Moment} (hr : ∀ m ∈ moments, m.host.IsRooted) {file : String}
    (hkept : ∀ m ∈ moments, m.drops s.settings file = false) :
    (moments.foldl serve s).store.ofFile file =
      s.store.ofFile file ++ moments.flatMap (Moment.recorded s.settings marker file) := by
  induction moments generalizing s with
  | nil => simp
  | cons m rest ih =>
    have hroot := hr m List.mem_cons_self
    have hfirst := settings_serve s hroot hm
    have hstep := ofFile_serve s hroot hm file
    rw [hkept m List.mem_cons_self] at hstep
    have hrest := ih (s.serve m) (by rw [hfirst]; exact hm)
      (fun n hn => hr n (List.mem_cons_of_mem m hn))
      (fun n hn => by rw [hfirst]; exact hkept n (List.mem_cons_of_mem m hn))
    rw [List.foldl_cons, hrest, hstep, hfirst, recorded_withPrune]
    simp

/-- After any row of triggers the reminders of a file are those recorded of it since the last
trigger that dropped what was known, with that trigger's own; without one, they come after those
there at the beginning. A document touches no reminder of another file. -/
theorem store_history (s : Service) (marker : String) (moments : List Moment)
    (hm : s.settings.marker = .text marker) (hr : ∀ m ∈ moments, m.host.IsRooted) :
    (∀ file,
      ((∀ m ∈ moments, m.drops s.settings file = false) →
        (moments.foldl serve s).store.ofFile file =
          s.store.ofFile file ++ moments.flatMap (Moment.recorded s.settings marker file)) ∧
      ∀ earlier last later, moments = earlier ++ last :: later →
        last.drops s.settings file = true →
        (∀ m ∈ later, m.drops s.settings file = false) →
        (moments.foldl serve s).store.ofFile file =
          (last :: later).flatMap (Moment.recorded s.settings marker file)) ∧
    ∀ earlier m later trigger path, moments = earlier ++ m :: later →
      m.call = .document trigger path →
      ((earlier ++ [m]).foldl serve s).store.toList.filter (·.file ≠ m.host.absolute path) =
        (earlier.foldl serve s).store.toList.filter (·.file ≠ m.host.absolute path) := by
  refine ⟨fun file => ⟨ofFile_foldl_serve s hm hr, ?_⟩, ?_⟩
  · rintro earlier last later rfl hdrop hkept
    have hr₁ : ∀ m ∈ earlier, m.host.IsRooted := fun m h => hr m (by simp [h])
    have hr₂ : last.host.IsRooted := hr last (by simp)
    have hr₃ : ∀ m ∈ later, m.host.IsRooted := fun m h => hr m (by simp [h])
    obtain ⟨prune, hbefore⟩ := settings_foldl_serve s hm hr₁
    rw [List.foldl_append, List.foldl_cons]
    generalize earlier.foldl serve s = t at hbefore ⊢
    have hmt : t.settings.marker = .text marker := by rw [hbefore]; exact hm
    have hafter := settings_serve t hr₂ hmt
    have hstep := ofFile_serve t hr₂ hmt file
    rw [hbefore, drops_withPrune, recorded_withPrune, hdrop] at hstep
    have hnone : ∀ m ∈ later, m.drops (t.serve last).settings file = false := by
      rw [hafter, drops_withPrune, hbefore]
      exact hkept
    rw [ofFile_foldl_serve (t.serve last) (by rw [hafter]; exact hmt) hr₃ hnone, hstep, hafter,
      recorded_withPrune, hbefore, recorded_withPrune]
    simp
  · rintro earlier m later trigger path rfl hcall
    rw [List.foldl_append, List.foldl_cons, List.foldl_nil]
    simp only [serve, hcall]
    exact filter_documentChanged _ (hr m (by simp)) trigger path

/-- A search without pruning, and then one document read twice, the first time with pruning. -/
def mixedMoments : List Moment :=
  [⟨mixedHost, .bool false, .search (some "/w")⟩,
    ⟨mixedHost, .bool true, .document .saved "/w/./a.py"⟩,
    ⟨mixedHost, .bool false, .document .opened "/w/a.py"⟩]

theorem store_history_mixedMoments :
    (∀ m ∈ mixedMoments, m.host.IsRooted) ∧
    ((mixedMoments.foldl serve ⟨{}, .empty⟩).store.ofFile "/w/a.py").map (·.line) = [2, 2] := by
  have hr : ∀ m ∈ mixedMoments, m.host.IsRooted := by
    simp only [mixedMoments, List.forall_mem_cons]
    decide
  refine ⟨hr, ?_⟩
  have hhistory := (store_history ⟨{}, .empty⟩ standardMarker mixedMoments rfl hr).1 "/w/a.py"
  have hlast := hhistory.2 [_] _ [_] rfl (by decide +kernel) (by decide +kernel)
  rw [hlast]
  decide +kernel

end Service
end ReminderScan
