import ReminderScan.Proofs.Service.History
import ReminderScan.Proofs.Service.Step
import ReminderScan.Proofs.Settings.RoundTrip
import ReminderScan.Proofs.Watch.StartUp

/-! What holds of all reminders that are ever known, whatever a watch and an editor do, in whatever
order, while the files change. The machine may be another one each time, and so may the setting for
pruning. -/

namespace ReminderScan

open Calendar Text

theorem Settings.isTimeText_of_check {d : SettingsDraft} {h : Host} {s : Settings}
    (hs : d.check h = .ok s) : IsTimeText s.defaultTime.toList :=
  isTimeText_of_readClock? (isClock_of_check hs)

namespace Service

/-- The default time can stand in a reminder, and all reminders are well formed. -/
structure IsWellFormed (s : Service) : Prop where
  time : IsTimeText s.settings.defaultTime.toList
  reminders : ∀ r ∈ s.store.toList, r.IsWellFormed

variable {h : Host} {s t : Service}

theorem Step.isWellFormed (hstep : Step h s t) (hr : h.IsRooted) (hs : s.IsWellFormed) :
    t.IsWellFormed where
  time := hstep.settings ▸ hs.time
  reminders := hstep.forall_mem
    (fun _ hsettled _ => Host.isWellFormed_of_mem_remindersIn hs.time (hsettled hr)) hs.reminders

end Service

namespace Watch

/-- What a watch does, and what is done beside it. -/
inductive Act where
  | call (call : Call)
  | prime
  | poll
  | dispatch (found : Changes)
  | start
  | cycle

/-- An act, with the machine and the setting for pruning as they are at that time. -/
structure Occasion where
  host : Host
  prune : Json.Value
  act : Act

/-- What is left after an act, also where it ends in a fault. -/
def after (w : Watch) (o : Occasion) : Watch :=
  let w := { w with service := w.service.withPrune o.prune }
  match o.act with
  | .call call => { w with service := w.service.serve ⟨o.host, o.prune, call⟩ }
  | .prime =>
    match w.watcher.prime o.host with
    | .ok watcher => { w with watcher }
    | .error _ => w
  | .poll =>
    match w.watcher.poll o.host with
    | .ok (_, watcher) => { w with watcher }
    | .error _ => w
  | .dispatch found => { w with service := (w.service.dispatch o.host found).service }
  | .start => (w.start o.host).watch
  | .cycle => (w.cycle o.host).watch

theorem service_start (w : Watch) (h : Host) : (w.start h).watch.service =
    (w.service.scanWorkspace h (some w.watcher.root)).service := by
  rw [start]
  dsimp only
  split
  · rfl
  · split <;> rfl

theorem service_cycle (w : Watch) (h : Host) : (w.cycle h).watch.service = w.service ∨
    ∃ found, (w.cycle h).watch.service = (w.service.dispatch h found).service := by
  rw [cycle]
  split
  · exact Or.inl rfl
  · dsimp only
    split
    · exact Or.inl rfl
    · split
      · exact Or.inr ⟨_, rfl⟩
      · exact Or.inr ⟨_, rfl⟩

theorem steps_after (w : Watch) {o : Occasion} (hr : o.host.IsRooted) :
    Relation.ReflTransGen (Service.Step o.host) (w.service.withPrune o.prune)
      (w.after o).service := by
  rw [after]
  split
  · rename_i call _
    cases call with
    | search root => exact .single (Service.step_scanWorkspace _ _ root)
    | document trigger path => exact .single (Service.step_documentChanged _ hr trigger path)
  · split
    · exact .refl
    · exact .refl
  · split
    · exact .refl
    · exact .refl
  · exact Service.steps_serveAll _ hr _
  · rw [service_start]
    exact .single (Service.step_scanWorkspace _ _ _)
  · rcases service_cycle { w with service := w.service.withPrune o.prune } o.host with
      hkept | ⟨found, hserved⟩
    · rw [hkept]
    · rw [hserved]
      exact Service.steps_serveAll _ hr _

/-- What the service has at the start, and keeps under each setting for pruning and in each step
that is taken under it, it has in the end. -/
theorem foldl_after {P : Service → Prop} {occasions : List Occasion}
    (hr : ∀ o ∈ occasions, o.host.IsRooted) (hprune : ∀ s prune, P s → P (s.withPrune prune))
    (hstep : ∀ o ∈ occasions, ∀ s t, s.settings.pruneOnRescan = o.prune →
      Service.Step o.host s t → P s → P t)
    (w : Watch) (hw : P w.service) : P (occasions.foldl after w).service := by
  induction occasions generalizing w with
  | nil => exact hw
  | cons o rest ih =>
    obtain ⟨hr, hrest⟩ := List.forall_mem_cons.1 hr
    obtain ⟨hstep, hsteps⟩ := List.forall_mem_cons.1 hstep
    apply ih hrest hsteps
    have hrow := steps_after w hr
    generalize (w.after o).service = last at hrow ⊢
    -- The steps of one act keep the setting for pruning under which the act began.
    have hlast : last.settings.pruneOnRescan = o.prune ∧ P last := by
      induction hrow with
      | refl => exact ⟨rfl, hprune _ _ hw⟩
      | tail _ hnext hbefore =>
        exact ⟨hnext.settings ▸ hbefore.1, hstep _ _ hbefore.1 hnext hbefore.2⟩
    exact hlast.2

/-- Whatever is done, from settings that were accepted and no reminder known: all reminders that are
known are well formed; and if a document that is read again is pruned each time, no line of a file
is known twice. -/
theorem reminders_of_foldl_after {d : SettingsDraft} {origin : Host} {settings : Settings}
    (haccepted : d.check origin = .ok settings) (watcher : Watcher) {occasions : List Occasion}
    (hr : ∀ o ∈ occasions, o.host.IsRooted) :
    (∀ r ∈ (occasions.foldl after ⟨watcher, ⟨settings, .empty⟩, 0⟩).service.store.toList,
      r.IsWellFormed) ∧
    ((∀ o ∈ occasions, o.prune.isTruthy = true) →
      ((occasions.foldl after ⟨watcher, ⟨settings, .empty⟩, 0⟩).service.store.toList.map
        fun r => (r.file, r.line)).Nodup) := by
  constructor
  · have hwellFormed := foldl_after (P := Service.IsWellFormed) hr
      (fun _ _ hs => ⟨hs.time, hs.reminders⟩)
      (fun o ho _ _ _ hstep hs => hstep.isWellFormed (hr o ho) hs)
      ⟨watcher, ⟨settings, .empty⟩, 0⟩
      ⟨Settings.isTimeText_of_check haccepted, List.forall_mem_nil _⟩
    exact hwellFormed.reminders
  · intro hprune
    apply Store.nodup_of_ofFile
    exact foldl_after (P := fun s => s.store.IsOrdered) hr (fun _ _ hs => hs)
      (fun o ho _ _ hsame hstep hs => hstep.isOrdered (hsame ▸ hprune o ho) hs)
      ⟨watcher, ⟨settings, .empty⟩, 0⟩ Store.isOrdered_empty

/-- A note is found, rewritten and found again, and then opened by a longer path. -/
def noteOccasions : List Occasion := [
  ⟨Station.noteHost, .bool true, .start⟩,
  ⟨Station.noteHost.edited Station.noteEdit, .bool true, .cycle⟩,
  ⟨Station.noteHost.edited Station.noteEdit, .bool true, .call (.document .opened "w/../w/a.py")⟩]

theorem reminders_of_noteOccasions :
    (∀ o ∈ noteOccasions, o.host.IsRooted) ∧ (∀ o ∈ noteOccasions, o.prune.isTruthy = true) ∧
    ∃ settings, SettingsDraft.check Station.noteHost {} = .ok settings ∧
      let store :=
        (noteOccasions.foldl after ⟨noteWatch.watcher, ⟨settings, .empty⟩, 0⟩).service.store
      store.size = 1 ∧ (∀ r ∈ store.toList, r.IsWellFormed) ∧
      (store.toList.map fun r => (r.file, r.line)).Nodup := by
  have hr : ∀ o ∈ noteOccasions, o.host.IsRooted := by decide
  have hprune : ∀ o ∈ noteOccasions, o.prune.isTruthy = true := by decide
  have hsize : ((SettingsDraft.check Station.noteHost {}).toOption.map fun settings =>
      (noteOccasions.foldl after ⟨noteWatch.watcher, ⟨settings, .empty⟩, 0⟩).service.store.size) =
      some 1 := by
    decide +kernel
  cases haccepted : SettingsDraft.check Station.noteHost {} with
  | error f =>
    rw [haccepted] at hsize
    cases hsize
  | ok settings =>
    rw [haccepted] at hsize
    obtain ⟨hwellFormed, hnodup⟩ := reminders_of_foldl_after haccepted noteWatch.watcher hr
    exact ⟨hr, hprune, settings, rfl, Option.some.inj hsize, hwellFormed, hnodup hprune⟩

end Watch
end ReminderScan
