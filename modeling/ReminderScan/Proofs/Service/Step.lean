import Mathlib.Logic.Relation
import ReminderScan.Proofs.Reminder
import ReminderScan.Proofs.Service.Trigger
import ReminderScan.Watcher

/-! All that a trigger can do to the store: leave it as it is, put what some files hold in its
place, or read one file again. A fault on the way makes no difference. -/

namespace ReminderScan

variable {h : Host}

namespace Search

variable {s : Settings}

theorem store_visit {p q : Search} {path : String} (hq : p.visit h s path = .ok q) :
    q.store = p.store ∨ q.store = p.store.append (h.remindersIn s.defaultTime path) := by
  rw [visit] at hq
  split at hq
  · obtain rfl := Except.ok.inj hq
    exact Or.inl rfl
  · cases hq
  · rename_i text ht
    split at hq
    · cases hq
    · obtain rfl := Except.ok.inj hq
      exact Or.inl rfl
    · obtain rfl := Except.ok.inj hq
      have hread : h.remindersIn s.defaultTime path =
        Document.reminders s.defaultTime path (Text.lines text) := by
        rw [Document.reminders_eq_annotations, Host.remindersIn, Host.text?_eq_some_iff.2 ht]
      rw [hread]
      exact Or.inr rfl

/-- What comes to the store is what some of the files hold, also where a fault ends the search. -/
theorem store_visitAll (p : Search) (files : List String) :
    ∃ part : List String, part.Sublist files ∧
      (visitAll h s p files).1.store =
        p.store.append (part.flatMap (h.remindersIn s.defaultTime)) := by
  induction files generalizing p with
  | nil => exact ⟨[], .slnil, by simp [visitAll, Store.append]⟩
  | cons path rest ih =>
    rw [visitAll]
    split
    · exact ⟨[], List.nil_sublist _, by simp [Store.append]⟩
    · rename_i q hq
      obtain ⟨part, hpart, hstore⟩ := ih q
      rcases store_visit hq with hkept | hadded
      · exact ⟨part, hpart.cons path, by rw [hstore, hkept]⟩
      · exact ⟨path :: part, hpart.cons_cons path, by simp [hstore, hadded, Store.append]⟩

end Search

/-- The lines of each file are in order, and none comes twice. -/
def Store.IsOrdered (s : Store) : Prop :=
  ∀ file, (s.ofFile file).Pairwise fun a b => a.line < b.line

theorem Store.isOrdered_empty : Store.empty.IsOrdered := fun _ => .nil

namespace Service

/-- What one trigger can do to a service. -/
inductive Step (h : Host) : Service → Service → Prop
  | keep (s : Service) : Step h s s
  | clear (s : Service) : Step h s (s.withStore .empty)
  /-- Some of the files listed, in their order, are what is known of from now on. -/
  | replace (s : Service) {root : String} {files part : List String}
      (hlisted : candidates h root s.settings.extensions s.settings.excluded = .ok files)
      (hpart : part.Sublist files) :
      Step h s (s.withStore ⟨part.flatMap (h.remindersIn s.settings.defaultTime)⟩)
  | reread (s : Service) (path : String) :
      Step h s (s.withStore
        ((if s.settings.pruneOnRescan.isTruthy then s.store.removeFile (h.absolute path)
          else s.store).append (h.remindersIn s.settings.defaultTime (h.absolute path))))

variable {s t : Service}

theorem step_scanWorkspace (s : Service) (h : Host) (root : Option String) :
    Step h s (s.scanWorkspace h root).service := by
  rw [scanWorkspace_eq, scanRoot.eq_def]
  split
  · exact .keep s
  · exact .keep s
  · dsimp only
    split
    · exact .keep s
    · split
      · exact .clear s
      · rename_i files hlisted
        generalize hvisit : Search.visitAll h s.settings _ files = visited
        have hstep : Step h s (s.withStore visited.1.store) := by
          obtain ⟨part, hpart, hstore⟩ := Search.store_visitAll (h := h) (s := s.settings) _ files
          rw [← hvisit, hstore]
          exact .replace s hlisted hpart
        obtain ⟨search, fault⟩ := visited
        cases fault with
        | none => exact hstep
        | some f => exact hstep

theorem step_documentChanged (s : Service) (hr : h.IsRooted) (trigger : Trigger) (path : String) :
    Step h s (s.documentChanged h trigger path).service := by
  have hservice : (s.documentChanged h trigger path).service =
      s.withStore (s.documentChanged h trigger path).service.store := by
    rw [withStore, ← documentChanged_settings s hr trigger path]
  rw [hservice, documentChanged_store s hr]
  exact .reread s path

theorem steps_serveAll (s : Service) (hr : h.IsRooted) (calls : List (Trigger × String)) :
    Relation.ReflTransGen (Step h) s (s.serveAll h calls).service := by
  induction calls generalizing s with
  | nil => exact .refl
  | cons call rest ih =>
    have hfirst := step_documentChanged s hr call.1 call.2
    rw [serveAll]
    split
    · exact .single hfirst
    · exact .head hfirst (ih _)

theorem Step.settings (hstep : Step h s t) : t.settings = s.settings := by
  cases hstep with
  | keep => rfl
  | clear => rfl
  | replace => rfl
  | reread => rfl

/-- What holds of all that is known and of all that documents hold, holds of all that is known after
a step. -/
theorem Step.forall_mem {P : Reminder → Prop} (hstep : Step h s t)
    (hread : ∀ path, (h.IsRooted → Path.Settled path.toList) →
      ∀ r ∈ h.remindersIn s.settings.defaultTime path, P r)
    (hs : ∀ r ∈ s.store.toList, P r) : ∀ r ∈ t.store.toList, P r := by
  cases hstep with
  | keep => exact hs
  | clear => exact List.forall_mem_nil _
  | replace hlisted hpart =>
    intro r hr
    obtain ⟨path, hp, hr⟩ := List.mem_flatMap.1 hr
    exact hread path (fun hrooted => settled_of_mem_candidates hrooted hlisted
      (hpart.subset hp)) r hr
  | reread path =>
    refine List.forall_mem_append.2 ⟨fun r hr => hs r ?_,
      hread _ fun hrooted => Host.settled_absolute hrooted path⟩
    split at hr
    · exact List.mem_of_mem_filter hr
    · exact hr

/-- Where a file that is read again loses what was known of it, the lines of each file stay in
order. -/
theorem Step.isOrdered (hstep : Step h s t) (hprune : s.settings.pruneOnRescan.isTruthy = true)
    (hs : s.store.IsOrdered) : t.store.IsOrdered := by
  intro file
  cases hstep with
  | keep => exact hs file
  | clear => exact .nil
  | replace hlisted hpart =>
    -- Files that are listed differ, so those of one file come from one place in the list.
    have hdistinct := hpart.nodup ((candidates_increasing hlisted).imp String.ne_of_lt)
    rw [Store.ofFile, withStore, Store.filter_flatMap_remindersIn h _ _ hdistinct]
    split
    · exact h.remindersIn_increasing _ _
    · exact .nil
  | reread path =>
    rw [withStore, if_pos hprune, Store.ofFile_append, Store.filter_remindersIn]
    split
    · rename_i hpath
      rw [← hpath, Store.ofFile_removeFile_self]
      exact h.remindersIn_increasing _ _
    · rename_i hpath
      rw [Store.ofFile_removeFile_of_ne _ (Ne.symm hpath), List.append_nil]
      exact hs file

/-- After a search of the workspace all reminders known are stamped if they were before. -/
theorem isStamped_scanWorkspace (hs : s.store.IsStamped) (h : Host) (root : Option String) :
    (s.scanWorkspace h root).service.store.IsStamped :=
  (step_scanWorkspace s h root).forall_mem (fun _ _ _ => Host.isStamped_of_mem_remindersIn) hs

end Service
end ReminderScan
