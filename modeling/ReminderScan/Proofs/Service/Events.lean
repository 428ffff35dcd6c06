import ReminderScan.Proofs.Service.Trigger

/-! What a service tells on the way. A search and a trigger tell by notices and records alone; to
rest and to show the list of the day is left to who drives the service. -/

namespace ReminderScan

namespace Event

/-- The event tells of reminders or of the work on them: it is no rest and no list of the day. -/
def isReport : Event → Bool
  | .notice _ | .log _ => true
  | _ => false

def rest? : Event → Option Number.Binary64
  | .rest seconds => some seconds
  | _ => none

/-- The reminders and the day for which the list of the day is to be shown anew. -/
def refresh? : Event → Option (Store × Calendar.Date)
  | .refresh store day => some (store, day)
  | _ => none

def rests (events : List Event) : List Number.Binary64 := events.filterMap rest?

def refreshes (events : List Event) : List (Store × Calendar.Date) := events.filterMap refresh?

theorem rests_append (a b : List Event) : rests (a ++ b) = rests a ++ rests b :=
  List.filterMap_append

theorem refreshes_append (a b : List Event) : refreshes (a ++ b) = refreshes a ++ refreshes b :=
  List.filterMap_append

variable {α : Type} {pick : Event → Option α} {events : List Event}

/-- Of reports nothing is left where no report is picked. -/
theorem filterMap_of_isReport (hpick : ∀ e, e.isReport = true → pick e = none)
    (h : events.all isReport = true) : events.filterMap pick = [] :=
  List.filterMap_eq_nil_iff.2 fun e he => hpick e (List.all_eq_true.1 h e he)

theorem not_picked_of_isReport (e : Event) (he : e.isReport = true) :
    e.rest? = none ∧ e.refresh? = none := by
  cases e <;> first | exact ⟨rfl, rfl⟩ | cases he

theorem rests_of_isReport (h : events.all isReport = true) : rests events = [] :=
  filterMap_of_isReport (fun e he => (not_picked_of_isReport e he).1) h

theorem refreshes_of_isReport (h : events.all isReport = true) : refreshes events = [] :=
  filterMap_of_isReport (fun e he => (not_picked_of_isReport e he).2) h

end Event

theorem Document.isReport_eventsOf (rules : DocumentRules) (now : Calendar.Timestamp)
    (r : Reminder) :
    (eventsOf rules now r).all Event.isReport = true := by
  unfold eventsOf
  split
  · split <;> rfl
  · split <;> rfl

theorem Document.isReport_scan (rules : DocumentRules) (now : Calendar.Timestamp) (file : String)
    (lines : List (List Char)) (notify : Bool) :
    (scan rules now file lines notify).events.all Event.isReport = true := by
  simp only [scan, List.all_append, List.all_flatMap, isReport_eventsOf]
  split <;> simp [Event.isReport, Event.info, record]

namespace Search

variable {h : Host} {s : Settings} {p q : Search} {path : String}

theorem isReport_visit (hp : p.events.all Event.isReport = true) (hq : p.visit h s path = .ok q) :
    q.events.all Event.isReport = true := by
  unfold visit at hq
  split at hq
  · obtain rfl := Except.ok.inj hq
    rw [fail, List.all_append, hp]
    rfl
  · cases hq
  · split at hq
    · cases hq
    · obtain rfl := Except.ok.inj hq
      rw [skip, List.all_append, hp]
      rfl
    · obtain rfl := Except.ok.inj hq
      rw [add, List.all_append, hp, Document.isReport_scan]
      rfl

theorem isReport_visitAll (files : List String) (hp : p.events.all Event.isReport = true) :
    (visitAll h s p files).1.events.all Event.isReport = true := by
  induction files generalizing p with
  | nil => exact hp
  | cons path rest ih =>
    rw [visitAll]
    split
    · exact hp
    · next q hq => exact ih (isReport_visit hp hq)

end Search

namespace Service

variable {s : Service} {h : Host} {path : String} {calls : List (Trigger × String)}

theorem isReport_scanRoot (s : Service) (h : Host) (root : Option String) :
    (s.scanRoot h root).events.all Event.isReport = true := by
  unfold scanRoot
  split
  · rfl
  · rfl
  · next root _ =>
    dsimp only
    split
    · rfl
    · split
      · rfl
      · next files _ =>
        have hall : ∀ text, (Search.visitAll h s.settings ⟨.empty, { root := h.absoluteUser root },
            [WorkspaceScan.record .debug text]⟩ files).1.events.all Event.isReport = true :=
          fun text => Search.isReport_visitAll files rfl
        split
        · exact hall _
        · rw [List.all_append, hall]
          rfl

theorem isReport_prune (s : Service) (file : String) :
    (s.prune file).2.all Event.isReport = true := by
  unfold prune
  split
  · dsimp only
    split <;> rfl
  · rfl

theorem isReport_scanFile (s : Service) (h : Host) (path : String) (notify : Bool) :
    (s.scanFile h path notify).events.all Event.isReport = true := by
  unfold scanFile
  dsimp only
  split
  · rfl
  · exact Document.isReport_scan _ _ _ _ _

theorem isReport_documentChanged (s : Service) (h : Host) (trigger : Trigger) (path : String) :
    (s.documentChanged h trigger path).events.all Event.isReport = true := by
  unfold documentChanged
  dsimp only
  split <;> simp only [List.all_append, List.all_cons, isReport_prune, isReport_scanFile] <;> rfl

end Service
end ReminderScan
