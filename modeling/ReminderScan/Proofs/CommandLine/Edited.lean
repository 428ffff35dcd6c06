import ReminderScan.CommandLine.Run
import ReminderScan.Proofs.Settings.Save

/-! Settings that a command has changed, said as a whole: the four changes come one after the other,
and each of them tells of what it has done. -/

namespace ReminderScan.CommandLine

open Text

variable {s edited : Settings} {h : Host} {root : Option String}
  {add remove added removed : List String}
variable {prune : Option Bool} {changes : List Event}

theorem setRoot_eq_ok {rooted : Settings} {events : List Event}
    (hset : setRoot h s root = .ok (rooted, events)) :
    rooted = { s with root := ((root.filter (· ≠ "")).map h.absoluteUser).or s.root } ∧
      (events = [] → rooted = s) := by
  unfold setRoot at hset
  split at hset
  · cases hset
    exact ⟨rfl, fun _ => rfl⟩
  · cases hset
    exact ⟨rfl, fun _ => rfl⟩
  · rename_i root hne
    obtain ⟨path, hpath, hset⟩ := bind_eq_ok.1 hset
    obtain ⟨-, rfl⟩ := Host.absoluteUser?_eq_ok.1 hpath
    split at hset
    · cases hset
      refine ⟨?_, nofun⟩
      rw [Option.filter_some, if_pos (by simpa using hne)]
      rfl
    · cases hset

theorem addExtensions_eq (hempty : "" ∉ added) :
    (addExtensions s added).1 = { s with extensions := distinctTexts s.extensions added } := by
  induction added generalizing s with
  | nil => rfl
  | cons e rest ih =>
    rw [List.mem_cons, not_or] at hempty
    rw [addExtensions, distinctTexts, decide_eq_false (Ne.symm hempty.1), Bool.false_or]
    split
    · rw [ih hempty.2]
    · dsimp only
      rw [ih hempty.2]

theorem addExtensions_eq_self (hnone : (addExtensions s added).2 = []) :
    (addExtensions s added).1 = s := by
  induction added with
  | nil => rfl
  | cons e rest ih =>
    rw [addExtensions] at hnone ⊢
    split
    · rename_i hkept
      rw [if_pos hkept] at hnone
      exact ih hnone
    · rename_i hnew
      rw [if_neg hnew] at hnone
      cases hnone

theorem removeExtensions_eq :
    (removeExtensions s removed).1 = { s with extensions := s.extensions.diff removed } := by
  induction removed generalizing s with
  | nil => rfl
  | cons e rest ih =>
    rw [removeExtensions, List.diff_cons]
    split
    · dsimp only
      rw [ih]
    · rename_i hmissing
      rw [ih, List.erase_of_not_mem (mt List.contains_iff_mem.2 hmissing)]

theorem removeExtensions_eq_self (hnone : (removeExtensions s removed).2 = []) :
    (removeExtensions s removed).1 = s := by
  induction removed with
  | nil => rfl
  | cons e rest ih =>
    rw [removeExtensions] at hnone ⊢
    split
    · rename_i hthere
      rw [if_pos hthere] at hnone
      cases hnone
    · rename_i hmissing
      rw [if_neg hmissing] at hnone
      exact ih hnone

theorem setPrune_eq : (setPrune s prune).1 =
    { s with pruneOnRescan := prune.elim s.pruneOnRescan .bool } := by
  cases prune with
  | none => rfl
  | some on => rfl

theorem setPrune_eq_self (hnone : (setPrune s prune).2 = []) : (setPrune s prune).1 = s := by
  cases prune with
  | none => rfl
  | some on => cases hnone

theorem empty_not_mem_normaliseExtensions (extensions : List String) :
    "" ∉ normaliseExtensions extensions :=
  empty_not_mem_distinctTexts List.not_mem_nil _

/-- The settings and the lines that the four changes come to, one after the other. -/
theorem exists_of_editSettings
    (hedit : editSettings h s root add remove prune = .ok (edited, changes)) :
    ∃ rooted events added removed, setRoot h s root = .ok (rooted, events) ∧
      addExtensions rooted (normaliseExtensions add) = added ∧
      removeExtensions added.1 (normaliseExtensions remove) = removed ∧
      edited = (setPrune removed.1 prune).1 ∧
      changes = events ++ added.2 ++ removed.2 ++ (setPrune removed.1 prune).2 := by
  rw [editSettings, bind_eq_ok] at hedit
  obtain ⟨⟨rooted, events⟩, hroot, hedit⟩ := hedit
  exact ⟨rooted, events, _, _, hroot, rfl, rfl, (congrArg Prod.fst (Except.ok.inj hedit)).symm,
    (congrArg Prod.snd (Except.ok.inj hedit)).symm⟩

theorem editSettings_eq_ok
    (hedit : editSettings h s root add remove prune = .ok (edited, changes)) :
    edited = { s with
      root := ((root.filter (· ≠ "")).map h.absoluteUser).or s.root
      extensions :=
        (distinctTexts s.extensions (normaliseExtensions add)).diff (normaliseExtensions remove)
      pruneOnRescan := prune.elim s.pruneOnRescan .bool } := by
  obtain ⟨rooted, events, added, removed, hroot, rfl, rfl, rfl, -⟩ := exists_of_editSettings hedit
  obtain ⟨rfl, -⟩ := setRoot_eq_ok hroot
  rw [setPrune_eq, removeExtensions_eq, addExtensions_eq (empty_not_mem_normaliseExtensions add)]

/-- A run that tells of no change has changed nothing. -/
theorem editSettings_eq_self (hedit : editSettings h s root add remove prune = .ok (edited, [])) :
    edited = s := by
  obtain ⟨rooted, events, added, removed, hroot, rfl, rfl, rfl, hnone⟩ :=
    exists_of_editSettings hedit
  have hnone := hnone.symm
  rw [List.append_eq_nil_iff, List.append_eq_nil_iff, List.append_eq_nil_iff] at hnone
  obtain ⟨⟨⟨hroots, hadds⟩, hremoves⟩, hprunes⟩ := hnone
  rw [setPrune_eq_self hprunes, removeExtensions_eq_self hremoves, addExtensions_eq_self hadds]
  exact (setRoot_eq_ok hroot).2 hroots

theorem keeps_editSettings {P : Json.Value → Prop} (hP : Json.Inherited P) (hs : s.Keeps P)
    (hedit : editSettings h s root add remove prune = .ok (edited, changes)) : edited.Keeps P := by
  obtain rfl := editSettings_eq_ok hedit
  refine ⟨hs.marker, ?_, hs.reportInvalid⟩
  cases prune with
  | none => exact hs.pruneOnRescan
  | some on => exact hP.bool on

theorem exists_of_mem_normaliseExtensions {e : String} {extensions : List String}
    (he : e ∈ normaliseExtensions extensions) :
    ∃ given ∈ extensions, normaliseExtension given = e :=
  List.mem_map.1 ((distinctTexts_sublist [] (extensions.map normaliseExtension)).subset he)

theorem mem_extensions_of_editSettings
    (hedit : editSettings h s root add remove prune = .ok (edited, changes)) :
    ∀ e ∈ edited.extensions, e ∈ s.extensions ∨ ∃ given ∈ add, normaliseExtension given = e := by
  obtain rfl := editSettings_eq_ok hedit
  intro e he
  have hmem := List.diff_subset _ _ he
  rw [mem_distinctTexts] at hmem
  exact hmem.imp_right fun hadded => exists_of_mem_normaliseExtensions hadded.1

theorem accepted_editSettings (hr : h.IsRooted) (hs : s.Accepted)
    (hedit : editSettings h s root add remove prune = .ok (edited, changes)) : edited.Accepted := by
  have hmem := mem_extensions_of_editSettings hedit
  obtain rfl := editSettings_eq_ok hedit
  refine { hs with root := ?_, form := ?_, nodup := ?_, empty := ?_ }
  · intro chosen hchosen
    rw [Option.mem_def, Option.or_eq_some_iff] at hchosen
    rcases hchosen with hset | ⟨-, hbefore⟩
    · obtain ⟨given, -, rfl⟩ := Option.map_eq_some_iff.1 hset
      exact Host.settled_absolute hr _
    · exact hs.root chosen hbefore
  · intro e he
    rcases hmem e he with hbefore | ⟨given, -, rfl⟩
    · exact hs.form e hbefore
    · exact isExtension_normaliseExtension given
  · exact (nodup_distinctTexts hs.nodup _).diff
  · exact fun hempty => empty_not_mem_distinctTexts hs.empty _ (List.diff_subset _ _ hempty)

end ReminderScan.CommandLine
