import Mathlib.Data.List.Nodup
import ReminderScan.Proofs.Calendar.Clock
import ReminderScan.Proofs.Path
import ReminderScan.Proofs.Text.LowerCase
import ReminderScan.Proofs.Text.Strip
import ReminderScan.Settings.Basic

/-! Settings that are written and read again. Reading puts extensions and names of directories into
a form of their own; a second reading keeps that form unless a blank has come to stand at an end, or
nothing is left of a name. -/

namespace ReminderScan

open Text

theorem map_eq_self_iff {α : Type} {f : α → α} {items : List α} :
    items.map f = items ↔ ∀ a ∈ items, f a = a := by
  calc items.map f = items
      ↔ items.map f = items.map fun a => a := by rw [List.map_id']
    _ ↔ ∀ a ∈ items, f a = a := List.map_inj_left

theorem distinctTexts_of_nodup {before texts : List String} (hnodup : (before ++ texts).Nodup)
    (hempty : "" ∉ texts) : distinctTexts before texts = before ++ texts := by
  induction texts generalizing before with
  | nil => rw [distinctTexts, List.append_nil]
  | cons s rest ih =>
    have hs : s ≠ "" := fun h => hempty (h ▸ List.mem_cons_self)
    have hnew : s ∉ before := by
      intro hmem
      exact (List.nodup_append.1 hnodup).2.2 s hmem s List.mem_cons_self rfl
    rw [distinctTexts, if_neg (by simp [hs, hnew]), ih, List.append_assoc]
    · rfl
    · rw [List.append_assoc]
      exact hnodup
    · exact fun h => hempty (List.mem_cons_of_mem _ h)

theorem distinctTexts_sublist (before texts : List String) :
    (distinctTexts before texts).Sublist (before ++ texts) := by
  induction texts generalizing before with
  | nil =>
    rw [List.append_nil]
    exact List.Sublist.refl before
  | cons s rest ih =>
    rw [distinctTexts]
    split
    · exact (ih before).trans ((List.sublist_cons_self s rest).append_left before)
    · have hrest := ih (before ++ [s])
      rw [List.append_assoc] at hrest
      exact hrest

theorem nodup_distinctTexts {before : List String} (hnodup : before.Nodup) (texts : List String) :
    (distinctTexts before texts).Nodup := by
  induction texts generalizing before with
  | nil => exact hnodup
  | cons s rest ih =>
    rw [distinctTexts]
    split
    · exact ih hnodup
    · rename_i hnew
      simp only [Bool.or_eq_true, decide_eq_true_eq, not_or, List.contains_iff_mem] at hnew
      apply ih
      rw [List.nodup_append]
      refine ⟨hnodup, List.nodup_singleton s, ?_⟩
      rintro t ht _ (_ | ⟨_, ⟨⟩⟩) rfl
      exact hnew.2 ht

theorem empty_not_mem_distinctTexts {before : List String} (hempty : "" ∉ before)
    (texts : List String) : "" ∉ distinctTexts before texts := by
  induction texts generalizing before with
  | nil => exact hempty
  | cons s rest ih =>
    rw [distinctTexts]
    split
    · exact ih hempty
    · rename_i hnew
      simp only [Bool.or_eq_true, decide_eq_true_eq, not_or] at hnew
      apply ih
      simp only [List.mem_append, List.mem_singleton, not_or]
      exact ⟨hempty, fun h => hnew.1 h.symm⟩

theorem mem_distinctTexts {before texts : List String} {s : String} :
    s ∈ distinctTexts before texts ↔ s ∈ before ∨ s ∈ texts ∧ s ≠ "" := by
  induction texts generalizing before with
  | nil => simp [distinctTexts]
  | cons a rest ih =>
    rw [distinctTexts, ih]
    split
    · rename_i hkept
      simp only [Bool.or_eq_true, decide_eq_true_eq, List.contains_iff_mem] at hkept
      grind
    · rename_i hnew
      simp only [Bool.or_eq_true, decide_eq_true_eq, not_or] at hnew
      grind

/-- What was there before keeps its order; the texts that are new come behind it. -/
theorem filter_distinctTexts {p : String → Bool} {texts : List String}
    (hp : ∀ s ∈ texts, p s = false)
    (before : List String) : (distinctTexts before texts).filter p = before.filter p := by
  induction texts generalizing before with
  | nil => rfl
  | cons a rest ih =>
    obtain ⟨ha, hrest⟩ := List.forall_mem_cons.1 hp
    rw [distinctTexts, ih hrest]
    split
    · rfl
    · rw [List.filter_append, List.filter_singleton, ha, cond_false, List.append_nil]

/-- The form that reading gives an extension, short of what a second reading would strip. -/
structure IsExtension (e : String) : Prop where
  small : ∀ c ∈ e.toList, IsSmall c
  head : ∀ c ∈ e.toList.head?, c ≠ '.'
  last : ∀ c ∈ e.toList.getLast?, isBlank c = false

theorem isExtension_normaliseExtension (given : String) :
    IsExtension (normaliseExtension given) := by
  have hlist : (normaliseExtension given).toList
      = lower ((trim given.toList).dropWhile (· = '.')) := String.toList_ofList
  refine ⟨?_, ?_, ?_⟩
  · rw [hlist]
    exact isSmall_of_mem_lowerFrom false _
  · rw [hlist]
    intro d hd hdot
    obtain ⟨c, hc, hlowers⟩ := head?_lowerFrom false _ d hd
    have hnot := head?_dropWhile (fun c => decide (c = '.')) (trim given.toList) c hc
    exact absurd (hlowers.eq_dot hdot) (of_decide_eq_false hnot)
  · rw [hlist]
    intro d hd
    obtain ⟨c, hc, hlowers⟩ := getLast?_lowerFrom false _ d hd
    obtain ⟨front, hfront⟩ := List.dropWhile_suffix (fun c => decide (c = '.'))
      (l := trim given.toList)
    have hlast : c ∈ (trim given.toList).getLast? := by
      rw [← hfront, List.getLast?_append, Option.mem_def.1 hc]
      rfl
    have hc' := getLast?_stripBoth isBlank given.toList c hlast
    by_contra hblank
    rw [hlowers.isBlank (Bool.not_eq_false _ ▸ hblank)] at hc'
    exact absurd hc' Bool.true_eq_false.mp

/-- An extension starts with a blank only if one stood in what was given. -/
theorem head?_normaliseExtension {given : String} (hgiven : ∀ c ∈ given.toList, isBlank c = false) :
    ∀ c ∈ (normaliseExtension given).toList.head?, isBlank c = false := by
  rw [normaliseExtension, String.toList_ofList]
  intro d hd
  obtain ⟨c, hc, hlowers⟩ := head?_lowerFrom false _ d hd
  have hmem : c ∈ given.toList := by
    apply (stripBoth_sublist isBlank given.toList).subset
    exact (List.dropWhile_suffix _).subset (List.mem_of_mem_head? hc)
  have hc' := hgiven c hmem
  by_contra hblank
  rw [hlowers.isBlank (Bool.not_eq_false _ ▸ hblank)] at hc'
  exact absurd hc' Bool.true_eq_false.mp

theorem IsExtension.normaliseExtension_eq_self_iff {e : String} (h : IsExtension e) :
    normaliseExtension e = e ↔ ∀ c ∈ e.toList.head?, isBlank c = false := by
  constructor
  · intro hsame
    have hsame' : lower ((trim e.toList).dropWhile (· = '.')) = e.toList := by
      rw [← String.toList_ofList (l := lower _)]
      exact congrArg String.toList hsame
    have hstripped : ((trim e.toList).dropWhile (· = '.')).Sublist (e.toList.dropWhile isBlank) :=
      (List.dropWhile_suffix _).sublist.trans
        (stripBoth_isPrefix_dropWhile isBlank e.toList).sublist
    have hsmall :
        lower ((trim e.toList).dropWhile (· = '.')) = (trim e.toList).dropWhile (· = '.') := by
      apply lowerFrom_of_isSmall
      intro c hc
      exact h.small c ((List.dropWhile_suffix _).sublist.subset (hstripped.subset hc))
    rw [← hsmall, hsame'] at hstripped
    have hall : e.toList.dropWhile isBlank = e.toList :=
      (List.dropWhile_suffix isBlank).sublist.antisymm hstripped
    rw [← hall]
    exact head?_dropWhile isBlank e.toList
  · intro hhead
    have htrim : trim e.toList = e.toList := stripBoth_of_bare ⟨hhead, h.last⟩
    have hdots : e.toList.dropWhile (· = '.') = e.toList :=
      dropWhile_of_head? fun c hc => decide_eq_false (h.head c hc)
    rw [normaliseExtension, htrim, hdots, lower, lowerFrom_of_isSmall false h.small,
      String.ofList_toList]

theorem normaliseExtensions_eq_self_iff {extensions : List String}
    (hform : ∀ e ∈ extensions, IsExtension e) (hnodup : extensions.Nodup)
    (hempty : "" ∉ extensions) :
    normaliseExtensions extensions = extensions ↔
      ∀ e ∈ extensions, ∀ c ∈ e.toList.head?, isBlank c = false := by
  constructor
  · intro hsame e he
    have hsub := distinctTexts_sublist [] (extensions.map normaliseExtension)
    rw [List.nil_append] at hsub
    have hmap : extensions.map normaliseExtension = extensions := by
      rw [normaliseExtensions] at hsame
      rw [hsame] at hsub
      exact (hsub.eq_of_length (List.length_map _).symm).symm
    have hfix : normaliseExtension e = e := map_eq_self_iff.1 hmap e he
    exact (hform e he).normaliseExtension_eq_self_iff.1 hfix
  · intro hheads
    have hmap : extensions.map normaliseExtension = extensions := by
      refine map_eq_self_iff.2 ?_
      intro e he
      exact (hform e he).normaliseExtension_eq_self_iff.2 (hheads e he)
    rw [normaliseExtensions, hmap, distinctTexts_of_nodup, List.nil_append]
    · exact hnodup
    · exact hempty

def isSlash (c : Char) : Bool := c = '/' || c = '\\'

theorem normaliseExcluded_eq (names : List String) : normaliseExcluded names =
    (names.filter fun name => trim name.toList ≠ []).map fun name =>
      String.ofList (stripBoth isSlash (trim name.toList)) := rfl

theorem stripped_eq_self_iff {name : String} (hform : Bare isSlash name.toList) :
    trim name.toList ≠ [] ∧ String.ofList (stripBoth isSlash (trim name.toList)) = name ↔
      name ≠ "" ∧ Bare isBlank name.toList := by
  constructor
  · rintro ⟨hne, hsame⟩
    have hsame' : stripBoth isSlash (trim name.toList) = name.toList := by
      rw [← String.toList_ofList (l := stripBoth _ _), hsame]
    have hback := stripBoth_sublist isSlash (trim name.toList)
    rw [hsame'] at hback
    have htrim : trim name.toList = name.toList :=
      (stripBoth_sublist isBlank name.toList).antisymm hback
    refine ⟨?_, stripBoth_eq_self_iff.1 htrim⟩
    rintro rfl
    exact hne rfl
  · rintro ⟨hne, hbare⟩
    have htrim : trim name.toList = name.toList := stripBoth_of_bare hbare
    rw [htrim, stripBoth_of_bare hform, String.ofList_toList]
    exact ⟨fun h => hne (String.toList_eq_nil_iff.1 h), rfl⟩

theorem normaliseExcluded_eq_self_iff {names : List String}
    (hform : ∀ name ∈ names, Bare isSlash name.toList) : normaliseExcluded names = names ↔
      ∀ name ∈ names, name ≠ "" ∧ Bare isBlank name.toList := by
  rw [normaliseExcluded_eq]
  constructor
  · intro hsame
    have hall : names.filter (fun name => trim name.toList ≠ []) = names := by
      apply List.filter_sublist.eq_of_length
      rw [← List.length_map, hsame]
    have hne := List.filter_eq_self.1 hall
    rw [hall] at hsame
    intro name hname
    apply (stripped_eq_self_iff (hform name hname)).1
    exact ⟨of_decide_eq_true (hne name hname), map_eq_self_iff.1 hsame name hname⟩
  · intro hlasting
    have hall : names.filter (fun name => trim name.toList ≠ []) = names := by
      apply List.filter_eq_self.2
      intro name hname
      exact decide_eq_true ((stripped_eq_self_iff (hform name hname)).2 (hlasting name hname)).1
    rw [hall]
    apply map_eq_self_iff.2
    intro name hname
    exact ((stripped_eq_self_iff (hform name hname)).2 (hlasting name hname)).2

theorem bare_of_mem_normaliseExcluded {names : List String} :
    ∀ name ∈ normaliseExcluded names, Bare isSlash name.toList := by
  intro name hname
  rw [normaliseExcluded_eq] at hname
  obtain ⟨given, -, rfl⟩ := List.mem_map.1 hname
  rw [String.toList_ofList]
  exact bare_stripBoth isSlash _

theorem textsOf_map_text (texts : List String) : textsOf (texts.map .text) = .ok texts := by
  induction texts with
  | nil => rfl
  | cons s rest ih =>
    rw [List.map_cons, textsOf, ih]
    rfl

namespace Settings

variable {h : Host} {s : Settings}

/-- What holds of settings that come from a reading. -/
structure Accepted (s : Settings) : Prop where
  root : ∀ root ∈ s.root, Path.Settled root.toList
  form : ∀ e ∈ s.extensions, IsExtension e
  nodup : s.extensions.Nodup
  empty : "" ∉ s.extensions
  excluded : ∀ name ∈ s.excluded, Bare isSlash name.toList
  time : (Calendar.readClock? s.defaultTime.toList).isSome = true
  interval : s.interval.isNonpositive = false

theorem settled_of_checkRoot (hr : h.IsRooted) {given : Json.Value} {found : Option String}
    (hroot : checkRoot h given = .ok found) : ∀ root ∈ found, Path.Settled root.toList := by
  rw [checkRoot.eq_def] at hroot
  split at hroot
  · obtain rfl : none = found := Except.ok.inj hroot
    intro root hmem
    exact absurd hmem (Option.not_mem_none root)
  · split at hroot
    · obtain ⟨path, hpath, rfl⟩ := map_eq_ok.1 hroot
      obtain ⟨-, -, rfl⟩ := Host.absoluteUser?_eq_ok.1 hpath
      intro root hmem
      obtain rfl := Option.some.inj hmem
      exact Host.settled_absolute hr _
    · cases hroot

theorem isSome_of_checkTime {given : Json.Value} {time : String}
    (htime : checkTime given = .ok time) : (Calendar.readClock? time.toList).isSome = true := by
  rw [checkTime.eq_def] at htime
  split at htime
  · split at htime
    · rename_i hclock
      obtain rfl := Except.ok.inj htime
      rwa [Calendar.isClockTime_eq] at hclock
    · cases htime
  · cases htime

theorem check_eq_ok {d : SettingsDraft} : d.check h = .ok s ↔ ∃ root extensions excluded time,
    checkRoot h d.root = .ok root ∧ (itemsOf d.extensions >>= textsOf) = .ok extensions ∧
    (itemsOf d.excluded >>= textsOf) = .ok excluded ∧ checkTime d.defaultTime = .ok time ∧
    d.interval.isNonpositive = false ∧
    s = { root, defaultTime := time
          extensions := normaliseExtensions extensions
          excluded := normaliseExcluded excluded
          marker := d.marker
          pruneOnRescan := d.pruneOnRescan
          reportInvalid := d.reportInvalid
          interval := d.interval } := by
  rw [SettingsDraft.check]
  simp only [bind_eq_ok]
  constructor
  · rintro ⟨root, hroot, extensions, hextensions, excluded, hexcluded, time, htime, hs⟩
    split at hs
    · cases hs
    · rename_i hinterval
      exact ⟨root, extensions, excluded, time, hroot, hextensions, hexcluded, htime,
        Bool.eq_false_iff.2 hinterval, (Except.ok.inj hs).symm⟩
  · rintro ⟨root, extensions, excluded, time, hroot, hextensions, hexcluded, htime, hinterval, rfl⟩
    exact ⟨root, hroot, extensions, hextensions, excluded, hexcluded, time, htime,
      if_neg (Bool.eq_false_iff.1 hinterval)⟩

theorem isClock_of_check {d : SettingsDraft} (hs : d.check h = .ok s) :
    (Calendar.readClock? s.defaultTime.toList).isSome = true := by
  obtain ⟨_, _, _, _, -, -, -, htime, -, rfl⟩ := check_eq_ok.1 hs
  exact isSome_of_checkTime htime

/-- The settings that are kept as they were given. -/
theorem given_of_ofJson {v : Json.Value} (hs : ofJson h v = .ok s) : ∃ scan reminders,
    memberOr v "scan" (.object []) = .ok scan ∧
      memberOr v "reminders" (.object []) = .ok reminders ∧
    memberOr scan "exclude_marker" (.text standardMarker) = .ok s.marker ∧
    memberOr reminders "prune_on_rescan" (.bool false) = .ok s.pruneOnRescan ∧
    memberOr reminders "report_invalid_dates" (.bool true) = .ok s.reportInvalid := by
  obtain ⟨draft, hdraft, hcheck⟩ := bind_eq_ok.1 hs
  rw [SettingsDraft.ofJson] at hdraft
  simp only [bind_eq_ok] at hdraft
  obtain ⟨scan, hscan, reminders, hreminders, _, -, _, -, _, -, _, -, marker, hmarker, _, -, prune,
    hprune, report, hreport, _, -, hdraft⟩ := hdraft
  obtain rfl := Except.ok.inj hdraft
  obtain ⟨_, _, _, _, -, -, -, -, -, rfl⟩ := check_eq_ok.1 hcheck
  exact ⟨scan, reminders, hscan, hreminders, hmarker, hprune, hreport⟩

theorem accepted_of_check (hr : h.IsRooted) {d : SettingsDraft} (hs : d.check h = .ok s) :
    s.Accepted := by
  obtain ⟨root, extensions, excluded, time, hroot, -, -, htime, hinterval, rfl⟩ := check_eq_ok.1 hs
  exact {
    root := settled_of_checkRoot hr hroot
    form := by
      intro e he
      have hmem := (distinctTexts_sublist [] (extensions.map normaliseExtension)).subset he
      obtain ⟨given, -, rfl⟩ := List.mem_map.1 hmem
      exact isExtension_normaliseExtension given
    nodup := nodup_distinctTexts List.nodup_nil _
    empty := empty_not_mem_distinctTexts List.not_mem_nil _
    excluded := bare_of_mem_normaliseExcluded
    time := isSome_of_checkTime htime
    interval := hinterval }

theorem accepted_of_ofJson (hr : h.IsRooted) {v : Json.Value} (hs : ofJson h v = .ok s) :
    s.Accepted := by
  obtain ⟨d, -, hcheck⟩ := bind_eq_ok.1 hs
  exact accepted_of_check hr hcheck

def rootValue : Option String → Json.Value
  | none => .null
  | some root => .text root

theorem checkRoot_rootValue {root : Option String} (hroot : ∀ r ∈ root, Path.Settled r.toList) :
    checkRoot h (rootValue root) = .ok root := by
  cases root with
  | none => rfl
  | some r =>
    have hsettled := hroot r rfl
    have hhead := Path.head?_of_settled hsettled
    have hne : r ≠ "" := by
      rintro rfl
      exact absurd hhead (by decide)
    simp only [rootValue, checkRoot, Json.Value.isTruthy, hne, ne_eq, not_false_eq_true,
      decide_true, Bool.not_true, Bool.false_eq_true, if_false, Host.absoluteUser?_of_rooted hhead,
      Host.absolute_of_settled hsettled]
    rfl

/-- The settings that a second reading makes of settings. -/
def again (s : Settings) : Settings :=
  { s with
    extensions := normaliseExtensions s.extensions
    excluded := normaliseExcluded s.excluded }

theorem Accepted.ofJson_toJson (ha : s.Accepted) : ofJson h s.toJson = .ok s.again := by
  have hdraft : SettingsDraft.ofJson s.toJson = .ok {
      root := rootValue s.root
      extensions := .list (s.extensions.map .text)
      excluded := .list (s.excluded.map .text)
      marker := s.marker
      defaultTime := .text s.defaultTime
      pruneOnRescan := s.pruneOnRescan
      reportInvalid := s.reportInvalid
      interval := s.interval } := by
    cases hroot : s.root <;>
      simp [SettingsDraft.ofJson, toJson, hroot, memberOr, Json.lookup?, bind, Except.bind, realOf,
        rootValue]
  have hextensions : (itemsOf (.list (s.extensions.map .text)) >>= textsOf) = .ok s.extensions :=
    textsOf_map_text s.extensions
  have hexcluded : (itemsOf (.list (s.excluded.map .text)) >>= textsOf) = .ok s.excluded :=
    textsOf_map_text s.excluded
  have htime : checkTime (.text s.defaultTime) = .ok s.defaultTime :=
    if_pos ((Calendar.isClockTime_eq _).trans ha.time)
  rw [ofJson, hdraft]
  change SettingsDraft.check h _ = _
  rw [SettingsDraft.check, checkRoot_rootValue ha.root, hextensions, hexcluded, htime]
  exact if_neg (Bool.eq_false_iff.1 ha.interval)

/-- Settings in which no blank has come to stand where a reading strips, and no name is empty. -/
structure Lasting (s : Settings) : Prop where
  extensions : ∀ e ∈ s.extensions, ∀ c ∈ e.toList.head?, isBlank c = false
  excluded : ∀ name ∈ s.excluded, name ≠ "" ∧ Bare isBlank name.toList

theorem Accepted.again_eq_self_iff (ha : s.Accepted) : s.again = s ↔ s.Lasting := by
  have hextensions := normaliseExtensions_eq_self_iff ha.form ha.nodup ha.empty
  have hexcluded := normaliseExcluded_eq_self_iff ha.excluded
  constructor
  · intro hsame
    exact ⟨hextensions.1 (congrArg Settings.extensions hsame),
      hexcluded.1 (congrArg Settings.excluded hsame)⟩
  · intro hlasting
    rw [again, hextensions.2 hlasting.extensions, hexcluded.2 hlasting.excluded]

/-- A second reading of settings gives the same settings when they last, and others when not. -/
theorem ofJson_toJson_eq_self_iff (hr : h.IsRooted) {v : Json.Value} (hs : ofJson h v = .ok s) :
    ofJson h s.toJson = .ok s.again ∧ (ofJson h s.toJson = .ok s ↔ s.Lasting) := by
  have ha := accepted_of_ofJson hr hs
  refine ⟨ha.ofJson_toJson, ?_⟩
  rw [ha.ofJson_toJson, ← ha.again_eq_self_iff]
  exact ⟨Except.ok.inj, congrArg Except.ok⟩

def emptyHost : Host where
  tree := .empty
  directory := "/work"
  environment := []
  ownHome := "/home/u"
  homes := []
  platform := "linux"
  now := ⟨⟨2024, 2, 29, by decide⟩, 12, 30, 0, 0, by decide⟩
  stamp := 0

def excluding (names : List String) : Json.Value :=
  .object [("scan", .object [("exclude_dirs", .list (names.map .text))])]

theorem ofJson_toJson_tidyNames : emptyHost.IsRooted ∧ ∃ s,
    ofJson emptyHost (excluding ["/build/", " out ", "a/b"]) = .ok s ∧
      s.excluded = ["build", "out", "a/b"] ∧ ofJson emptyHost s.toJson = .ok s := by
  have hread : (ofJson emptyHost (excluding ["/build/", " out ", "a/b"])).toOption.map
      (fun s => (s.extensions, s.excluded)) =
        some (standardExtensions, ["build", "out", "a/b"]) := by
    decide +kernel
  cases hs : ofJson emptyHost (excluding ["/build/", " out ", "a/b"]) with
  | error fault =>
    rw [hs] at hread
    cases hread
  | ok s =>
    rw [hs] at hread
    obtain ⟨hextensions, hexcluded⟩ := Prod.mk.inj (Option.some.inj hread)
    have hlasting : s.Lasting := by
      refine ⟨?_, ?_⟩
      · rw [hextensions]
        have hbare : ∀ e ∈ standardExtensions, Bare isBlank e.toList := by decide
        exact fun e he => (hbare e he).1
      · rw [hexcluded]
        decide
    exact ⟨by decide, s, rfl, hexcluded,
      (ofJson_toJson_eq_self_iff (by decide) hs).2.2 hlasting⟩

/-- A name of slashes only is no blank one; it is kept, and nothing is left of it. A second reading
drops what is left. -/
theorem ofJson_toJson_slash : ∃ s again, ofJson emptyHost (excluding ["/"]) = .ok s ∧
    ofJson emptyHost s.toJson = .ok again ∧ s.excluded = [""] ∧ again.excluded = [] := by
  have hread : (ofJson emptyHost (excluding ["/"])).toOption.map Settings.excluded = some [""] := by
    decide +kernel
  cases hs : ofJson emptyHost (excluding ["/"]) with
  | error fault =>
    rw [hs] at hread
    cases hread
  | ok s =>
    rw [hs] at hread
    have hexcluded : s.excluded = [""] := Option.some.inj hread
    refine ⟨s, s.again, rfl, (accepted_of_ofJson (by decide) hs).ofJson_toJson, hexcluded, ?_⟩
    change normaliseExcluded s.excluded = []
    rw [hexcluded]
    decide

end Settings
end ReminderScan
