import ReminderScan.Proofs.Settings.RoundTrip
import ReminderScan.Proofs.Text.Utf8
import ReminderScan.Settings.File

/-! What a file of settings brings. A file that holds no object stands for the standard settings,
but bytes that write no text and numbers that are too long are faults of their own. An object is
answered, with settings or with a fault of configuration, if what it gives is of the kinds that are
expected. -/

namespace ReminderScan

open Text

/-- The faults that say what is wrong with a setting. -/
inductive Fault.IsConfiguration : Fault → Prop
  | time (shown : String) : IsConfiguration (.invalidDefaultTime shown)
  | interval : IsConfiguration .invalidInterval

/-- There is a result, or else a fault that is none of configuration. -/
def Unchecked {α : Type} (x : Except Fault α) : Prop := ∀ f, x = .error f → ¬f.IsConfiguration

section

variable {α β : Type} {x : Except Fault α} {f : α → Except Fault β}

theorem Unchecked.bind (hx : Unchecked x) (hf : ∀ a, Unchecked (f a)) : Unchecked (x >>= f) := by
  intro e he
  rcases bind_eq_error.1 he with he | ⟨a, -, he⟩
  · exact hx e he
  · exact hf a e he

end

/-- The value is a path that has a form from the root on, or counts as false. -/
def Json.Value.MayBeRoot (h : Host) (v : Json.Value) : Prop :=
  v.isTruthy = true → ∃ s, v = .text s ∧ h.Nameable s

/-- The items of the value are texts: those of a list may be others, while a text is made of
characters and an object is known by its names. -/
def Json.Value.GivesTexts : Json.Value → Prop
  | .list items => ∀ item ∈ items, ∃ s, item = .text s
  | .text _ => True
  | .object _ => True
  | _ => False

section

variable {h : Host} {v : Json.Value}

theorem exists_checkRoot : (∃ root, checkRoot h v = .ok root) ↔ v.MayBeRoot h := by
  rw [checkRoot.eq_def, Json.Value.MayBeRoot]
  cases htruthy : v.isTruthy with
  | false => simp
  | true => cases v <;> simp [map_eq_ok, Host.exists_absoluteUser?]

theorem exists_textsOf {items : List Json.Value} :
    (∃ texts, textsOf items = .ok texts) ↔ ∀ item ∈ items, ∃ s, item = .text s := by
  induction items with
  | nil => simp [textsOf]
  | cons item rest ih =>
    rw [List.forall_mem_cons, ← ih]
    cases item <;> simp [textsOf, map_eq_ok]

theorem exists_itemsOf : (∃ texts, itemsOf v >>= textsOf = .ok texts) ↔ v.GivesTexts := by
  cases v with
  | list items => exact exists_textsOf
  | text s =>
    refine iff_of_true (exists_textsOf.2 ?_) trivial
    intro item hitem
    obtain ⟨c, -, rfl⟩ := List.mem_map.1 hitem
    exact ⟨_, rfl⟩
  | object members =>
    refine iff_of_true (exists_textsOf.2 ?_) trivial
    intro item hitem
    obtain ⟨m, -, rfl⟩ := List.mem_map.1 hitem
    exact ⟨_, rfl⟩
  | _ =>
    apply iff_of_false _ id
    rintro ⟨_, ⟨⟩⟩

theorem exists_checkTime : (∃ time, checkTime v = .ok time) ↔
    ∃ s, v = .text s ∧ (Calendar.readClock? s.toList).isSome = true := by
  cases v with
  | text s =>
    simp only [← Calendar.isClockTime_eq]
    rw [checkTime.eq_def]
    dsimp only
    split
    · rename_i hclock
      exact iff_of_true ⟨s, rfl⟩ ⟨s, rfl, hclock⟩
    · rename_i hclock
      simp [hclock]
  | _ => simp [checkTime.eq_def]

end

namespace SettingsDraft

variable {h : Host} {d : SettingsDraft}

theorem exists_check : (∃ s, d.check h = .ok s) ↔ d.root.MayBeRoot h ∧ d.extensions.GivesTexts ∧
    d.excluded.GivesTexts ∧
    (∃ time, d.defaultTime = .text time ∧ (Calendar.readClock? time.toList).isSome = true) ∧
    d.interval.isNonpositive = false := by
  rw [← exists_checkRoot (h := h), ← exists_itemsOf, ← exists_itemsOf, ← exists_checkTime]
  simp only [Settings.check_eq_ok]
  constructor
  · rintro ⟨_, root, extensions, excluded, time, hroot, hextensions, hexcluded, htime, hinterval, -⟩
    exact ⟨⟨root, hroot⟩, ⟨extensions, hextensions⟩, ⟨excluded, hexcluded⟩,
      ⟨time, htime⟩, hinterval⟩
  · rintro ⟨⟨root, hroot⟩, ⟨extensions, hextensions⟩, ⟨excluded, hexcluded⟩,
      ⟨time, htime⟩, hinterval⟩
    exact ⟨_, root, extensions, excluded, time, hroot, hextensions, hexcluded, htime,
      hinterval, rfl⟩

/-- Where nothing but a time is given, the rest passes its own check. -/
theorem check_of_isSome (h : Host) {time : String}
    (hclock : (Calendar.readClock? time.toList).isSome = true) :
    ({ defaultTime := .text time } : SettingsDraft).check h = .ok { defaultTime := time } := by
  have htime : checkTime (.text time) = .ok time :=
    if_pos ((Calendar.isClockTime_eq _).trans hclock)
  have hinterval : ({} : SettingsDraft).interval.isNonpositive = false := by decide +kernel
  have hextensions : normaliseExtensions standardExtensions = standardExtensions := by
    decide +kernel
  have hexcluded : normaliseExcluded standardExcluded = standardExcluded := by decide +kernel
  apply Settings.check_eq_ok.2
  refine ⟨none, standardExtensions, standardExcluded, time, rfl, rfl, rfl, htime, hinterval, ?_⟩
  rw [hextensions, hexcluded]

/-- What stands where nothing is given passes its own check. -/
theorem check_standard (h : Host) : ({} : SettingsDraft).check h = .ok {} :=
  check_of_isSome h (by decide)

end SettingsDraft

namespace Settings

variable {h : Host} {members : List (String × Json.Value)}

/-- The value of a field in a part of an object, if it is given. -/
def field? (members : List (String × Json.Value)) (part name : String) : Option Json.Value :=
  match Json.lookup? part members with
  | some (.object inner) => Json.lookup? name inner
  | _ => none

section

variable {x : Number.Binary64}

end

section

variable {path : String} {bytes : List UInt8} {modified : Number.Binary64}

theorem load_of_file (hfile : h.openFile (h.absoluteUser path) = .ok (bytes, modified)) :
    load h path =
      match Utf8.decode bytes with
      | .error cause => .error (.undecodable cause)
      | .ok text =>
        match Json.parse (unifyLineEnds text) with
        | .error .malformed => .ok {}
        | .error (.tooManyDigits count) => .error (.tooManyDigits count)
        | .error .halfPair => .error .halfPair
        | .ok (.object members) => ofJson h (.object members)
        | .ok _ => .ok {} := by
  have hexists : h.pathExists (h.absoluteUser path) = true := by
    rw [Host.openFile] at hfile
    rw [Host.pathExists]
    split at hfile
    · cases hfile
    · rename_i hl
      rw [hl]
    · cases hfile
    · cases hfile
  unfold load Host.readText
  simp only [hexists, hfile, Bool.not_true, Bool.false_eq_true, if_false, bind, Except.bind]
  cases Utf8.decode bytes <;> rfl

/-- Settings from a file are the standard ones, or they are read from an object. -/
theorem eq_standard_or_of_load {s : Settings} (hl : load h path = .ok s) : s = {} ∨
    ∃ text members, Json.parse text = .ok (.object members) ∧
      ofJson h (.object members) = .ok s := by
  unfold load at hl
  dsimp only at hl
  split at hl
  · exact Or.inl (Except.ok.inj hl).symm
  · obtain ⟨text, -, hl⟩ := bind_eq_ok.1 hl
    split at hl
    · exact Or.inl (Except.ok.inj hl).symm
    · cases hl
    · cases hl
    · rename_i members hparse
      exact Or.inr ⟨_, members, hparse, hl⟩
    · exact Or.inl (Except.ok.inj hl).symm

theorem loadNamed_eq_ok {s : Settings} :
    loadNamed h path = .ok s ↔ h.Nameable path ∧ load h path = .ok s := by
  rw [loadNamed, bind_eq_ok, exists_and_right, Host.exists_absoluteUser?]

end

end Settings
end ReminderScan
