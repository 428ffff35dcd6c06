import ReminderScan.Proofs.Calendar.Written
import ReminderScan.Proofs.Document
import ReminderScan.Proofs.Settings.Load
import ReminderScan.Proofs.Tag.Search

/-! The time that settings give to tags without one. What settings take for the time of a clock is
what tags take for it on every day, so such a tag misses its point in time only if it misses its
day. -/

namespace ReminderScan

open Calendar Text

/-- Settings take the same texts for times as tags do on every day. So with settings that are
accepted the reminder of a tag without a time of its own is valid if its day is there. -/
theorem SettingsDraft.check_defaultTime (h : Host) :
    (∀ time : String, (∃ s, ({ defaultTime := .text time } : SettingsDraft).check h = .ok s) ↔
      ∀ date : Date, ∃ t, Timestamp.ofDateAndTime? date.text.toList time.toList = some t) ∧
    ∀ (draft : SettingsDraft) (s : Settings), draft.check h = .ok s →
      ∀ (file : String) (lines : List (List Char)) (n : Nat) (line day body : List Char),
        lines[n]? = some line → Tag.Leads line day none body →
        ∃ r ∈ Document.reminders s.defaultTime file lines,
          r.line = n + 1 ∧ r.date = String.ofList day ∧ r.time = s.defaultTime ∧
          (r.isValid = false ↔ ¬∃ date : Date, date.text = r.date) := by
  constructor
  · intro time
    rw [Timestamp.forall_date_iff]
    constructor
    · intro haccepted
      obtain ⟨-, -, -, ⟨given, heq, hclock⟩, -⟩ := exists_check.1 haccepted
      obtain rfl := Json.Value.text.inj heq
      exact hclock
    · intro hclock
      exact ⟨_, check_of_isSome h hclock⟩
  · intro draft s hs file lines n line day body hline hleads
    have hclock := Settings.isClock_of_check hs
    refine ⟨_, Document.mem_reminders_of_read? hline (Tag.read?_of_leads hleads s.defaultTime) file,
      rfl, rfl, String.ofList_toList, ?_⟩
    change (Timestamp.ofDateAndTime? day s.defaultTime.toList).isSome = false ↔
      ¬∃ date : Date, date.text = String.ofList day
    rw [Timestamp.isSome_ofDateAndTime? hclock, Date.exists_text_iff (Tag.isDay_of_leads hleads),
      Bool.not_eq_true]

theorem Tag.leads_of_isDay {day body : List Char} (hday : Tag.IsDay isAsciiDigit day)
    (hbody : ∃ c ∈ body, c ≠ '\n') :
    Tag.Leads ("// @reminder ".toList ++ (day ++ ':' :: body)) day none body := by
  have hblank : ∀ c ∈ [' '], isBlank c = true := List.forall_mem_singleton.2 rfl
  apply Tag.leads_of_annotates
  refine ⟨⟨"// @reminder ".toList ++ (day ++ [':']), ?_, ?_⟩, hbody⟩
  · simp
  · exact ⟨[' '], [' '], [], rfl, hblank, ⟨List.cons_ne_nil _ _, hblank⟩, hday, Or.inl ⟨rfl, rfl⟩⟩

/-- The same tag in a year without a leap day and in one with it. -/
def februaryLines : List (List Char) :=
  ["// @reminder 2023-02-29: pay".toList, "// @reminder 2024-02-29: pay".toList]

/-- The last minute of a day is accepted, a line feed behind a time is not. -/
theorem SettingsDraft.check_defaultTime_february :
    ({ defaultTime := .text "23:59" } : SettingsDraft).check Settings.emptyHost =
      .ok { defaultTime := "23:59" } ∧
    (¬∃ s, ({ defaultTime := .text "09:00\n" } : SettingsDraft).check Settings.emptyHost = .ok s) ∧
    (∃ r ∈ Document.reminders "23:59" "/w/a.py" februaryLines, r.line = 1 ∧ r.isValid = false) ∧
    ∃ r ∈ Document.reminders "23:59" "/w/a.py" februaryLines, r.line = 2 ∧ r.isValid = true := by
  have haccepted : ({ defaultTime := .text "23:59" } : SettingsDraft).check Settings.emptyHost =
      .ok { defaultTime := "23:59" } := check_of_isSome _ (by decide)
  obtain ⟨hagree, hvalid⟩ := check_defaultTime Settings.emptyHost
  have hcommon : Tag.IsDay isAsciiDigit "2023-02-29".toList :=
    isDay_iff.2 ⟨"2023".toList, "02".toList, "29".toList, rfl, by decide, by decide, by decide⟩
  have hleap : Tag.IsDay isAsciiDigit "2024-02-29".toList :=
    isDay_iff.2 ⟨"2024".toList, "02".toList, "29".toList, rfl, by decide, by decide, by decide⟩
  have hbody : ∃ c ∈ " pay".toList, c ≠ '\n' := ⟨'p', by decide, by decide⟩
  refine ⟨haccepted, ?_, ?_, ?_⟩
  · intro h
    have hnone : readClock? "09:00\n".toList = none := by decide
    rw [hagree, Timestamp.forall_date_iff, hnone] at h
    cases h
  · obtain ⟨r, hmem, hline, hdate, -, hinvalid⟩ :=
      hvalid _ _ haccepted "/w/a.py" februaryLines 0 _ _ _ rfl
      (Tag.leads_of_isDay hcommon hbody)
    refine ⟨r, hmem, hline, hinvalid.2 ?_⟩
    rw [hdate, Date.exists_text_iff hcommon]
    decide +kernel
  · obtain ⟨r, hmem, hline, hdate, -, hinvalid⟩ :=
      hvalid _ _ haccepted "/w/a.py" februaryLines 1 _ _ _ rfl
      (Tag.leads_of_isDay hleap hbody)
    have htext : (⟨2024, 2, 29, by decide⟩ : Date).text = String.ofList "2024-02-29".toList := by
      decide
    refine ⟨r, hmem, hline, eq_true_of_ne_false fun hnot => hinvalid.1 hnot ?_⟩
    exact ⟨_, htext.trans hdate.symm⟩

end ReminderScan
