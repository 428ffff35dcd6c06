import ReminderScan.Text.Blank
import ReminderScan.Text.LowerCase

/-! Lower-casing a second time changes nothing, for no small letter has a small letter of its own.
The table of capitals is checked run by run: the small letters of a run meet no run of capitals. -/

namespace ReminderScan.Text

namespace CaseRun

/-- The first and the last of the small letters of a run. -/
def low (run : CaseRun) : Nat := (run.first + run.shift).toNat

def high (run : CaseRun) : Nat := (run.last + run.shift).toNat

/-- No small letter of the run is one of the characters of another run: they lie apart, or every
second one is passed over and they fall between. -/
def misses (run other : CaseRun) : Bool :=
  Nat.blt run.high other.first || Nat.blt other.last run.low ||
    ((run.step == 2 || run.low == run.high) && other.step == 2 && (run.low + other.first) % 2 == 1)

/-- The small letters of the run lie above zero, and on one side of the numbers that are no
characters. -/
def IsSound (run : CaseRun) : Prop :=
  0 ≤ run.first + run.shift ∧ (run.high < 0xD800 ∨ 0xDFFF < run.low ∧ run.high < 0x110000)

instance (run : CaseRun) : Decidable run.IsSound := by unfold IsSound; infer_instance

/-- Characters that are no small letter: the capital that is in no run, the dot, and the blanks. -/
def others : List CaseRun := [
  ⟨0x130, 0x130, 1, 0⟩, ⟨0x2E, 0x2E, 1, 0⟩, ⟨9, 13, 1, 0⟩, ⟨28, 32, 1, 0⟩, ⟨0x85, 0x85, 1, 0⟩,
  ⟨0xA0, 0xA0, 1, 0⟩, ⟨0x1680, 0x1680, 1, 0⟩, ⟨0x2000, 0x200A, 1, 0⟩, ⟨0x2028, 0x2029, 1, 0⟩,
  ⟨0x202F, 0x202F, 1, 0⟩, ⟨0x205F, 0x205F, 1, 0⟩, ⟨0x3000, 0x3000, 1, 0⟩]

theorem misses_of_mem : ∀ run ∈ caseRuns, ∀ other ∈ caseRuns ++ others,
    run.misses other = true := by
  decide +kernel

theorem isSound_of_mem : ∀ run ∈ caseRuns, run.IsSound := by
  decide +kernel

/-- The small letter of a capital in one run is in no run that this run misses. -/
theorem not_holds_of_misses {run other : CaseRun} (hmiss : run.misses other = true)
    (hsound : run.IsSound) {n : Nat} (hn : run.holds n = true) :
    other.holds (n + run.shift).toNat = false := by
  obtain ⟨first, last, step, shift⟩ := run
  obtain ⟨first', last', step', shift'⟩ := other
  simp only [holds, misses, IsSound, low, high, Bool.and_eq_true, Bool.or_eq_true,
    decide_eq_true_eq, beq_iff_eq, Nat.blt_eq] at hmiss hsound hn
  apply Bool.eq_false_iff.2
  intro hother
  simp only [holds, Bool.and_eq_true, decide_eq_true_eq, beq_iff_eq] at hother
  rcases hmiss with (hbelow | habove) | ⟨⟨hstep, rfl⟩, hparity⟩
  · omega
  · omega
  · rcases hstep with rfl | hsingle
    · omega
    · omega

end CaseRun

/-- Every character that the mapping leaves as it is. -/
def IsSmall (c : Char) : Prop := c ≠ '\u0130' ∧ ∀ run ∈ caseRuns, run.holds c.toNat = false

theorem IsSmall.lowerChar {c : Char} (h : IsSmall c) : Text.lowerChar c = c := by
  have hfind : caseRuns.find? (·.holds c.toNat) = none := by
    rw [List.find?_eq_none]
    intro run hrun
    rw [h.2 run hrun]
    exact Bool.false_ne_true
  rw [Text.lowerChar, hfind]

theorem lowerChar_cases (c : Char) :
    (lowerChar c = c ∧ ∀ run ∈ caseRuns, run.holds c.toNat = false) ∨
    ∀ other ∈ caseRuns ++ CaseRun.others, other.holds (lowerChar c).toNat = false := by
  rw [lowerChar]
  cases hfind : caseRuns.find? (·.holds c.toNat) with
  | none =>
    refine Or.inl ⟨rfl, ?_⟩
    intro run hrun
    have hnot := List.find?_eq_none.1 hfind run hrun
    exact Bool.eq_false_iff.2 hnot
  | some run =>
    have hmem : run ∈ caseRuns := List.mem_of_find?_eq_some hfind
    have hholds : run.holds c.toNat = true := by simpa using List.find?_some hfind
    have hsound := CaseRun.isSound_of_mem run hmem
    have hvalid : (c.toNat + run.shift).toNat.isValidChar := by
      have hsound' := hsound
      have hholds' := hholds
      obtain ⟨first, last, step, shift⟩ := run
      simp only [CaseRun.holds, CaseRun.IsSound, CaseRun.low, CaseRun.high, Bool.and_eq_true,
        decide_eq_true_eq, beq_iff_eq] at hholds' hsound'
      simp only [Nat.isValidChar]
      omega
    have hsmall : (Char.ofNat (c.toNat + run.shift).toNat).toNat = (c.toNat + run.shift).toNat := by
      rw [Char.ofNat, dif_pos hvalid]
      rfl
    refine Or.inr ?_
    intro other hother
    change other.holds (Char.ofNat (c.toNat + run.shift).toNat).toNat = false
    rw [hsmall]
    exact CaseRun.not_holds_of_misses (CaseRun.misses_of_mem run hmem other hother) hsound hholds

theorem isSmall_lowerChar {c : Char} (hc : c ≠ '\u0130') : IsSmall (lowerChar c) := by
  rcases lowerChar_cases c with ⟨hsame, hnone⟩ | hmiss
  · rw [hsame]
    exact ⟨hc, hnone⟩
  · refine ⟨?_, ?_⟩
    · intro hdotted
      have hnot := hmiss ⟨0x130, 0x130, 1, 0⟩ (List.mem_append_right _ List.mem_cons_self)
      rw [hdotted] at hnot
      exact absurd hnot (by decide)
    · intro run hrun
      exact hmiss run (List.mem_append_left _ hrun)

theorem any_holds_of_isBlank {c : Char} (h : isBlank c = true) :
    CaseRun.others.any (·.holds c.toNat) = true := by
  simp only [isBlank, Bool.or_eq_true, Bool.and_eq_true, decide_eq_true_eq, beq_iff_eq] at h
  simp only [CaseRun.others, CaseRun.holds, List.any_cons, Bool.or_eq_true, Bool.and_eq_true,
    decide_eq_true_eq, beq_iff_eq]
  omega

theorem eq_lowerChar_of_holds {c : Char}
    (h : CaseRun.others.any (·.holds (lowerChar c).toNat) = true) : lowerChar c = c := by
  rcases lowerChar_cases c with ⟨hsame, -⟩ | hmiss
  · exact hsame
  · obtain ⟨other, hother, hholds⟩ := List.any_eq_true.1 h
    rw [hmiss other (List.mem_append_right _ hother)] at hholds
    exact absurd hholds Bool.false_ne_true

/-- What one character may become: its small letter, or a letter that `İ` or a sigma becomes. -/
def Lowers (c d : Char) : Prop :=
  (c ≠ '\u0130' ∧ d = lowerChar c) ∨ d ∈ ['i', '\u0307', '\u03c2', '\u03c3']

namespace Lowers

variable {c d : Char}

theorem isSmall (h : Lowers c d) : IsSmall d := by
  rcases h with ⟨hc, rfl⟩ | hd
  · exact isSmall_lowerChar hc
  · have hall : ∀ d ∈ ['i', '\u0307', '\u03c2', '\u03c3'],
        d ≠ '\u0130' ∧ ∀ run ∈ caseRuns, run.holds d.toNat = false := by
      simp only [List.forall_mem_cons, List.not_mem_nil, false_implies, implies_true, and_true]
      decide +kernel
    exact hall d hd

theorem isBlank (h : Lowers c d) (hblank : isBlank d = true) : Text.isBlank c = true := by
  rcases h with ⟨-, rfl⟩ | hd
  · rw [eq_lowerChar_of_holds (any_holds_of_isBlank hblank)] at hblank
    exact hblank
  · have hall : ∀ d ∈ ['i', '\u0307', '\u03c2', '\u03c3'], Text.isBlank d = false := by
      simp only [List.forall_mem_cons, List.not_mem_nil, false_implies, implies_true, and_true]
      decide
    rw [hall d hd] at hblank
    exact absurd hblank Bool.false_ne_true

theorem eq_dot (h : Lowers c d) (hdot : d = '.') : c = '.' := by
  rcases h with ⟨-, rfl⟩ | hd
  · rw [← hdot]
    apply (eq_lowerChar_of_holds _).symm
    rw [hdot]
    decide
  · rw [hdot] at hd
    exact absurd hd (by decide)

end Lowers

theorem lowerFrom_cons (inWord : Bool) (c : Char) (rest : List Char) : ∃ inWord' small,
    lowerFrom inWord (c :: rest) = small ++ lowerFrom inWord' rest ∧ small ≠ [] ∧
      ∀ d ∈ small, Lowers c d := by
  refine ⟨if caseIgnorable.contains c then inWord else cased.contains c, ?_⟩
  rw [lowerFrom]
  split
  · exact ⟨['i', '\u0307'], rfl, by simp, by simp [Lowers]⟩
  · split
    · split
      · exact ⟨['\u03c2'], rfl, by simp, by simp [Lowers]⟩
      · exact ⟨['\u03c3'], rfl, by simp, by simp [Lowers]⟩
    · rename_i hdotted _
      exact ⟨[lowerChar c], rfl, by simp, by simp [Lowers, hdotted]⟩

theorem isSmall_of_mem_lowerFrom (inWord : Bool) (text : List Char) :
    ∀ d ∈ lowerFrom inWord text, IsSmall d := by
  induction text generalizing inWord with
  | nil =>
    intro d hd
    exact absurd hd List.not_mem_nil
  | cons c rest ih =>
    obtain ⟨inWord', small, hsplit, -, hsmall⟩ := lowerFrom_cons inWord c rest
    intro d hd
    rw [hsplit, List.mem_append] at hd
    rcases hd with hd | hd
    · exact (hsmall d hd).isSmall
    · exact ih inWord' d hd

theorem lowerFrom_of_isSmall (inWord : Bool) {text : List Char} (h : ∀ c ∈ text, IsSmall c) :
    lowerFrom inWord text = text := by
  induction text generalizing inWord with
  | nil => rfl
  | cons c rest ih =>
    have hc : IsSmall c := h c List.mem_cons_self
    have hsigma : c ≠ '\u03a3' := by
      rintro rfl
      have hheld : ¬ ∀ run ∈ caseRuns, run.holds '\u03a3'.toNat = false := by decide +kernel
      exact hheld hc.2
    rw [lowerFrom, if_neg hc.1, if_neg hsigma, hc.lowerChar]
    congr 1
    exact ih _ fun d hd => h d (List.mem_cons_of_mem _ hd)

theorem head?_lowerFrom (inWord : Bool) (text : List Char) :
    ∀ d ∈ (lowerFrom inWord text).head?, ∃ c ∈ text.head?, Lowers c d := by
  cases text with
  | nil =>
    intro d hd
    exact absurd hd (by simp [lowerFrom])
  | cons c rest =>
    obtain ⟨inWord', small, hsplit, hne, hsmall⟩ := lowerFrom_cons inWord c rest
    obtain ⟨first, others, rfl⟩ := List.exists_cons_of_ne_nil hne
    intro d hd
    rw [hsplit] at hd
    obtain rfl : first = d := Option.some.inj hd
    exact ⟨c, rfl, hsmall first List.mem_cons_self⟩

theorem getLast?_lowerFrom (inWord : Bool) (text : List Char) :
    ∀ d ∈ (lowerFrom inWord text).getLast?, ∃ c ∈ text.getLast?, Lowers c d := by
  induction text generalizing inWord with
  | nil =>
    intro d hd
    exact absurd hd (by simp [lowerFrom])
  | cons c rest ih =>
    obtain ⟨inWord', small, hsplit, -, hsmall⟩ := lowerFrom_cons inWord c rest
    intro d hd
    rw [hsplit, List.getLast?_append] at hd
    cases hlast : (lowerFrom inWord' rest).getLast? with
    | some d' =>
      rw [hlast] at hd
      obtain rfl : d' = d := Option.some.inj hd
      obtain ⟨c', hc', hlowers⟩ := ih inWord' d' hlast
      refine ⟨c', ?_, hlowers⟩
      rw [List.getLast?_cons, Option.mem_def.1 hc']
      rfl
    | none =>
      rw [hlast, Option.none_or] at hd
      have hrest : rest = [] := by
        cases rest with
        | nil => rfl
        | cons next others =>
          obtain ⟨_, small', hsplit', hne', -⟩ := lowerFrom_cons inWord' next others
          rw [hsplit', List.getLast?_eq_none_iff] at hlast
          exact absurd (List.append_eq_nil_iff.1 hlast).1 hne'
      subst hrest
      exact ⟨c, rfl, hsmall d (List.mem_of_getLast? hd)⟩

end ReminderScan.Text
