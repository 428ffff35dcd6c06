import ReminderScan.Json.Parser
import ReminderScan.Json.Printer

/-! A text that was written between quotation marks is read back, whichever of its characters are
written by number. -/

namespace ReminderScan.Json

open Text

variable {c : Char} {rest : List Char}

theorem hexValue?_digitChar {n : Nat} (hn : n < 16) : hexValue? (Nat.digitChar n) = some n := by
  have hall : ∀ n : Fin 16, hexValue? (Nat.digitChar n) = some n.val := by decide
  exact hall ⟨n, hn⟩

/-- The four characters that write a unit by number. -/
theorem exists_hexDigits {n : Nat} (hn : n < 0x10000) :
    ∃ a b c d, hexDigits 4 n = [a, b, c, d] ∧ hexUnit? a b c d = some n := by
  refine ⟨_, _, _, _, rfl, ?_⟩
  simp only [hexUnit?]
  rw [hexValue?_digitChar (Nat.mod_lt _ (by decide)),
    hexValue?_digitChar (Nat.mod_lt _ (by decide)),
    hexValue?_digitChar (Nat.mod_lt _ (by decide)), hexValue?_digitChar (Nat.mod_lt _ (by decide))]
  refine congrArg some ?_
  have h3 : Nat.pow 16 3 = 4096 := rfl
  have h2 : Nat.pow 16 2 = 256 := rfl
  have h1 : Nat.pow 16 1 = 16 := rfl
  have h0 : Nat.pow 16 0 = 1 := rfl
  rw [h3, h2, h1, h0]
  omega

/-- A character put before what was read. -/
def withChar (c : Char) (found : Except Defect (List Char × List Char)) :
    Except Defect (List Char × List Char) :=
  found.map fun (cs, rest) => (c :: cs, rest)

theorem toNat_valid (c : Char) : c.toNat < 0xD800 ∨ 0xDFFF < c.toNat ∧ c.toNat < 0x110000 := c.valid

theorem toNat_not_unit (c : Char) : isHighUnit c.toNat = false ∧ isLowUnit c.toNat = false := by
  have hvalid := toNat_valid c
  rw [isHighUnit, isLowUnit, Bool.and_eq_false_iff, Bool.and_eq_false_iff, decide_eq_false_iff_not,
    decide_eq_false_iff_not, decide_eq_false_iff_not, decide_eq_false_iff_not]
  omega

theorem readString_unit (hc : c.toNat < 0x10000) (rest : List Char) :
    readString none (unitEscape c.toNat ++ rest) = withChar c (readString none rest) := by
  obtain ⟨a, b, c', d, hdigits, hunit⟩ := exists_hexDigits hc
  obtain ⟨hhigh, hlow⟩ := toNat_not_unit c
  rw [unitEscape, hdigits]
  simp only [List.cons_append, List.nil_append, readString, hunit, hhigh, hlow, Char.ofNat_toNat]
  rfl

/-- A number past the first plane as two units. -/
theorem exists_units {n : Nat} (hplane : 0x10000 ≤ n) (hlast : n < 0x110000) : ∃ high low,
    0xD800 + (n - 0x10000) / 0x400 = high ∧ 0xDC00 + (n - 0x10000) % 0x400 = low ∧
      high < 0x10000 ∧ low < 0x10000 ∧ isHighUnit high = true ∧ isLowUnit low = true ∧
      0x10000 + (high - 0xD800) * 0x400 + (low - 0xDC00) = n := by
  refine ⟨_, _, rfl, rfl, by omega, by omega, ?_, ?_, by omega⟩
  · rw [isHighUnit, Bool.and_eq_true, decide_eq_true_eq, decide_eq_true_eq]
    omega
  · rw [isLowUnit, Bool.and_eq_true, decide_eq_true_eq, decide_eq_true_eq]
    omega

theorem readString_pair (hc : 0x10000 ≤ c.toNat) (rest : List Char) :
    readString none (unitEscape (0xD800 + (c.toNat - 0x10000) / 0x400) ++
      unitEscape (0xDC00 + (c.toNat - 0x10000) % 0x400) ++ rest) =
        withChar c (readString none rest) := by
  have hlast : c.toNat < 0x110000 := by
    have hvalid := toNat_valid c
    omega
  obtain ⟨high, low, hhigh, hlow, hhigh16, hlow16, hisHigh, hisLow, hback⟩ := exists_units hc hlast
  obtain ⟨a, b, c', d, hdigits, hunit⟩ := exists_hexDigits hhigh16
  obtain ⟨a', b', c'', d', hdigits', hunit'⟩ := exists_hexDigits hlow16
  have hchar : Char.ofNat (0x10000 + (high - 0xD800) * 0x400 + (low - 0xDC00)) = c := by
    rw [hback]
    exact Char.ofNat_toNat c
  rw [hhigh, hlow, unitEscape, unitEscape, hdigits, hdigits']
  simp only [List.cons_append, List.nil_append, readString, hunit, hunit', hisLow, hisHigh, hchar]
  cases readString none rest with
  | error e => rfl
  | ok found => rfl

theorem readString_plain (hquote : c ≠ '"') (hslash : c ≠ '\\') (hlarge : 0x20 ≤ c.toNat)
    (rest : List Char) : readString none (c :: rest) = withChar c (readString none rest) := by
  have hkept : (c = '\\' || decide (c.toNat < 0x20)) = false := by
    simp [hslash, hlarge]
  rw [readString.eq_def]
  split
  · rename_i hmark
    exact absurd (List.cons.inj hmark).1 hquote
  · rename_i hmark
    exact absurd (List.cons.inj hmark).1 hslash
  · rename_i hmark
    exact absurd (List.cons.inj hmark).1 hslash
  · rename_i hcons
    obtain ⟨rfl, rfl⟩ := List.cons.inj hcons
    rw [hkept]
    rfl
  · rename_i hnil
    cases hnil

theorem readString_escapeChar (asciiOnly : Bool) (c : Char) (rest : List Char) :
    readString none (escapeChar asciiOnly c ++ rest) = withChar c (readString none rest) := by
  by_cases hshort : c ∈ ['"', '\\', '\n', '\r', '\t', '\x0c', '\x08']
  · simp only [List.mem_cons, List.not_mem_nil, or_false] at hshort
    rcases hshort with rfl | rfl | rfl | rfl | rfl | rfl | rfl
    all_goals rfl
  · simp only [List.mem_cons, List.not_mem_nil, or_false, not_or] at hshort
    obtain ⟨h₁, h₂, h₃, h₄, h₅, h₆, h₇⟩ := hshort
    simp only [escapeChar, h₁, h₂, h₃, h₄, h₅, h₆, h₇, if_false]
    split
    · exact readString_unit (by omega) rest
    · rename_i hlarge
      split
      · split
        · rename_i hplane
          exact readString_unit hplane rest
        · rename_i hplane
          exact readString_pair (Nat.le_of_not_lt hplane) rest
      · exact readString_plain h₁ h₂ (Nat.le_of_not_lt hlarge) rest

theorem readString_flatMap (asciiOnly : Bool) (cs rest : List Char) :
    readString none (cs.flatMap (escapeChar asciiOnly) ++ '"' :: rest) = .ok (cs, rest) := by
  induction cs with
  | nil => rfl
  | cons c cs ih =>
    rw [List.flatMap_cons, List.append_assoc, readString_escapeChar, ih, withChar]; rfl

/-- After its opening mark, a written text is read up to its closing mark. -/
theorem readString_writtenString (asciiOnly : Bool) (s : String) (rest : List Char) :
    ∃ tail, writtenString asciiOnly s ++ rest = '"' :: tail ∧
      readString none tail = .ok (s.toList, rest) := by
  refine ⟨s.toList.flatMap (escapeChar asciiOnly) ++ '"' :: rest, ?_, readString_flatMap _ _ _⟩
  rw [writtenString, List.cons_append, List.cons_append, List.append_assoc]
  rfl

end ReminderScan.Json
