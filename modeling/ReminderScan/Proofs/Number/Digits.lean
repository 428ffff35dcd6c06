import Mathlib.Algebra.Order.Ring.Nat
import Mathlib.Data.List.Basic
import ReminderScan.Number.Written
import ReminderScan.Proofs.Text.Strip
import ReminderScan.Text.DecimalDigit

/-! Whole numbers in decimal digits: what is written is read back, a row of digits writes a number
below the power of ten that has one zero for each, and rows of one length stand in the order of
their numbers. -/

namespace ReminderScan.Number

open Text

theorem digitValue?_of_isAsciiDigit {c : Char} (hc : isAsciiDigit c = true) :
    digitValue? c = some (c.toNat - 48) := by
  have hrange : 0x30 ≤ c.toNat ∧ c.toNat ≤ 0x30 + 9 := by
    simpa [isAsciiDigit] using hc
  rw [digitValue?, digitZeros, List.find?_cons_of_pos (by simpa using hrange)]
  rfl

theorem isDecimalDigit_of_isAsciiDigit {c : Char} (hc : isAsciiDigit c = true) :
    isDecimalDigit c = true := by
  rw [isDecimalDigit, digitValue?_of_isAsciiDigit hc]
  rfl

theorem isAsciiDigit_eq_isDigit (c : Char) : isAsciiDigit c = c.isDigit := by
  rw [Bool.eq_iff_iff, isAsciiDigit, Char.isDigit]
  simp only [Bool.and_eq_true, decide_eq_true_eq, ge_iff_le, UInt32.le_iff_toNat_le]
  rfl

theorem isAsciiDigit_of_mem_toDigits {n : Nat} {c : Char} (hc : c ∈ Nat.toDigits 10 n) :
    isAsciiDigit c = true := by
  rw [isAsciiDigit_eq_isDigit]
  exact Nat.isDigit_of_mem_toDigits (by decide) (by decide) hc

theorem foldl_digitValue {ds : List Char} (hds : ∀ c ∈ ds, isAsciiDigit c = true) (n : Nat) :
    ds.foldl (fun n c => 10 * n + (digitValue? c).getD 0) n = Nat.ofDigitChars 10 ds n := by
  rw [Nat.ofDigitChars_eq_foldl]
  induction ds generalizing n with
  | nil => rfl
  | cons c ds ih =>
    obtain ⟨hc, hds⟩ := List.forall_mem_cons.1 hds
    rw [List.foldl_cons, List.foldl_cons, digitValue?_of_isAsciiDigit hc]
    exact ih hds _

theorem digitsValue_eq_ofDigitChars {ds : List Char} (hds : ∀ c ∈ ds, isAsciiDigit c = true) :
    digitsValue ds = Nat.ofDigitChars 10 ds 0 := foldl_digitValue hds 0

theorem digitsValue_toDigits (n : Nat) : digitsValue (Nat.toDigits 10 n) = n := by
  rw [digitsValue_eq_ofDigitChars fun c => isAsciiDigit_of_mem_toDigits]
  exact Nat.ofDigitChars_ten_toDigits

theorem digitsValue_append {ds es : List Char} (hds : ∀ c ∈ ds, isAsciiDigit c = true)
    (hes : ∀ c ∈ es, isAsciiDigit c = true) :
    digitsValue (ds ++ es) = 10 ^ es.length * digitsValue ds + digitsValue es := by
  rw [digitsValue_eq_ofDigitChars hds, digitsValue_eq_ofDigitChars hes, digitsValue_eq_ofDigitChars,
    Nat.ofDigitChars_append, Nat.ofDigitChars_eq_ofDigitChars_zero]
  intro c hc
  rcases List.mem_append.1 hc with hc | hc
  · exact hds c hc
  · exact hes c hc

theorem isAsciiDigit_of_mem_zeros {n : Nat} {c : Char} (hc : c ∈ List.replicate n '0') :
    isAsciiDigit c = true := by
  rw [List.eq_of_mem_replicate hc]
  rfl

theorem digitsValue_zeros (n : Nat) : digitsValue (List.replicate n '0') = 0 := by
  rw [digitsValue_eq_ofDigitChars fun c => isAsciiDigit_of_mem_zeros,
    Nat.ofDigitChars_replicate_zero, Nat.mul_zero]

theorem digitsValue_singleton {c : Char} (hc : isAsciiDigit c = true) :
    digitsValue [c] = c.toNat - 48 := by
  rw [digitsValue, List.foldl_cons, List.foldl_nil, digitValue?_of_isAsciiDigit hc,
    Option.getD_some]
  omega

theorem digitsValue_cons {c : Char} {ds : List Char} (hc : isAsciiDigit c = true)
    (hds : ∀ c ∈ ds, isAsciiDigit c = true) :
    digitsValue (c :: ds) = 10 ^ ds.length * (c.toNat - 48) + digitsValue ds := by
  have hsplit := digitsValue_append (List.forall_mem_singleton.2 hc) hds
  rw [digitsValue_singleton hc] at hsplit
  exact hsplit

theorem digitsValue_lt {ds : List Char} (hds : ∀ c ∈ ds, isAsciiDigit c = true) :
    digitsValue ds < 10 ^ ds.length := by
  induction ds with
  | nil => decide
  | cons c ds ih =>
    obtain ⟨hc, hds⟩ := List.forall_mem_cons.1 hds
    have hrest := ih hds
    have hfirst : c.toNat - 48 ≤ 9 := by
      simp only [isAsciiDigit, Bool.and_eq_true, decide_eq_true_eq] at hc
      omega
    have hbound : 10 ^ ds.length * (c.toNat - 48) ≤ 10 ^ ds.length * 9 :=
      Nat.mul_le_mul_left _ hfirst
    rw [digitsValue_cons hc hds, List.length_cons, Nat.pow_succ]
    omega

theorem digitCount_le_iff {n k : Nat} (hk : 0 < k) : digitCount n ≤ k ↔ n < 10 ^ k :=
  Nat.length_toDigits_le_iff (by decide) hk

theorem digitCount_digitsValue_le {ds : List Char} (hds : ∀ c ∈ ds, isAsciiDigit c = true)
    (hne : ds ≠ []) : digitCount (digitsValue ds) ≤ ds.length :=
  (digitCount_le_iff (List.length_pos_iff.2 hne)).2 (digitsValue_lt hds)

/-- Numbers in two parts are compared by the higher part first. -/
theorem mul_add_lt_mul_add_iff {p x y u v : Nat} (hu : u < p) (hv : v < p) :
    p * x + u < p * y + v ↔ x < y ∨ x = y ∧ u < v := by
  rcases Nat.lt_trichotomy x y with hlt | rfl | hgt
  · have hstep : p * (x + 1) ≤ p * y := Nat.mul_le_mul_left p hlt
    rw [Nat.mul_succ] at hstep
    omega
  · omega
  · have hstep : p * (y + 1) ≤ p * x := Nat.mul_le_mul_left p hgt
    rw [Nat.mul_succ] at hstep
    omega

/-- Rows of digits of one length stand in the order of the numbers that they write. -/
theorem lt_iff_digitsValue_lt {ds es : List Char} (hds : ∀ c ∈ ds, isAsciiDigit c = true)
    (hes : ∀ c ∈ es, isAsciiDigit c = true) (hlength : ds.length = es.length) :
    ds < es ↔ digitsValue ds < digitsValue es := by
  induction ds generalizing es with
  | nil =>
    obtain rfl := List.length_eq_zero_iff.1 hlength.symm
    simp
  | cons c ds ih =>
    cases es with
    | nil => cases hlength
    | cons e es =>
      obtain ⟨hc, hds⟩ := List.forall_mem_cons.1 hds
      obtain ⟨he, hes⟩ := List.forall_mem_cons.1 hes
      have hlength := Nat.succ.inj hlength
      have hlow := digitsValue_lt hds
      have hlow' := digitsValue_lt hes
      rw [hlength] at hlow
      rw [List.cons_lt_cons_iff, ih hds hes hlength, digitsValue_cons hc hds,
        digitsValue_cons he hes,
        hlength, mul_add_lt_mul_add_iff hlow hlow', Char.lt_def, UInt32.lt_iff_toNat_lt,
        ← Char.toNat_inj]
      simp only [isAsciiDigit, Bool.and_eq_true, decide_eq_true_eq] at hc he
      change c.toNat < e.toNat ∨ _ ↔ _
      omega

/-- Rows of digits of one length differ in the number that they write. -/
theorem eq_of_digitsValue_eq {ds es : List Char} (hds : ∀ c ∈ ds, isAsciiDigit c = true)
    (hes : ∀ c ∈ es, isAsciiDigit c = true) (hlength : ds.length = es.length)
    (hvalue : digitsValue ds = digitsValue es) : ds = es := by
  have hle : ¬ es < ds := fun hlt => by
    have := (lt_iff_digitsValue_lt hes hds hlength.symm).1 hlt
    omega
  have hge : ¬ ds < es := fun hlt => by
    have := (lt_iff_digitsValue_lt hds hes hlength).1 hlt
    omega
  exact List.le_antisymm hle hge

theorem isAsciiDigit_of_mem_padded {width n : Nat} {c : Char} (hc : c ∈ padded width n) :
    isAsciiDigit c = true := by
  rw [padded, List.mem_append] at hc
  rcases hc with hc | hc
  · exact isAsciiDigit_of_mem_zeros hc
  · exact isAsciiDigit_of_mem_toDigits hc

theorem padded_ne_nil (width n : Nat) : padded width n ≠ [] := by
  rw [padded]
  exact List.append_ne_nil_of_right_ne_nil _ Nat.toDigits_ne_nil

theorem digitsValue_padded (width n : Nat) : digitsValue (padded width n) = n := by
  rw [padded, digitsValue_append (fun c => isAsciiDigit_of_mem_zeros)
    (fun c => isAsciiDigit_of_mem_toDigits), digitsValue_zeros, digitsValue_toDigits, Nat.mul_zero,
    Nat.zero_add]

theorem padded_injective {width n m : Nat} (h : padded width n = padded width m) : n = m := by
  rw [← digitsValue_padded width n, h, digitsValue_padded]

theorem length_padded {width n : Nat} (hw : 0 < width) (hn : n < 10 ^ width) :
    (padded width n).length = width := by
  have hcount : (Nat.toDigits 10 n).length ≤ width := (digitCount_le_iff hw).2 hn
  rw [padded, List.length_append, List.length_replicate]
  omega

theorem padded_lt_padded_iff {width n m : Nat} (hw : 0 < width) (hn : n < 10 ^ width)
    (hm : m < 10 ^ width) : padded width n < padded width m ↔ n < m := by
  rw [lt_iff_digitsValue_lt (fun c => isAsciiDigit_of_mem_padded)
    (fun c => isAsciiDigit_of_mem_padded), digitsValue_padded, digitsValue_padded]
  rw [length_padded hw hn, length_padded hw hm]

/-- A row of digits is the number that it writes, padded to its length. -/
theorem padded_digitsValue {ds : List Char} (hds : ∀ c ∈ ds, isAsciiDigit c = true)
    (hne : ds ≠ []) :
    padded ds.length (digitsValue ds) = ds := by
  have hcount := digitCount_digitsValue_le hds hne
  apply eq_of_digitsValue_eq (fun c => isAsciiDigit_of_mem_padded) hds
  · rw [padded, List.length_append, List.length_replicate]
    exact Nat.sub_add_cancel hcount
  · exact digitsValue_padded _ _

/-- No number but zero starts with a zero. -/
theorem head?_toDigits {n : Nat} (hn : 0 < n) : ∀ c ∈ (Nat.toDigits 10 n).head?, c ≠ '0' := by
  induction n using Nat.strongRecOn with
  | ind n ih =>
    rw [Nat.toDigits_eq_if (by decide)]
    split
    · intro c hc
      obtain rfl := Option.some.inj hc
      exact mt Nat.digitChar_eq_zero.1 (Nat.ne_of_gt hn)
    · rw [List.head?_append_of_ne_nil _ Nat.toDigits_ne_nil]
      exact ih (n / 10) (by omega) (by omega)

/-- Without the zeros at its start a row of digits is written as short as its number. -/
theorem toDigits_digitsValue {ds : List Char} (hds : ∀ c ∈ ds, isAsciiDigit c = true)
    (hpos : 0 < digitsValue ds) : Nat.toDigits 10 (digitsValue ds) = ds.dropWhile (· = '0') := by
  have hne : ds ≠ [] := by
    rintro rfl
    exact absurd hpos (by decide)
  have hzeros : ∀ c ∈ List.replicate (ds.length - (Nat.toDigits 10 (digitsValue ds)).length) '0',
      decide (c = '0') = true := fun c hc => decide_eq_true (List.eq_of_mem_replicate hc)
  conv_rhs => rw [← padded_digitsValue hds hne, padded, List.dropWhile_append_of_pos hzeros]
  refine (dropWhile_of_head? fun c hc => ?_).symm
  exact decide_eq_false (head?_toDigits hpos c hc)

end ReminderScan.Number
