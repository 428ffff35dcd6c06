import ReminderScan.Proofs.Number.Digits
import ReminderScan.Proofs.Number.Rounding

/-! The decimal that a number is written as rounds back to the number. -/

namespace ReminderScan.Number

theorem digitCount_ten_mul {n : Nat} (hn : 0 < n) : digitCount (10 * n) = digitCount n + 1 := by
  have hdigits : Nat.toDigits 10 (10 * n) = Nat.toDigits 10 n ++ [Nat.digitChar (10 * n % 10)] := by
    have hstep := Nat.toDigits_of_base_le (b := 10) (n := 10 * n) (by decide) (by omega)
    rwa [Nat.mul_div_cancel_left n (by decide)] at hstep
  rw [digitCount, digitCount, hdigits, List.length_append, List.length_singleton]

theorem digitCount_pos (n : Nat) : 0 < digitCount n := Nat.length_toDigits_pos

theorem lt_pow_digitCount (n : Nat) : n < 10 ^ digitCount n :=
  (digitCount_le_iff (digitCount_pos n)).1 le_rfl

theorem pow_digitCount_le {n : Nat} (hn : 0 < n) : 10 ^ (digitCount n - 1) ≤ n := by
  rcases Nat.eq_zero_or_pos (digitCount n - 1) with hone | hpos
  · rw [hone]
    exact hn
  · by_contra hless
    have hcount := (digitCount_le_iff hpos).2 (not_le.1 hless)
    omega

namespace Decimal

variable {negative : Bool} {n : Nat} {e : Int}

/-- Between the bounds of its size a decimal is rounded as a quotient. -/
theorem round_of_bounds (negative : Bool) (hn : 0 < n) (hlow : -400 ≤ (digitCount n : Int) + e)
    (hhigh : (digitCount n : Int) + e ≤ 400) : round ⟨negative, n, e⟩ =
      .ofRatio negative (Binary64.quotientOf 10 n e).1 (Binary64.quotientOf 10 n e).2 := by
  simp only [round, hn.ne', not_lt.2 hlow, decide_false, Bool.or_false,
    Bool.false_eq_true, if_false, if_neg (not_lt.2 hhigh), Binary64.quotientOf]
  split
  · rfl
  · rfl

/-- One zero less at the end, and an exponent greater by one. -/
theorem round_ten_mul (negative : Bool) (hn : 0 < n) (e : Int) :
    round ⟨negative, 10 * n, e⟩ = round ⟨negative, n, e + 1⟩ := by
  have hten : 0 < 10 * n := by omega
  have hsize : (digitCount (10 * n) : Int) + e = digitCount n + (e + 1) := by
    rw [digitCount_ten_mul hn]
    omega
  by_cases hlow : -400 ≤ (digitCount n : Int) + (e + 1)
  · by_cases hhigh : (digitCount n : Int) + (e + 1) ≤ 400
    · rw [round_of_bounds negative hn hlow hhigh,
        round_of_bounds negative hten (hsize ▸ hlow) (hsize ▸ hhigh)]
      apply Binary64.ofRatio_congr negative (Binary64.quotientOf_pos (by decide) _ _)
        (Binary64.quotientOf_pos (by decide) _ _)
      rw [Binary64.quotientOf_eq, Binary64.quotientOf_eq, zpow_add_one₀ (by decide), Nat.cast_mul]
      ring
    · simp only [round, hsize, hten.ne', hn.ne', not_lt.2 hlow, not_le.1 hhigh, if_true]
  · simp only [round, hsize, hten.ne', hn.ne', not_le.1 hlow, decide_true, Bool.or_true, if_true]

theorem round_pow_mul (negative : Bool) (hn : 0 < n) (k : Nat) (e : Int) :
    round ⟨negative, 10 ^ k * n, e⟩ = round ⟨negative, n, e + k⟩ := by
  induction k generalizing e with
  | zero => simp
  | succ k ih =>
    have hsplit : 10 ^ (k + 1) * n = 10 * (10 ^ k * n) := by ring
    rw [hsplit, round_ten_mul negative (by positivity), ih]
    congr 2
    omega

theorem round_dropZeros (count : Nat) (d : Decimal) : (dropZeros count d).round = d.round := by
  induction count generalizing d with
  | zero => rfl
  | succ count ih =>
    rw [dropZeros]
    split
    · rename_i hzero
      simp only [ne_eq, Bool.and_eq_true, decide_eq_true_eq] at hzero
      obtain ⟨hne, hmod⟩ := hzero
      have htens : 10 * (d.digits / 10) = d.digits := by omega
      rw [ih, ← round_ten_mul d.negative (by omega) d.exponent, htens]
    · rfl

/-- A decimal between powers of ten has a size between their exponents. -/
theorem size_of_bounds (hn : 0 < n) (hlow : (10 : ℚ) ^ (-400 : Int) ≤ n * 10 ^ e)
    (hhigh : (n : ℚ) * 10 ^ e < 10 ^ (400 : Int)) :
    -400 ≤ (digitCount n : Int) + e ∧ (digitCount n : Int) + e ≤ 400 := by
  have hten : (0 : ℚ) < 10 ^ e := zpow_pos (by decide) e
  have hcount := digitCount_pos n
  have hless : (n : ℚ) < 10 ^ (digitCount n : Int) := by exact_mod_cast lt_pow_digitCount n
  have hleast : (10 : ℚ) ^ ((digitCount n - 1 : Nat) : Int) ≤ n := by
    exact_mod_cast pow_digitCount_le hn
  have hover : (10 : ℚ) ^ (-400 : Int) < 10 ^ ((digitCount n : Int) + e) := by
    rw [zpow_add₀ (by decide)]
    exact hlow.trans_lt (mul_lt_mul_of_pos_right hless hten)
  have hunder : (10 : ℚ) ^ (((digitCount n - 1 : Nat) : Int) + e) < 10 ^ (400 : Int) := by
    rw [zpow_add₀ (by decide)]
    exact (mul_le_mul_of_nonneg_right hleast hten.le).trans_lt hhigh
  rw [zpow_lt_zpow_iff_right₀ (by decide)] at hover hunder
  omega

end Decimal

namespace Binary64

variable {negative : Bool} {m : Nat} {e : Int}

theorem exactDecimal_pos (negative : Bool) (hm : 0 < m) (e : Int) :
    0 < (exactDecimal negative m e).digits := by
  rw [exactDecimal]
  split
  · exact Nat.mul_pos hm (Nat.pow_pos (by decide))
  · exact Nat.mul_pos hm (Nat.pow_pos (by decide))

theorem exactDecimal_eq (negative : Bool) (m : Nat) (e : Int) :
    ((exactDecimal negative m e).digits : ℚ) * 10 ^ (exactDecimal negative m e).exponent =
      m * 2 ^ e := by
  rw [exactDecimal]
  split
  · rename_i he
    rw [Nat.cast_mul, cast_pow_toNat 2 he, Nat.cast_ofNat, zpow_zero, mul_one]
  · rename_i he
    have hten : (10 : ℚ) ^ e = 5 ^ e * 2 ^ e := by rw [← mul_zpow]; norm_num
    have hfive : (5 : ℚ) ^ e ≠ 0 := zpow_ne_zero e (by decide)
    rw [Nat.cast_mul, cast_pow_toNat_neg 5 he, Nat.cast_ofNat, hten, mul_assoc,
      inv_mul_cancel_left₀ hfive]

/-- Every finite number but zero lies well between the bounds of rounding. -/
theorem bounds_of_canonical (hm : 0 < m) (hcanonical : Canonical m e) :
    (10 : ℚ) ^ (-400 : Int) ≤ m * 2 ^ e ∧ (m : ℚ) * 2 ^ e < 10 ^ (400 : Int) := by
  obtain ⟨hsmall, hleast, hlast, -⟩ := hcanonical
  have htwo : (0 : ℚ) < 2 ^ e := two_zpow_pos e
  have hpower : (2 : ℚ) ^ (1074 : Int) ≤ 10 ^ (400 : Int) := by
    have hnat : 2 ^ 1074 ≤ 10 ^ 400 := by decide +kernel
    exact_mod_cast hnat
  constructor
  · calc (10 : ℚ) ^ (-400 : Int)
        ≤ 2 ^ (-1074 : Int) := by
          rw [zpow_neg, zpow_neg]
          exact inv_anti₀ (two_zpow_pos _) hpower
      _ ≤ 2 ^ e := zpow_le_zpow_right₀ (by decide) hleast
      _ = 1 * 2 ^ e := (one_mul _).symm
      _ ≤ m * 2 ^ e := mul_le_mul_of_nonneg_right (by exact_mod_cast hm) htwo.le
  · have hsmall' : (m : ℚ) < 2 ^ (53 : Int) := by exact_mod_cast hsmall
    calc (m : ℚ) * 2 ^ e
        < 2 ^ (53 : Int) * 2 ^ e := mul_lt_mul_of_pos_right hsmall' htwo
      _ = 2 ^ (53 + e) := (zpow_add₀ (by decide) _ _).symm
      _ ≤ 2 ^ (1074 : Int) := zpow_le_zpow_right₀ (by decide) (by omega)
      _ ≤ 10 ^ (400 : Int) := hpower

/-- The decimal that is equal to a number rounds to it. -/
theorem round_exactDecimal (negative : Bool) (hm : 0 < m) (hcanonical : Canonical m e) :
    (exactDecimal negative m e).round = .finite negative m e hcanonical := by
  have hpos := exactDecimal_pos negative hm e
  have hvalue := exactDecimal_eq negative m e
  have hsign : (exactDecimal negative m e).negative = negative := by
    rw [exactDecimal]
    split
    · rfl
    · rfl
  obtain ⟨hleast, hless⟩ := bounds_of_canonical hm hcanonical
  generalize exactDecimal negative m e = exact at hpos hvalue hsign ⊢
  obtain ⟨sign, digits, exponent⟩ := exact
  obtain rfl : sign = negative := hsign
  rw [← hvalue] at hleast hless
  obtain ⟨hlow, hhigh⟩ := Decimal.size_of_bounds hpos hleast hless
  rw [Decimal.round_of_bounds sign hpos hlow hhigh, ← ofRatio_of_canonical sign hm hcanonical]
  apply ofRatio_congr sign (quotientOf_pos (by decide) _ _) (quotientOf_pos (by decide) _ _)
  rw [quotientOf_eq, quotientOf_eq, Nat.cast_ofNat, Nat.cast_ofNat]
  exact hvalue

/-- The shortest decimal of a number rounds to it. -/
theorem round_shortest (negative : Bool) (hm : 0 < m) (hcanonical : Canonical m e) :
    (shortest (.finite negative m e hcanonical) negative m e).round =
      .finite negative m e hcanonical := by
  rw [shortest, Decimal.round_dropZeros]
  generalize hfound : List.findSome? _ (List.range 17) = found
  cases found with
  | none => exact round_exactDecimal negative hm hcanonical
  | some d =>
    obtain ⟨count, -, hcount⟩ := List.exists_of_findSome?_eq_some hfound
    have hround := List.find?_some hcount
    exact of_decide_eq_true hround

end Binary64

end ReminderScan.Number
