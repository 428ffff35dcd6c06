import Mathlib.Data.Int.Log
import Mathlib.Data.Rat.Floor
import Mathlib.Tactic.Positivity
import ReminderScan.Number.Binary64

/-! Rounding to 64 bits depends on the quotient alone, not on how it is written, and it keeps what
needs no rounding. -/

namespace ReminderScan.Number.Binary64

variable {num den num' den' b m c : Nat} {e : Int}

theorem roundQuotient_mul (hc : 0 < c) (num den : Nat) :
    roundQuotient (c * num) (c * den) = roundQuotient num den := by
  have hless : c * den < 2 * (c * (num % den)) ↔ den < 2 * (num % den) := by
    rw [Nat.mul_left_comm]
    exact Nat.mul_lt_mul_left hc
  have hsame : 2 * (c * (num % den)) = c * den ↔ 2 * (num % den) = den := by
    rw [Nat.mul_left_comm]
    exact Nat.mul_right_inj hc.ne'
  simp only [roundQuotient, Nat.mul_div_mul_left _ _ hc, Nat.mul_mod_mul_left, hless, hsame]

theorem roundQuotient_self_mul (m : Nat) (hc : 0 < c) : roundQuotient (m * c) c = m := by
  simp only [roundQuotient, Nat.mul_div_cancel m hc, Nat.mul_mod_left, Nat.mul_zero]
  rw [if_neg]
  omega

theorem scaled_mul (c num den : Nat) (e : Int) :
    scaled (c * num) (c * den) e = (c * (scaled num den e).1, c * (scaled num den e).2) := by
  simp only [scaled]
  split
  · rw [Nat.mul_assoc]
  · rw [Nat.mul_assoc]

theorem scaled_pos (hden : 0 < den) (num : Nat) (e : Int) : 0 < (scaled num den e).2 := by
  simp only [scaled]
  split
  · exact Nat.mul_pos hden (Nat.pow_pos (by decide))
  · exact hden

theorem cast_pow_toNat (b : Nat) (he : 0 ≤ e) : ((Nat.pow b e.toNat : Nat) : ℚ) = (b : ℚ) ^ e := by
  obtain ⟨n, rfl⟩ := Int.eq_ofNat_of_zero_le he
  exact (Nat.cast_pow b n).trans (zpow_natCast (b : ℚ) n).symm

theorem cast_pow_toNat_neg (b : Nat) (he : ¬0 ≤ e) :
    ((Nat.pow b (-e).toNat : Nat) : ℚ) = ((b : ℚ) ^ e)⁻¹ := by
  rw [cast_pow_toNat b (by omega), zpow_neg]

/-- Scaling divides the quotient by a power of two. -/
theorem scaled_quotient (num den : Nat) (e : Int) :
    ((scaled num den e).1 : ℚ) / (scaled num den e).2 = num / den / 2 ^ e := by
  simp only [scaled]
  split
  · rename_i he
    rw [Nat.cast_mul, cast_pow_toNat 2 he, Nat.cast_ofNat, div_div]
  · rename_i he
    rw [Nat.cast_mul, cast_pow_toNat_neg 2 he, Nat.cast_ofNat, ← div_eq_mul_inv, div_right_comm]

theorem two_zpow_pos (e : Int) : (0 : ℚ) < 2 ^ e := zpow_pos (by decide) e

theorem log_eq_of_bounds {q : ℚ} {k : Int} (hlow : 2 ^ k ≤ q) (hhigh : q < 2 ^ (k + 1)) :
    Int.log 2 q = k := by
  have hq : 0 < q := (two_zpow_pos k).trans_le hlow
  apply le_antisymm
  · have hlog := (Int.lt_zpow_iff_log_lt (b := 2) (by decide) hq).1 (by exact_mod_cast hhigh)
    omega
  · exact (Int.zpow_le_iff_le_log (b := 2) (by decide) hq).1 (by exact_mod_cast hlow)

/-- The power of two that a rounding leaves is told by the quotient. -/
theorem gridExponent_eq (hnum : 0 < num) (hden : 0 < den) :
    gridExponent num den = max (Int.log 2 ((num : ℚ) / den) - 52) (-1074) := by
  have hd : (0 : ℚ) < den := Nat.cast_pos.2 hden
  have hnumLow : (2 : ℚ) ^ (Nat.log2 num : Int) ≤ num := by
    exact_mod_cast Nat.log2_self_le hnum.ne'
  have hnumHigh : (num : ℚ) < 2 ^ (Nat.log2 num + 1 : Int) := by
    exact_mod_cast Nat.lt_log2_self (n := num)
  have hdenLow : (2 : ℚ) ^ (Nat.log2 den : Int) ≤ den := by
    exact_mod_cast Nat.log2_self_le hden.ne'
  have hdenHigh : (den : ℚ) < 2 ^ (Nat.log2 den + 1 : Int) := by
    exact_mod_cast Nat.lt_log2_self (n := den)
  rw [gridExponent]
  dsimp only
  have hscaled := scaled_quotient num den ((Nat.log2 num : Int) - Nat.log2 den - 52)
  have hpos := scaled_pos hden num ((Nat.log2 num : Int) - Nat.log2 den - 52)
  generalize (Nat.log2 num : Int) = a at *
  generalize (Nat.log2 den : Int) = b at *
  have hhigh : (num : ℚ) / den < 2 ^ (a - b + 1) := by
    rw [div_lt_iff₀ hd]
    calc (num : ℚ) < 2 ^ (a + 1) := hnumHigh
      _ = 2 ^ (a - b + 1) * 2 ^ b := by rw [← zpow_add₀ (by decide)]; congr 1; omega
      _ ≤ 2 ^ (a - b + 1) * den := mul_le_mul_of_nonneg_left hdenLow (two_zpow_pos _).le
  have hlow : (2 : ℚ) ^ (a - b - 1) ≤ num / den := by
    rw [le_div_iff₀ hd]
    calc (2 : ℚ) ^ (a - b - 1) * den
        ≤ 2 ^ (a - b - 1) * 2 ^ (b + 1) := mul_le_mul_of_nonneg_left hdenHigh.le (two_zpow_pos _).le
      _ = 2 ^ a := by rw [← zpow_add₀ (by decide)]; congr 1; omega
      _ ≤ num := hnumLow
  have htest : (scaled num den (a - b - 52)).1 < Nat.pow 2 52 * (scaled num den (a - b - 52)).2 ↔
      (num : ℚ) / den < 2 ^ (a - b) := by
    have hd' : (0 : ℚ) < (scaled num den (a - b - 52)).2 := Nat.cast_pos.2 hpos
    have hpow : (2 : ℚ) ^ (a - b) = 2 ^ 52 * 2 ^ (a - b - 52) := by
      rw [← zpow_natCast, ← zpow_add₀ (by decide)]
      congr 1
      omega
    rw [hpow, ← div_lt_iff₀ (two_zpow_pos _), ← hscaled, div_lt_iff₀ hd']
    exact_mod_cast Iff.rfl
  split
  · rename_i hless
    rw [htest] at hless
    rw [log_eq_of_bounds hlow (by rw [sub_add_cancel]; exact hless)]
    congr 1
    omega
  · rename_i hless
    rw [htest, not_lt] at hless
    rw [log_eq_of_bounds hless hhigh]

theorem gridExponent_mul (hc : 0 < c) (hnum : 0 < num) (hden : 0 < den) :
    gridExponent (c * num) (c * den) = gridExponent num den := by
  have hc' : (c : ℚ) ≠ 0 := Nat.cast_ne_zero.2 hc.ne'
  rw [gridExponent_eq (Nat.mul_pos hc hnum) (Nat.mul_pos hc hden), gridExponent_eq hnum hden,
    Nat.cast_mul, Nat.cast_mul, mul_div_mul_left _ _ hc']

theorem ofRatio_mul (hc : 0 < c) (negative : Bool) (num : Nat) (hden : 0 < den) :
    ofRatio negative (c * num) (c * den) = ofRatio negative num den := by
  rcases Nat.eq_zero_or_pos num with rfl | hnum
  · rfl
  · have hne : c * num ≠ 0 := (Nat.mul_pos hc hnum).ne'
    simp only [ofRatio, hne, hnum.ne', if_false, gridExponent_mul hc hnum hden, scaled_mul,
      roundQuotient_mul hc]

/-- Quotients that are equal are rounded to the same number. -/
theorem ofRatio_congr (negative : Bool) (hden : 0 < den) (hden' : 0 < den')
    (hsame : (num : ℚ) / den = num' / den') :
    ofRatio negative num den = ofRatio negative num' den' := by
  have hcross : num * den' = num' * den := by
    rw [div_eq_div_iff (Nat.cast_ne_zero.2 hden.ne') (Nat.cast_ne_zero.2 hden'.ne')] at hsame
    exact_mod_cast hsame
  calc ofRatio negative num den
      = ofRatio negative (den' * num) (den' * den) := (ofRatio_mul hden' negative num hden).symm
    _ = ofRatio negative (den * num') (den * den') := by
        rw [Nat.mul_comm den' num, hcross, Nat.mul_comm num' den, Nat.mul_comm den' den]
    _ = ofRatio negative num' den' := ofRatio_mul hden negative num' hden'

/-- A whole number times a power of a base, as a quotient. -/
def quotientOf (b m : Nat) (e : Int) : Nat × Nat :=
  if 0 ≤ e then (m * Nat.pow b e.toNat, 1) else (m, Nat.pow b (-e).toNat)

theorem quotientOf_pos (hb : 0 < b) (m : Nat) (e : Int) : 0 < (quotientOf b m e).2 := by
  rw [quotientOf]
  split
  · exact Nat.one_pos
  · exact Nat.pow_pos hb

theorem quotientOf_fst_pos (hb : 0 < b) (hm : 0 < m) (e : Int) : 0 < (quotientOf b m e).1 := by
  rw [quotientOf]
  split
  · exact Nat.mul_pos hm (Nat.pow_pos hb)
  · exact hm

theorem quotientOf_eq (b m : Nat) (e : Int) :
    ((quotientOf b m e).1 : ℚ) / (quotientOf b m e).2 = m * (b : ℚ) ^ e := by
  rw [quotientOf]
  split
  · rename_i he
    rw [Nat.cast_mul, cast_pow_toNat b he, Nat.cast_one, div_one]
  · rename_i he
    rw [cast_pow_toNat_neg b he, div_inv_eq_mul]

theorem scaled_quotientOf (m : Nat) (e : Int) :
    ∃ c, 0 < c ∧ scaled (quotientOf 2 m e).1 (quotientOf 2 m e).2 e = (m * c, c) := by
  rw [quotientOf, scaled]
  split
  · exact ⟨1 * Nat.pow 2 e.toNat, by rw [Nat.one_mul]; exact Nat.pow_pos (by decide), by
      rw [Nat.one_mul]⟩
  · exact ⟨Nat.pow 2 (-e).toNat, Nat.pow_pos (by decide), rfl⟩

theorem log_of_pos (hm : 0 < m) (e : Int) : Int.log 2 ((m : ℚ) * 2 ^ e) = Nat.log2 m + e := by
  apply log_eq_of_bounds
  · rw [zpow_add₀ (by decide), zpow_natCast]
    exact mul_le_mul_of_nonneg_right (by exact_mod_cast Nat.log2_self_le hm.ne') (two_zpow_pos e).le
  · rw [add_right_comm, zpow_add₀ (by decide)]
    refine mul_lt_mul_of_pos_right ?_ (two_zpow_pos e)
    exact_mod_cast Nat.lt_log2_self (n := m)

/-- A canonical significand is rounded in its own power of two. -/
theorem gridExponent_of_canonical (hm : 0 < m) (hcanonical : Canonical m e) :
    gridExponent (quotientOf 2 m e).1 (quotientOf 2 m e).2 = e := by
  obtain ⟨hhigh, hleast, -, hfull⟩ := hcanonical
  rw [gridExponent_eq (quotientOf_fst_pos (by decide) hm e) (quotientOf_pos (by decide) m e),
    quotientOf_eq, Nat.cast_ofNat, log_of_pos hm]
  have hlog : Nat.log2 m < 53 := (Nat.log2_lt hm.ne').2 hhigh
  rcases hfull with hfull | hleast'
  · have hlog' : 52 ≤ Nat.log2 m := (Nat.le_log2 hm.ne').2 hfull
    omega
  · omega

/-- A number that needs no rounding is kept. -/
theorem ofRatio_of_canonical (negative : Bool) (hm : 0 < m) (hcanonical : Canonical m e) :
    ofRatio negative (quotientOf 2 m e).1 (quotientOf 2 m e).2 =
      .finite negative m e hcanonical := by
  have hnum : (quotientOf 2 m e).1 ≠ 0 := (quotientOf_fst_pos (by decide) hm e).ne'
  obtain ⟨c, hc, hscaled⟩ := scaled_quotientOf m e
  have hsmall : m ≠ Nat.pow 2 53 := hcanonical.1.ne
  simp only [ofRatio, hnum, if_false, gridExponent_of_canonical hm hcanonical, hscaled,
    roundQuotient_self_mul m hc, hsmall, dif_pos hcanonical]

end ReminderScan.Number.Binary64
