import ReminderScan.Text.Utf8

/-! Bytes that write a text are read as that text. -/

namespace ReminderScan.Text.Utf8

theorem toNat_toUInt8 {n : Nat} (hn : n < 256) : n.toUInt8.toNat = n := by
  rw [Nat.toUInt8, UInt8.toNat_ofNat']
  exact Nat.mod_eq_of_lt hn

section

variable {position : Nat} {rest : List UInt8} {u : Unfinished}

theorem decodeFrom_more {b : Nat} (hlow : u.low ≤ b) (hhigh : b ≤ u.high) (hb : b < 256)
    (hmissing : 1 < u.missing) :
    decodeFrom position (some u) (b.toUInt8 :: rest) =
      decodeFrom (position + 1)
        (some ⟨u.code * 64 + (b - 0x80), u.length + 1, u.missing - 1, 0x80, 0xBF,
          u.first⟩) rest := by
  rw [decodeFrom, toNat_toUInt8 hb, if_pos (by simp [hlow, hhigh]), if_neg (by omega)]

theorem decodeFrom_last {b : Nat} (hlow : u.low ≤ b) (hhigh : b ≤ u.high) (hb : b < 256)
    (hmissing : u.missing = 1) :
    decodeFrom position (some u) (b.toUInt8 :: rest) =
      (decodeFrom (position + 1) none rest).map (Char.ofNat (u.code * 64 + (b - 0x80)) :: ·) := by
  rw [decodeFrom, toNat_toUInt8 hb, if_pos (by simp [hlow, hhigh]), if_pos hmissing]

theorem decodeFrom_start {b : Nat} (hstart : start b.toUInt8 = some (.inr u)) :
    decodeFrom position none (b.toUInt8 :: rest) = decodeFrom (position + 1) (some u) rest := by
  rw [decodeFrom, hstart]

end

theorem start_one {n : Nat} (hn : n < 0x80) : start n.toUInt8 = some (.inl (Char.ofNat n)) := by
  simp only [start]
  rw [toNat_toUInt8 (by omega), if_pos hn]

theorem start_two {n : Nat} (hlow : 0x80 ≤ n) (hhigh : n < 0x800) :
    start (0xC0 + n / 64).toUInt8 =
      some (.inr ⟨n / 64, 1, 1, 0x80, 0xBF, (0xC0 + n / 64).toUInt8⟩) := by
  simp only [start]
  rw [toNat_toUInt8 (by omega), if_neg (by omega), if_neg (by omega), if_pos (by omega),
    Nat.add_sub_cancel_left]

theorem start_three {n : Nat} (hhigh : n < 0x10000) :
    start (0xE0 + n / 4096).toUInt8 = some (.inr ⟨n / 4096, 1, 2,
      if n / 4096 = 0 then 0xA0 else 0x80, if n / 4096 = 0xD then 0x9F else 0xBF,
      (0xE0 + n / 4096).toUInt8⟩) := by
  simp only [start]
  rw [toNat_toUInt8 (by omega), if_neg (by omega), if_neg (by omega), if_neg (by omega),
    if_pos (by omega), Nat.add_sub_cancel_left]
  congr 4
  · exact propext (by omega)
  · exact propext (by omega)

theorem start_four {n : Nat} (hhigh : n < 0x110000) :
    start (0xF0 + n / 262144).toUInt8 = some (.inr ⟨n / 262144, 1, 3,
      if n / 262144 = 0 then 0x90 else 0x80, if n / 262144 = 4 then 0x8F else 0xBF,
      (0xF0 + n / 262144).toUInt8⟩) := by
  simp only [start]
  rw [toNat_toUInt8 (by omega), if_neg (by omega), if_neg (by omega), if_neg (by omega),
    if_neg (by omega), if_pos (by omega), Nat.add_sub_cancel_left]
  congr 4
  · exact propext (by omega)
  · exact propext (by omega)

section

variable {n : Nat} (position : Nat) (rest : List UInt8)

theorem decodeFrom_two (hlow : 0x80 ≤ n) (hhigh : n < 0x800) :
    decodeFrom position none ((0xC0 + n / 64).toUInt8 :: (0x80 + n % 64).toUInt8 :: rest) =
      (decodeFrom (position + 2) none rest).map (Char.ofNat n :: ·) := by
  have hcode : n / 64 * 64 + (0x80 + n % 64 - 0x80) = n := by omega
  rw [decodeFrom_start (start_two hlow hhigh), decodeFrom_last _ _ (by omega) rfl, hcode]
  · dsimp only
    omega
  · dsimp only
    omega

/-- Three bytes write a number that is no unit of a pair. -/
theorem decodeFrom_three (hlow : 0x800 ≤ n) (hhigh : n < 0x10000)
    (hunit : n < 0xD800 ∨ 0xDFFF < n) :
    decodeFrom position none ((0xE0 + n / 4096).toUInt8 :: (0x80 + n / 64 % 64).toUInt8 ::
        (0x80 + n % 64).toUInt8 :: rest) =
      (decodeFrom (position + 3) none rest).map (Char.ofNat n :: ·) := by
  have hcode : (n / 4096 * 64 + (0x80 + n / 64 % 64 - 0x80)) * 64 + (0x80 + n % 64 - 0x80) = n := by
    omega
  rw [decodeFrom_start (start_three hhigh), decodeFrom_more _ _ (by omega) Nat.one_lt_two,
    decodeFrom_last _ _ (by omega) rfl, hcode]
  · dsimp only
    omega
  · dsimp only
    omega
  · dsimp only
    split <;> omega
  · dsimp only
    split <;> omega

theorem decodeFrom_four (hlow : 0x10000 ≤ n) (hhigh : n < 0x110000) :
    decodeFrom position none ((0xF0 + n / 262144).toUInt8 :: (0x80 + n / 4096 % 64).toUInt8 ::
        (0x80 + n / 64 % 64).toUInt8 :: (0x80 + n % 64).toUInt8 :: rest) =
      (decodeFrom (position + 4) none rest).map (Char.ofNat n :: ·) := by
  have hcode : ((n / 262144 * 64 + (0x80 + n / 4096 % 64 - 0x80)) * 64 +
      (0x80 + n / 64 % 64 - 0x80)) * 64 + (0x80 + n % 64 - 0x80) = n := by
    omega
  rw [decodeFrom_start (start_four hhigh), decodeFrom_more _ _ (by omega) (by decide : 1 < 3),
    decodeFrom_more _ _ (by omega) Nat.one_lt_two, decodeFrom_last _ _ (by omega) rfl, hcode]
  · dsimp only
    omega
  · dsimp only
    omega
  · dsimp only
    omega
  · dsimp only
    omega
  · dsimp only
    split <;> omega
  · dsimp only
    split <;> omega

end

theorem decodeFrom_encodeChar (c : Char) (position : Nat) (rest : List UInt8) :
    ∃ next, decodeFrom position none (encodeChar c ++ rest) =
      (decodeFrom next none rest).map (c :: ·) := by
  have hvalid : c.toNat < 0xD800 ∨ 0xDFFF < c.toNat ∧ c.toNat < 0x110000 := c.valid
  have hchar : Char.ofNat c.toNat = c := Char.ofNat_toNat c
  simp only [encodeChar]
  generalize c.toNat = n at hvalid hchar
  subst hchar
  split
  · rename_i hone
    refine ⟨position + 1, ?_⟩
    rw [List.singleton_append, decodeFrom, start_one hone]
  · rename_i hone
    split
    · rename_i htwo
      exact ⟨_, decodeFrom_two position rest (Nat.le_of_not_lt hone) htwo⟩
    · rename_i htwo
      split
      · rename_i hthree
        exact ⟨_, decodeFrom_three position rest (Nat.le_of_not_lt htwo) hthree (by omega)⟩
      · rename_i hthree
        exact ⟨_, decodeFrom_four position rest (Nat.le_of_not_lt hthree) (by omega)⟩

theorem decodeFrom_encode (text : List Char) (position : Nat) :
    decodeFrom position none (encode text) = .ok text := by
  induction text generalizing position with
  | nil => rfl
  | cons c text ih =>
    obtain ⟨next, hnext⟩ := decodeFrom_encodeChar c position (encode text)
    rw [encode, List.flatMap_cons, ← encode, hnext, ih]
    rfl

/-- Reading what was written gives the text again. -/
theorem decode_encode (text : List Char) : decode (encode text) = .ok text :=
  decodeFrom_encode text 0

end ReminderScan.Text.Utf8
