import ReminderScan.Json.Parser
import ReminderScan.Json.Printer
import ReminderScan.Proofs.Number.Shortest

/-! A number that was written in a document is read back, as long as no text follows that could
continue it. -/

namespace ReminderScan

open Text

namespace Number

/-- The text of a decimal without its sign. -/
def Decimal.unsigned (style : Style) (d : Decimal) : List Char :=
  let ds := Nat.toDigits 10 d.digits
  let point : Int := ds.length + d.exponent
  if d.digits = 0 then ['0', '.', '0']
  else if style.lowest < point && point ≤ style.highest then positional ds point
  else scientific style ds (point - 1)

end Number

namespace Json

open Number

/-- The digits of a whole number as documents write them. -/
def IsWhole (ds : List Char) : Prop :=
  ds ≠ [] ∧ (∀ c ∈ ds, isAsciiDigit c = true) ∧ (ds = ['0'] ∨ ∀ c ∈ ds.head?, c ≠ '0')

theorem isWhole_toDigits (n : Nat) : IsWhole (Nat.toDigits 10 n) := by
  refine ⟨Nat.toDigits_ne_nil, fun c => isAsciiDigit_of_mem_toDigits, ?_⟩
  rcases Nat.eq_zero_or_pos n with rfl | hn
  · exact Or.inl (Nat.toDigits_zero 10)
  · exact Or.inr (head?_toDigits hn)

/-- A number ends before this text. -/
def EndsNumber (rest : List Char) : Prop :=
  ∀ c ∈ rest.head?, isAsciiDigit c = false ∧ c ≠ '.' ∧ c ≠ 'e' ∧ c ≠ 'E'

theorem endsNumber_nil : EndsNumber [] := nofun

section

variable {ds fs rest : List Char} (negative : Bool)

theorem takeWhile_digits (hds : ∀ c ∈ ds, isAsciiDigit c = true)
    (hrest : ∀ c ∈ rest.head?, isAsciiDigit c = false) :
    (ds ++ rest).takeWhile isAsciiDigit = ds ∧ (ds ++ rest).dropWhile isAsciiDigit = rest := by
  have hstop : rest.takeWhile isAsciiDigit = [] ∧ rest.dropWhile isAsciiDigit = rest := by
    cases rest with
    | nil => exact ⟨rfl, rfl⟩
    | cons c rest =>
      have hc := hrest c rfl
      simp [hc]
  rw [List.takeWhile_append_of_pos hds, List.dropWhile_append_of_pos hds, hstop.1, hstop.2,
    List.append_nil]
  exact ⟨rfl, rfl⟩

theorem readWhole_append (hds : IsWhole ds) (hrest : ∀ c ∈ rest.head?, isAsciiDigit c = false) :
    readWhole (ds ++ rest) = (ds, rest) := by
  obtain ⟨hne, hdigits, rfl | hhead⟩ := hds
  · rfl
  · obtain ⟨htake, hdrop⟩ := takeWhile_digits hdigits hrest
    obtain ⟨c, ds, rfl⟩ := List.exists_cons_of_ne_nil hne
    have hc := hhead c rfl
    rw [readWhole.eq_def]
    split
    · rename_i hzero
      exact absurd (List.cons.inj hzero).1 hc
    · rw [htake, hdrop]

theorem readFraction_append (hne : fs ≠ []) (hfs : ∀ c ∈ fs, isAsciiDigit c = true)
    (hrest : ∀ c ∈ rest.head?, isAsciiDigit c = false) :
    readFraction ('.' :: fs ++ rest) = (fs, rest) := by
  obtain ⟨htake, hdrop⟩ := takeWhile_digits hfs hrest
  obtain ⟨c, fs, rfl⟩ := List.exists_cons_of_ne_nil hne
  rw [List.cons_append, List.cons_append, readFraction, if_pos (hfs c List.mem_cons_self)]
  rw [← List.cons_append, htake, hdrop]

theorem readFraction_none (hrest : ∀ c ∈ rest.head?, c ≠ '.') : readFraction rest = ([], rest) := by
  rw [readFraction.eq_def]
  split
  · exact absurd rfl (hrest '.' rfl)
  · rfl

theorem readPower_append (hne : ds ≠ []) (hds : ∀ c ∈ ds, isAsciiDigit c = true)
    (hrest : ∀ c ∈ rest.head?, isAsciiDigit c = false) :
    readPower ('e' :: (if negative then '-' else '+') :: ds ++ rest) =
      (some (if negative then -(digitsValue ds : Int) else digitsValue ds), rest) := by
  obtain ⟨htake, hdrop⟩ := takeWhile_digits hds hrest
  have hempty : ds.isEmpty = false := by simpa using hne
  cases negative with
  | true => simp [readPower, readSign, htake, hdrop, hempty]
  | false => simp [readPower, readSign, htake, hdrop, hempty]

theorem readPower_none (hrest : ∀ c ∈ rest.head?, c ≠ 'e' ∧ c ≠ 'E') :
    readPower rest = (none, rest) := by
  cases rest with
  | nil => rfl
  | cons c rest =>
    obtain ⟨hsmall, hlarge⟩ := hrest c rfl
    rw [readPower, if_neg]
    simp [hsmall, hlarge]

theorem readNumber_int (hds : IsWhole ds) (hshort : ds.length ≤ digitLimit)
    (hrest : EndsNumber rest) :
    readNumber negative (ds ++ rest) =
      .ok (.int (if negative then -(digitsValue ds : Int) else digitsValue ds), rest) := by
  have hwhole := readWhole_append hds fun c hc => (hrest c hc).1
  have hfraction := readFraction_none fun c hc => (hrest c hc).2.1
  have hpower := readPower_none fun c hc => (hrest c hc).2.2
  have hempty : ds.isEmpty = false := by simpa using hds.1
  simp [readNumber, hwhole, hfraction, hpower, hempty, Nat.not_lt.2 hshort]

theorem readNumber_real {text rest₁ rest₂ : List Char} {power : Option Int} (hds : IsWhole ds)
    (hwhole : readWhole text = (ds, rest₁)) (hfraction : readFraction rest₁ = (fs, rest₂))
    (hpower : readPower rest₂ = (power, rest)) (hreal : fs ≠ [] ∨ power ≠ none) :
    readNumber negative text = .ok (.real (Decimal.round
      ⟨negative, digitsValue (ds ++ fs), power.getD 0 - fs.length⟩), rest) := by
  have hempty : ds.isEmpty = false := by simpa using hds.1
  have hreal' : (fs.isEmpty && power.isNone) = false := by
    rcases hreal with hfs | hsome
    · simp [hfs]
    · cases power with
      | none => exact absurd rfl hsome
      | some e => simp
  simp [readNumber, hwhole, hfraction, hpower, hempty, hreal']

theorem not_digit_of_head?_cons {c : Char} (hc : isAsciiDigit c = false) (rest : List Char) :
    ∀ d ∈ (c :: rest).head?, isAsciiDigit d = false := by
  intro d hd
  obtain rfl := Option.some.inj hd
  exact hc

theorem readNumber_fraction (hds : IsWhole ds) (hne : fs ≠ [])
    (hfs : ∀ c ∈ fs, isAsciiDigit c = true)
    (hrest : EndsNumber rest) : readNumber negative (ds ++ '.' :: fs ++ rest) =
      .ok (.real (Decimal.round ⟨negative, digitsValue (ds ++ fs), -fs.length⟩), rest) := by
  have hwhole := readWhole_append hds (not_digit_of_head?_cons (c := '.') rfl (fs ++ rest))
  have hfraction := readFraction_append hne hfs fun c hc => (hrest c hc).1
  have hpower := readPower_none fun c hc => (hrest c hc).2.2
  have hread := readNumber_real negative hds hwhole hfraction hpower (Or.inl hne)
  rw [Option.getD_none, zero_sub] at hread
  rw [List.append_assoc]
  exact hread

/-- The sign and the digits of an exponent. -/
def powerText (exponent : Int) : List Char :=
  'e' :: (if exponent < 0 then '-' else '+') :: padded 2 exponent.natAbs

theorem readPower_powerText (exponent : Int) (hrest : ∀ c ∈ rest.head?, isAsciiDigit c = false) :
    readPower (powerText exponent ++ rest) = (some exponent, rest) := by
  have hread := readPower_append (decide (exponent < 0)) (padded_ne_nil 2 exponent.natAbs)
    (fun c => isAsciiDigit_of_mem_padded) hrest
  simp only [decide_eq_true_eq, digitsValue_padded] at hread
  rw [powerText, hread]
  split
  · congr 2
    omega
  · congr 2
    omega

theorem readNumber_power (hds : IsWhole ds) (hfs : ∀ c ∈ fs, isAsciiDigit c = true) (exponent : Int)
    (hrest : EndsNumber rest) :
    readNumber negative (ds ++ (if fs = [] then [] else '.' :: fs) ++ powerText exponent ++ rest) =
      .ok (.real (Decimal.round ⟨negative, digitsValue (ds ++ fs), exponent - fs.length⟩),
        rest) := by
  have hpower := readPower_powerText exponent fun c hc => (hrest c hc).1
  have hstop : ∀ c ∈ (powerText exponent ++ rest).head?, isAsciiDigit c = false :=
    not_digit_of_head?_cons rfl _
  by_cases hne : fs = []
  · have hfraction : readFraction (powerText exponent ++ rest) = ([], powerText exponent ++ rest) :=
      readFraction_none fun c hc => by
        obtain rfl := Option.some.inj hc
        decide
    have hwhole := readWhole_append hds hstop
    have hread := readNumber_real negative hds hwhole hfraction hpower (Or.inr nofun)
    subst hne
    rw [if_pos rfl, List.append_nil, List.append_assoc]
    rw [List.append_nil] at hread
    exact hread
  · have hfraction := readFraction_append hne hfs hstop
    have hwhole := readWhole_append hds
      (not_digit_of_head?_cons (c := '.') rfl (fs ++ (powerText exponent ++ rest)))
    have hread := readNumber_real negative hds hwhole hfraction hpower (Or.inl hne)
    rw [if_neg hne, List.append_assoc, List.append_assoc]
    exact hread

theorem IsWhole.append (hds : ds ≠ []) (hdigits : ∀ c ∈ ds ++ fs, isAsciiDigit c = true)
    (hhead : ∀ c ∈ ds.head?, c ≠ '0') : IsWhole (ds ++ fs) := by
  refine ⟨List.append_ne_nil_of_left_ne_nil hds fs, hdigits, Or.inr ?_⟩
  rw [List.head?_append_of_ne_nil _ hds]
  exact hhead

theorem isAsciiDigit_of_mem_zero : ∀ c ∈ ['0'], isAsciiDigit c = true :=
  List.forall_mem_singleton.2 rfl

/-- All digits stand after the point, behind zeros. -/
theorem readNumber_behind (hne : ds ≠ []) (hds : ∀ c ∈ ds, isAsciiDigit c = true) (k : Nat)
    (hrest : EndsNumber rest) :
    readNumber negative ('0' :: '.' :: List.replicate k '0' ++ ds ++ rest) =
      .ok (.real (Decimal.round ⟨negative, digitsValue ds, -(k + ds.length)⟩), rest) := by
  have hzero : IsWhole ['0'] := ⟨List.cons_ne_nil _ _, isAsciiDigit_of_mem_zero, Or.inl rfl⟩
  have hfs : ∀ c ∈ List.replicate k '0' ++ ds, isAsciiDigit c = true := by
    intro c hc
    rcases List.mem_append.1 hc with hc | hc
    · exact isAsciiDigit_of_mem_zeros hc
    · exact hds c hc
  have hread := readNumber_fraction negative hzero
    (List.append_ne_nil_of_right_ne_nil _ hne) hfs hrest
  have hvalue : digitsValue (['0'] ++ (List.replicate k '0' ++ ds)) = digitsValue ds := by
    have hzeros : ['0'] ++ (List.replicate k '0' ++ ds) = List.replicate (k + 1) '0' ++ ds := rfl
    rw [hzeros, digitsValue_append (fun c => isAsciiDigit_of_mem_zeros) hds, digitsValue_zeros,
      Nat.mul_zero, Nat.zero_add]
  rw [hvalue, List.length_append, List.length_replicate, Nat.cast_add] at hread
  rw [List.cons_append, List.cons_append]
  exact hread

/-- All digits and zeros after them stand before the point. -/
theorem readNumber_before (hne : ds ≠ []) (hds : ∀ c ∈ ds, isAsciiDigit c = true)
    (hhead : ∀ c ∈ ds.head?, c ≠ '0') (hpos : 0 < digitsValue ds) (k : Nat)
    (hrest : EndsNumber rest) :
    readNumber negative (ds ++ List.replicate k '0' ++ ['.', '0'] ++ rest) =
      .ok (.real (Decimal.round ⟨negative, digitsValue ds, k⟩), rest) := by
  have hwhole : IsWhole (ds ++ List.replicate k '0') := by
    refine .append hne ?_ hhead
    intro c hc
    rcases List.mem_append.1 hc with hc | hc
    · exact hds c hc
    · exact isAsciiDigit_of_mem_zeros hc
  have hread := readNumber_fraction negative hwhole (List.cons_ne_nil '0' [])
    isAsciiDigit_of_mem_zero hrest
  have hvalue :
      digitsValue (ds ++ List.replicate k '0' ++ ['0']) = 10 ^ (k + 1) * digitsValue ds := by
    rw [List.append_assoc, ← List.replicate_succ', digitsValue_append hds
      (fun c => isAsciiDigit_of_mem_zeros), digitsValue_zeros, List.length_replicate, Nat.add_zero]
  rw [hvalue, Decimal.round_pow_mul negative hpos] at hread
  rw [hread]
  congr 4
  simp

end

section

variable {n : Nat} {negative : Bool} {e : Int} {rest : List Char}

/-- Digits with the point among them or beside them. -/
theorem readNumber_positional (hn : 0 < n) (hrest : EndsNumber rest) :
    readNumber negative (positional (Nat.toDigits 10 n) ((Nat.toDigits 10 n).length + e) ++ rest) =
      .ok (.real (Decimal.round ⟨negative, n, e⟩), rest) := by
  have hds : ∀ c ∈ Nat.toDigits 10 n, isAsciiDigit c = true := fun c => isAsciiDigit_of_mem_toDigits
  have hvalue : digitsValue (Nat.toDigits 10 n) = n := digitsValue_toDigits n
  have hhead := head?_toDigits hn
  have hne : Nat.toDigits 10 n ≠ [] := Nat.toDigits_ne_nil
  generalize Nat.toDigits 10 n = ds at *
  rw [positional]
  split
  · rename_i hsmall
    have hexponent : -(((-((ds.length : Int) + e)).toNat : Int) + ds.length) = e := by omega
    rw [readNumber_behind negative hne hds _ hrest, hvalue, hexponent]
  · rename_i hlarge
    split
    · rename_i hlong
      have hexponent : ((((ds.length : Int) + e).toNat - ds.length : Nat) : Int) = e := by omega
      rw [readNumber_before negative hne hds hhead (by omega) _ hrest, hvalue, hexponent]
    · rename_i hamong
      generalize hpoint : ((ds.length : Int) + e).toNat = p at *
      have hp : 0 < p := by omega
      have hfront : ds.take p ≠ [] := by
        intro hnil
        rcases List.take_eq_nil_iff.1 hnil with hzero | hnil
        · omega
        · exact hne hnil
      have hback : ds.drop p ≠ [] := by
        intro hnil
        exact hamong (List.drop_eq_nil_iff.1 hnil)
      have hwhole : IsWhole (ds.take p) := by
        refine ⟨hfront, fun c hc => hds c (List.mem_of_mem_take hc), Or.inr ?_⟩
        rw [List.head?_take, if_neg hp.ne']
        exact hhead
      have hread := readNumber_fraction negative hwhole hback
        (fun c hc => hds c (List.mem_of_mem_drop hc)) hrest
      have hexponent : -((ds.length - p : Nat) : Int) = e := by omega
      rw [List.take_append_drop, hvalue, List.length_drop, hexponent] at hread
      exact hread

/-- Digits with the point after the first and an exponent. -/
theorem readNumber_scientific (hn : 0 < n) (hrest : EndsNumber rest) :
    readNumber negative
        (scientific jsonStyle (Nat.toDigits 10 n) ((Nat.toDigits 10 n).length + e - 1) ++ rest) =
      .ok (.real (Decimal.round ⟨negative, n, e⟩), rest) := by
  have hds : ∀ c ∈ Nat.toDigits 10 n, isAsciiDigit c = true := fun c => isAsciiDigit_of_mem_toDigits
  have hvalue : digitsValue (Nat.toDigits 10 n) = n := digitsValue_toDigits n
  have hhead := head?_toDigits hn
  have hne : Nat.toDigits 10 n ≠ [] := Nat.toDigits_ne_nil
  generalize Nat.toDigits 10 n = ds at *
  obtain ⟨d, fs, rfl⟩ := List.exists_cons_of_ne_nil hne
  have hwhole : IsWhole [d] :=
    ⟨List.cons_ne_nil _ _, List.forall_mem_singleton.2 (hds d List.mem_cons_self), Or.inr hhead⟩
  have hread := readNumber_power negative hwhole
    (fun c hc => hds c (List.mem_cons_of_mem d hc)) ((d :: fs).length + e - 1) hrest
  rw [List.singleton_append, List.singleton_append, hvalue] at hread
  have hexponent : ((d :: fs).length : Int) + e - 1 - fs.length = e := by
    rw [List.length_cons]
    omega
  rw [hexponent] at hread
  rw [← hread]
  cases fs with
  | nil => rfl
  | cons c fs => rfl

theorem readNumber_unsigned (d : Decimal) (hrest : EndsNumber rest) :
    readNumber d.negative (d.unsigned jsonStyle ++ rest) = .ok (.real d.round, rest) := by
  obtain ⟨negative, n, e⟩ := d
  rw [Decimal.unsigned]
  dsimp only
  split
  · rename_i hzero
    subst hzero
    have hread :=
      readNumber_behind negative (List.cons_ne_nil '0' []) isAsciiDigit_of_mem_zero 0 hrest
    exact hread
  · rename_i hne
    split
    · exact readNumber_positional (Nat.pos_of_ne_zero hne) hrest
    · exact readNumber_scientific (Nat.pos_of_ne_zero hne) hrest

theorem readWord?_of_digit {c : Char} (hc : isAsciiDigit c = true) (rest : List Char) :
    readWord? (c :: rest) = none := by
  rw [readWord?.eq_def]
  split
  case h_7 => rfl
  all_goals
    rename_i hword
    rw [(List.cons.inj hword).1] at hc
    exact absurd hc (by decide)

theorem readWord?_of_minus {c : Char} (hc : isAsciiDigit c = true) (rest : List Char) :
    readWord? ('-' :: c :: rest) = none := by
  rw [readWord?.eq_def]
  split
  case h_7 => rfl
  case h_6 =>
    rename_i hword
    rw [(List.cons.inj (List.cons.inj hword).2).1] at hc
    exact absurd hc (by decide)
  all_goals
    rename_i hword
    exact absurd (List.cons.inj hword).1 (by decide)

theorem readValue_of_digit {c : Char} (hc : isAsciiDigit c = true) (fuel : Nat) (rest : List Char) :
    readValue (fuel + 1) (c :: rest) = readNumber false (c :: rest) := by
  rw [readValue.eq_def]
  dsimp only
  split
  case h_4 =>
    rw [readWord?_of_digit hc]
    dsimp only
    split
    · rename_i hminus
      rw [(List.cons.inj hminus).1] at hc
      exact absurd hc (by decide)
    · rfl
  all_goals
    rename_i hmark
    rw [(List.cons.inj hmark).1] at hc
    exact absurd hc (by decide)

theorem readValue_of_minus {c : Char} (hc : isAsciiDigit c = true) (fuel : Nat) (rest : List Char) :
    readValue (fuel + 1) ('-' :: c :: rest) = readNumber true (c :: rest) := by
  rw [readValue.eq_def]
  dsimp only
  rw [readWord?_of_minus hc]
  rfl

theorem exists_digit_of_readNumber {text : List Char} {found : Value × List Char}
    (hr : readNumber negative text = .ok found) :
    ∃ c cs, text = c :: cs ∧ isAsciiDigit c = true := by
  have hwhole : (readWhole text).1 ≠ [] := by
    intro hnil
    unfold readNumber at hr
    dsimp only at hr
    rw [if_pos (by rw [hnil]; rfl)] at hr
    cases hr
  cases text with
  | nil => exact absurd rfl hwhole
  | cons c cs =>
    refine ⟨c, cs, rfl, ?_⟩
    rw [readWhole.eq_def] at hwhole
    split at hwhole
    · rename_i hzero
      rw [(List.cons.inj hzero).1]
      rfl
    · by_contra hc
      exact hwhole (List.takeWhile_cons_of_neg hc)

theorem readValue_signed {text : List Char} {found : Value × List Char}
    (hr : readNumber negative text = .ok found) (fuel : Nat) :
    readValue (fuel + 1) ((if negative then ['-'] else []) ++ text) = .ok found := by
  obtain ⟨c, cs, rfl, hc⟩ := exists_digit_of_readNumber hr
  cases negative with
  | true => exact (readValue_of_minus hc fuel cs).trans hr
  | false => exact (readValue_of_digit hc fuel cs).trans hr

theorem readValue_writtenInt {n : Int} (hshort : digitCount n.natAbs ≤ digitLimit)
    (hrest : EndsNumber rest) (fuel : Nat) :
    readValue (fuel + 1) (writtenInt n ++ rest) = .ok (.int n, rest) := by
  have hread := readNumber_int (decide (n < 0)) (isWhole_toDigits n.natAbs) hshort hrest
  rw [digitsValue_toDigits] at hread
  have hvalue : (if decide (n < 0) = true then -(n.natAbs : Int) else n.natAbs) = n := by
    split
    · rename_i hn
      have := of_decide_eq_true hn
      omega
    · rename_i hn
      have := of_decide_eq_false (Bool.not_eq_true _ ▸ hn)
      omega
  rw [hvalue] at hread
  have hread := readValue_signed hread fuel
  rw [writtenInt, List.append_assoc]
  simpa using hread

theorem readValue_decimal (d : Decimal) (hrest : EndsNumber rest) (fuel : Nat) :
    readValue (fuel + 1) (d.written jsonStyle ++ rest) = .ok (.real d.round, rest) := by
  have hread := readValue_signed (readNumber_unsigned d hrest) fuel
  rw [← List.append_assoc] at hread
  exact hread

theorem readValue_written (x : Binary64) (hrest : EndsNumber rest) (fuel : Nat) :
    readValue (fuel + 1) (x.written jsonStyle ++ rest) = .ok (.real x, rest) := by
  cases x with
  | nan => rfl
  | infinite negative =>
    cases negative with
    | true => rfl
    | false => rfl
  | finite negative m e hcanonical =>
    rw [Binary64.written]
    split
    · rename_i hzero
      subst hzero
      obtain rfl : e = -1074 := by
        rcases hcanonical.2.2.2 with hfull | hleast
        · exact absurd hfull (by decide)
        · exact hleast
      exact readValue_decimal ⟨negative, 0, 0⟩ hrest fuel
    · rename_i hne
      rw [readValue_decimal _ hrest, Binary64.round_shortest negative (Nat.pos_of_ne_zero hne)]

end

end Json

end ReminderScan
