import ReminderScan.Proofs.Number.Digits
import ReminderScan.Proofs.Snippet

/-! Templates of texts without dollar signs and of gaps, in any order. Filling goes over such a
template once: the texts stay, each gap shows its value or its placeholder, and what a value or a
placeholder looks like makes no difference. -/

namespace ReminderScan.Snippet

open Text Number

section Pieces

variable {c : Char} {text rest digits placeholder : List Char} {gap : Piece}

theorem length_lt_of_readGap? (h : readGap? text = some (gap, rest)) :
    rest.length < text.length := by
  unfold readGap? at h
  split at h
  · rename_i body
    dsimp only at h
    split at h
    · cases h
    · rename_i behind hbehind _
      split at h
      · cases h
      · rename_i hclosed
        obtain ⟨-, rfl⟩ := Prod.mk.inj (Option.some.inj h)
        have hbody := (List.dropWhile_suffix isDecimalDigit (l := body)).length_le
        have hlabel := (List.dropWhile_suffix (· ≠ '\x7d') (l := behind)).length_le
        rw [hbehind, List.length_cons] at hbody
        rw [hclosed, List.length_cons] at hlabel
        rw [List.length_cons]
        omega
    · cases h
  · cases h

theorem piecesWith_of_le {fuel more : Nat} (hfuel : text.length ≤ fuel)
    (hmore : text.length ≤ more) :
    piecesWith fuel text = piecesWith more text := by
  induction fuel generalizing text more with
  | zero =>
    obtain rfl := List.eq_nil_of_length_eq_zero (Nat.le_zero.1 hfuel)
    cases more with
    | zero => rfl
    | succ more => rfl
  | succ fuel ih =>
    cases text with
    | nil =>
      cases more with
      | zero => rfl
      | succ more => rfl
    | cons c rest =>
      rw [List.length_cons] at hfuel hmore
      obtain ⟨more, rfl⟩ := Nat.exists_eq_add_of_le' (Nat.one_le_of_lt hmore)
      have hrest : piecesWith fuel rest = piecesWith more rest := ih (by omega) (by omega)
      rw [piecesWith, piecesWith, hrest]
      split
      · split
        · rename_i gap behind hgap
          have hshort := length_lt_of_readGap? hgap
          have hbehind : piecesWith fuel behind = piecesWith more behind := ih (by omega) (by omega)
          rw [hbehind]
        · rfl
      · rfl

theorem pieces_cons_of_ne (hc : c ≠ '$') (rest : List Char) :
    pieces (c :: rest) = .plain c :: pieces rest := by
  rw [pieces, List.length_cons, piecesWith, if_neg hc, pieces]

theorem pieces_cons_of_gap (h : readGap? text = some (gap, rest)) :
    pieces ('$' :: text) = gap :: pieces rest := by
  have hshort := length_lt_of_readGap? h
  rw [pieces, List.length_cons, piecesWith, if_pos rfl, h]
  dsimp only
  rw [piecesWith_of_le hshort.le le_rfl, ← pieces]

theorem pieces_append_of_plain (hplain : '$' ∉ text) (rest : List Char) :
    pieces (text ++ rest) = text.map .plain ++ pieces rest := by
  induction text with
  | nil => rfl
  | cons c text ih =>
    have hc : '$' ≠ c := List.ne_of_not_mem_cons hplain
    rw [List.cons_append, pieces_cons_of_ne hc.symm, ih (List.not_mem_of_not_mem_cons hplain)]
    rfl

/-- A gap is read up to the first brace that closes it, whatever its placeholder holds before
that. -/
theorem readGap?_append (hne : digits ≠ []) (hdigits : ∀ c ∈ digits, isDecimalDigit c = true)
    (hclosed : '\x7d' ∉ placeholder) (rest : List Char) :
    readGap? ('\x7b' :: (digits ++ ':' :: (placeholder ++ '\x7d' :: rest))) =
      some (.gap digits placeholder, rest) := by
  have hopen : ∀ c ∈ placeholder, (decide (c ≠ '\x7d')) = true := by
    intro c hc
    apply decide_eq_true
    rintro rfl
    exact hclosed hc
  have hcolon : isDecimalDigit ':' = false := by decide
  obtain ⟨d, ds, rfl⟩ := List.exists_cons_of_ne_nil hne
  simp only [readGap?, List.takeWhile_append_of_pos hdigits, List.dropWhile_append_of_pos hdigits,
    List.takeWhile_cons_of_neg (Bool.eq_false_iff.1 hcolon),
    List.dropWhile_cons_of_neg (Bool.eq_false_iff.1 hcolon), List.append_nil,
    List.takeWhile_append_of_pos hopen, List.dropWhile_append_of_pos hopen]
  simp

end Pieces

/-- A part of a template in writing: a text without a dollar sign, or a gap with a number that can
be read and a placeholder up to the closing brace. -/
inductive Part where
  | literal (text : List Char) (plain : '$' ∉ text)
  | gap (digits placeholder : List Char)
    (numbered : digits ≠ [] ∧ ∀ c ∈ digits, isAsciiDigit c = true)
      (short : digits.length ≤ digitLimit) (closed : '\x7d' ∉ placeholder)

namespace Part

def chars : Part → List Char
  | literal text _ => text
  | gap digits placeholder .. => '$' :: '\x7b' :: (digits ++ ':' :: (placeholder ++ ['\x7d']))

/-- The value with a number, counted from one. The placeholder stands in for one that is missing or
empty. -/
def valueOr (values : List String) (placeholder : List Char) (n : Nat) : List Char :=
  if h : 1 ≤ n ∧ n ≤ values.length then
    let value := values.get ⟨n - 1, by omega⟩
    if value = "" then placeholder else value.toList
  else placeholder

def shown (values : List String) : Part → List Char
  | literal text _ => text
  | gap digits placeholder .. => valueOr values placeholder (Nat.ofDigitChars 10 digits 0)

def pieces : Part → List Piece
  | literal text _ => text.map .plain
  | gap digits placeholder .. => [.gap digits placeholder]

variable {values : List String}

theorem pieces_chars_append (part : Part) (rest : List Char) :
    Snippet.pieces (part.chars ++ rest) = part.pieces ++ Snippet.pieces rest := by
  cases part with
  | literal text plain => exact pieces_append_of_plain plain rest
  | gap digits placeholder numbered short closed =>
    have hdigits : ∀ c ∈ digits, isDecimalDigit c = true := fun c hc =>
      isDecimalDigit_of_isAsciiDigit (numbered.2 c hc)
    have hgap := readGap?_append numbered.1 hdigits closed rest
    have hchars : (gap digits placeholder numbered short closed).chars ++ rest =
        '$' :: '\x7b' :: (digits ++ ':' :: (placeholder ++ '\x7d' :: rest)) := by
      simp [chars]
    rw [hchars, pieces_cons_of_gap hgap]
    rfl

theorem pieces_flatMap_chars (parts : List Part) :
    Snippet.pieces (parts.flatMap chars) = parts.flatMap pieces := by
  induction parts with
  | nil => rfl
  | cons part rest ih => rw [List.flatMap_cons, pieces_chars_append, ih, List.flatMap_cons]

theorem fill_gap {digits placeholder : List Char}
    (numbered : digits ≠ [] ∧ ∀ c ∈ digits, isAsciiDigit c = true)
    (short : digits.length ≤ digitLimit) (closed : '\x7d' ∉ placeholder) :
    (Piece.gap digits placeholder).fill values =
      .ok ((gap digits placeholder numbered short closed).shown values) := by
  rw [Piece.fill, if_neg (Nat.not_lt.2 short), digitsValue_eq_ofDigitChars numbered.2, shown]
  cases Nat.ofDigitChars 10 digits 0 with
  | zero => rfl
  | succ n =>
    dsimp only
    rw [valueOr]
    by_cases hn : n < values.length
    · rw [List.getElem?_eq_getElem hn, dif_pos ⟨Nat.le_add_left 1 n, hn⟩]
      rfl
    · rw [List.getElem?_eq_none (Nat.not_lt.1 hn), dif_neg fun h => hn h.2]

theorem fillPieces_pieces_append (part : Part) (rest : List Piece) :
    fillPieces values (part.pieces ++ rest) =
      (fillPieces values rest).map (part.shown values ++ ·) := by
  cases part with
  | literal text plain => exact fillPieces_plain values text rest
  | gap digits placeholder numbered short closed =>
    exact fillPieces_cons (fill_gap numbered short closed) rest

theorem fillPieces_flatMap_pieces (parts : List Part) :
    fillPieces values (parts.flatMap pieces) = .ok (parts.flatMap (shown values)) := by
  induction parts with
  | nil => rfl
  | cons part rest ih =>
    rw [List.flatMap_cons, fillPieces_pieces_append, ih, List.flatMap_cons]
    rfl

end Part

/-- A template shows its texts as they are, and in each gap the value of its number or, where there
is none or an empty one, the placeholder. -/
theorem fill_parts (parts : List Part) (values : List String) :
    fill (String.ofList (parts.flatMap Part.chars)) values =
      .ok (String.ofList (parts.flatMap (Part.shown values))) := by
  rw [fill, String.toList_ofList, Part.pieces_flatMap_chars, Part.fillPieces_flatMap_pieces]
  rfl

/-- A placeholder looks like a gap, and so does the value of the other gap. -/
example :
  fill "$\x7b2:b$\x7b1:a\x7d-$\x7b01:a\x7d" ["$\x7b2:x\x7d"] = .ok "b$\x7b1:a-$\x7b2:x\x7d" := by
  decide +kernel

end ReminderScan.Snippet
